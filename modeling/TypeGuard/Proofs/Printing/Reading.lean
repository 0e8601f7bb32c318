import TypeGuard.Proofs.Printing.Reader

/-!
# What is printed is read back

The reader takes the tokens of an elementary expression for that expression, and stops where they
end, `Expr.Elementary.reads`; so the text of a legible one is read as it,
`Expr.Elementary.read?_text`.
-/

namespace TypeGuard

open Reader

namespace Expr

/-! ### Where the reading of an expression goes on -/

/-- The places that ask for at most this precedence read the expression to its end. -/
def grip (e : Expr) : Nat :=
  if e.precedence < Precedence.call then e.precedence
  else if e.exposesCall then Precedence.call
  else Precedence.call + 1

/-- The tokens that bind at least as tightly are taken for a part of the last operand. -/
def reach : Expr → Nat
  | .unary _ _ | .update _ _ _ => Precedence.unary
  | .binary op _ _ => Precedence.ofOperator op + 1
  | .conditional _ _ _ => Precedence.assignment
  | _ => Precedence.primary

variable {e : Expr} {level : Nat}

theorem le_grip (hlevel : level ≤ Precedence.call) (h : level ≤ e.precedence) :
    level ≤ e.grip := by
  rw [grip]
  split
  · exact h
  · split <;> omega

theorem grip_of_lt (h : e.precedence < Precedence.call) : e.grip = e.precedence := if_pos h

theorem grip_of_le (h : Precedence.call ≤ e.precedence) :
    e.grip = if e.exposesCall then Precedence.call else Precedence.call + 1 :=
  if_neg (Nat.not_lt.mpr h)

theorem grip_le (e : Expr) : e.grip ≤ Precedence.call + 1 := by
  rw [grip]
  split
  · omega
  · split <;> decide

/-- An access is read to its end where its object is. -/
theorem le_grip_object {obj : Expr} (h : level ≤ e.grip) (he : Precedence.call ≤ e.precedence)
    (hexposes : e.exposesCall = (decide (Precedence.call ≤ obj.precedence) && obj.exposesCall))
    (hobj : Precedence.call ≤ obj.precedence) : level ≤ obj.grip := by
  rw [decide_eq_true hobj, Bool.true_and] at hexposes
  rwa [grip_of_le he, hexposes, ← grip_of_le hobj] at h

theorem precedence_le_primary (e : Expr) : e.precedence ≤ Precedence.primary := by
  unfold precedence
  split <;> try decide
  · split <;> decide
  · rename_i op _ _
    exact Nat.le_trans (Nat.le_of_lt (Precedence.ofOperator_lt_unary op)) (by decide)

theorem sequence_le_precedence (e : Expr) : Precedence.sequence ≤ e.precedence := by
  unfold precedence
  split <;> try decide
  · split <;> decide
  · rename_i op _ _
    exact Nat.le_trans (by decide) (Precedence.conditional_lt_ofOperator op)

theorem le_reach (h : level ≤ e.precedence) (hlevel : level ≠ Precedence.conditional) :
    level ≤ e.reach := by
  unfold reach
  split
  · exact h
  · exact h
  · exact Nat.le_succ_of_le h
  · exact Nat.le_of_lt_succ (Nat.lt_of_le_of_ne h hlevel)
  · exact Nat.le_trans h (precedence_le_primary e)

theorem lt_reach (h : level ≤ e.precedence) (hlevel : Precedence.conditional < level)
    (hunary : level < Precedence.unary) : level < e.reach := by
  unfold reach
  split
  · exact hunary
  · exact hunary
  · exact Nat.lt_succ_of_le h
  · exact absurd (Nat.lt_of_lt_of_le hlevel h) (Nat.lt_irrefl _)
  · exact Nat.lt_trans hunary (by decide)

theorem reach_eq (h : Precedence.call ≤ e.precedence) : e.reach = Precedence.primary := by
  unfold reach
  split
  · exact absurd (show 18 ≤ 15 from h) (by decide)
  · exact absurd (show 18 ≤ 15 from h) (by decide)
  · rename_i op _ _
    exact absurd (Nat.lt_of_le_of_lt h (Precedence.ofOperator_lt_unary op)) (by decide)
  · exact absurd (show 18 ≤ 3 from h) (by decide)
  · rfl

/-- Nothing extends an access, a call or a name that is not read as a part of it. -/
theorem stops_reach (h : Precedence.call ≤ e.precedence) (ts : List String) : Stops e.reach ts := by
  have hbound (t : String) : strength t < Precedence.primary := by
    rw [strength]
    repeat' split
    any_goals decide
    exact Nat.lt_trans (Precedence.ofOperator_lt_unary t) (by decide)
  rw [reach_eq h]
  exact fun t _ => hbound t

/-! ### The tokens of an expression are read as it -/

/-- The tokens of the expression are read as it in every place that reads it to its end, and the
reader goes on with what stands after them. -/
def Reads (e : Expr) : Prop :=
  ∀ level ≤ e.grip, ∀ rest, Stops e.reach rest → ∀ n, 2 * (e.tokens.length + rest.length) ≤ n →
    ∃ m, 2 * rest.length + 1 ≤ m ∧ expr? n level (e.tokens ++ rest) = extend? m level e rest

variable {rest : List String} {n : Nat}

/-- So are the tokens of the expression where its place may ask for parentheses. -/
theorem Reads.within (h : e.Reads) (place : Nat) (hgrip : place ≤ e.precedence → level ≤ e.grip)
    (hrest : place ≤ e.precedence → Stops e.reach rest)
    (hn : 2 * ((e.tokensWithin place e.tokens).length + rest.length) ≤ n) :
    ∃ m, 2 * rest.length + 1 ≤ m ∧
      expr? n level (e.tokensWithin place e.tokens ++ rest) = extend? m level e rest := by
  rw [tokensWithin] at hn ⊢
  by_cases hplace : e.precedence < place
  · rw [if_pos hplace] at hn ⊢
    simp only [List.length_cons, List.length_append, List.length_nil] at hn
    obtain ⟨k, rfl⟩ : ∃ k, n = k + 1 := ⟨n - 1, by omega⟩
    have hclose {level : Nat} (hlevel : Precedence.sequence ≤ level) : Stops level (")" :: rest) :=
      .cons (Nat.lt_of_lt_of_le (by decide) hlevel) rest
    obtain ⟨m, hm, hread⟩ := h Precedence.sequence
      (le_grip (by decide) (sequence_le_precedence e)) (")" :: rest)
      (hclose (le_reach (sequence_le_precedence e) (by decide))) k
      (by simp only [List.length_cons]; omega)
    obtain ⟨m, rfl⟩ : ∃ k, m = k + 1 := ⟨m - 1, by omega⟩
    rw [extend?_stop (hclose (Nat.le_refl _))] at hread
    refine ⟨k, by omega, ?_⟩
    rw [List.cons_append, List.append_assoc]
    exact (Operand.paren hread).expr?_eq
  · rw [if_neg hplace] at hn ⊢
    exact h level (hgrip (Nat.not_lt.mp hplace)) rest (hrest (Nat.not_lt.mp hplace)) n hn

/-- Where nothing extends the expression the reader stops after it. -/
theorem Reads.complete (h : e.Reads) (place : Nat) (hgrip : place ≤ e.precedence → level ≤ e.grip)
    (hrest : place ≤ e.precedence → Stops e.reach rest) (hstops : Stops level rest)
    (hn : 2 * ((e.tokensWithin place e.tokens).length + rest.length) ≤ n) :
    expr? n level (e.tokensWithin place e.tokens ++ rest) = some (e, rest) := by
  obtain ⟨m, hm, hread⟩ := h.within place hgrip hrest hn
  obtain ⟨k, rfl⟩ : ∃ k, m = k + 1 := ⟨m - 1, by omega⟩
  rw [hread, extend?_stop hstops]

/-- A token after the expression that extends it to another one. -/
theorem Reads.extended (h : e.Reads) (place : Nat) {e' : Expr} {token : String}
    {after : List String} (hgrip : place ≤ e.precedence → level ≤ e.grip)
    (htoken : place ≤ e.precedence → strength token < e.reach)
    (hafter : rest.length ≤ after.length)
    (hn : 2 * ((e.tokensWithin place e.tokens).length + (after.length + 1)) ≤ n)
    (hextend : ∀ k, 2 * after.length + 1 ≤ k →
      extend? (k + 1) level e (token :: after) = extend? k level e' rest) :
    ∃ m, 2 * rest.length + 1 ≤ m ∧
      expr? n level (e.tokensWithin place e.tokens ++ token :: after) =
        extend? m level e' rest := by
  obtain ⟨m, hm, hread⟩ := h.within place hgrip (fun hplace => .cons (htoken hplace) after) hn
  rw [List.length_cons] at hm
  obtain ⟨k, rfl⟩ : ∃ k, m = k + 1 := ⟨m - 1, by omega⟩
  exact ⟨k, by omega, hread.trans (hextend k (by omega))⟩

/-- An operand is read as it is where nothing binds it from the right more tightly. -/
theorem Reads.operand (h : e.Reads) (hlevel : level < Precedence.call)
    (hne : level ≠ Precedence.conditional) (hstops : Stops level rest)
    (hn : 2 * ((e.tokensWithin level e.tokens).length + rest.length) ≤ n) :
    expr? n level (e.tokensWithin level e.tokens ++ rest) = some (e, rest) :=
  h.complete level (le_grip (Nat.le_of_lt hlevel)) (fun hplace => hstops.mono (le_reach hplace hne))
    hstops hn

theorem tokensWithin_sequence (e : Expr) (tokens : List String) :
    e.tokensWithin Precedence.sequence tokens = tokens :=
  if_neg (Nat.not_lt.mpr (sequence_le_precedence e))

/-- An expression is read as it is up to a bracket that closes it. -/
theorem Reads.enclosed (h : e.Reads) (hstops : Stops Precedence.sequence rest)
    (hn : 2 * (e.tokens.length + rest.length) ≤ n) :
    expr? n Precedence.sequence (e.tokens ++ rest) = some (e, rest) := by
  rw [← tokensWithin_sequence e e.tokens] at hn ⊢
  exact h.operand (by decide) (by decide) hstops hn

theorem Reads.enclosed_length (h : e.Reads) (hstops : Stops Precedence.sequence rest) :
    expr? (2 * (e.tokens ++ rest).length) Precedence.sequence (e.tokens ++ rest) = some (e, rest) :=
  h.enclosed hstops (Nat.le_of_eq (by rw [List.length_append]))

/-- The first token of an expression is one that an expression can begin with. -/
theorem Reads.exists_head (h : e.Reads) (place : Nat) :
    ∃ t ts, e.tokensWithin place e.tokens = t :: ts ∧
      t ∉ [")", "\x7b", "\x7d", "if", "else"] := by
  rw [tokensWithin]
  split
  · exact ⟨"(", _, rfl, by decide⟩
  · obtain ⟨m, hm, hread⟩ := h Precedence.sequence
      (le_grip (by decide) (sequence_le_precedence e)) [] .nil _ (Nat.le_refl _)
    obtain ⟨k, rfl⟩ : ∃ k, m = k + 1 := ⟨m - 1, by omega⟩
    rw [List.append_nil, extend?_stop .nil] at hread
    cases htokens : e.tokens with
    | nil =>
      rw [htokens, expr?_nil] at hread
      cases hread
    | cons t ts =>
      refine ⟨t, ts, rfl, fun ht => ?_⟩
      rw [htokens, expr?_eq_none ht] at hread
      cases hread

/-- The arguments of a call are read as they are, up to the parenthesis that closes them. -/
theorem args?_argTokens {args : List Expr} (hreads : ∀ a ∈ args, a.Reads)
    (hn : 2 * ((argTokens args).length + 1 + rest.length) + 1 ≤ n) :
    args? n (argTokens args ++ ")" :: rest) = some (args, rest) := by
  obtain ⟨k, rfl⟩ : ∃ k, n = k + 1 := ⟨n - 1, by omega⟩
  induction args generalizing k with
  | nil => exact args?_eq_some.mpr .nil
  | cons a args ih =>
    have ha := hreads a List.mem_cons_self
    have hhead (ts : List String) :
        (a.tokensWithin Precedence.assignment a.tokens ++ ts).head? ≠ some ")" := by
      obtain ⟨t, _, ht, hne⟩ := ha.exists_head Precedence.assignment
      rw [ht]
      exact fun h => hne (by simp [Option.some.inj h])
    cases args with
    | nil =>
      refine args?_eq_some.mpr (.single (hhead _) ?_)
      refine ha.operand (by decide) (by decide) (.cons (by decide) _) ?_
      simp only [argTokens, List.length_cons] at hn ⊢
      omega
    | cons b args =>
      rw [argTokens, List.append_assoc]
      simp only [argTokens, List.length_append, List.length_cons] at hn
      obtain ⟨j, rfl⟩ : ∃ j, k = j + 1 := ⟨k - 1, by omega⟩
      refine args?_eq_some.mpr (.cons (hhead _) ?_
        (ih (fun x hx => hreads x (List.mem_cons_of_mem _ hx)) j ?_))
      · refine ha.operand (by decide) (by decide) (.cons (by decide) _) ?_
        simp only [List.length_cons, List.length_append]
        omega
      · omega
      · simp

/-- The tokens of a legible elementary expression are read as it. -/
theorem Elementary.reads (he : e.Elementary) : e.isLegible = true → e.Reads := by
  induction he with
  | ident hname =>
    intro _ level _ rest _ n hn
    obtain ⟨k, rfl⟩ : ∃ k, n = k + 1 := ⟨n - 1, by simp [tokens] at hn; omega⟩
    exact ⟨k, by simp [tokens] at hn; omega, (Operand.name hname).expr?_eq⟩
  | @member obj name _ hname ih =>
    intro hlegible level hlevel rest _ n hn
    simp only [tokens, List.length_append, List.length_cons, List.length_nil] at hn
    simp only [tokens, List.append_assoc, List.cons_append, List.nil_append]
    refine (ih hlegible).extended Precedence.call (le_grip_object hlevel (Nat.le_refl _) rfl)
      (fun h => by rw [reach_eq h]; decide) (Nat.le_succ _) (by simp; omega) fun k _ => ?_
    exact (Extension.member (Nat.le_trans hlevel (grip_le _)) hname).extend?_eq
  | @index obj key _ _ ihobj ihkey =>
    intro hlegible level hlevel rest _ n hn
    rw [isLegible, Bool.and_eq_true] at hlegible
    simp only [tokens, List.length_append, List.length_cons, List.length_nil] at hn
    simp only [tokens, List.append_assoc, List.cons_append, List.nil_append]
    refine (ihobj hlegible.1).extended Precedence.call (le_grip_object hlevel (Nat.le_refl _) rfl)
      (fun h => by rw [reach_eq h]; decide) (by simp; omega) (by simp; omega) fun k hk => ?_
    simp only [List.length_append, List.length_cons] at hk
    refine Extension.extend?_eq (.index (Nat.le_trans hlevel (grip_le _)) ?_)
    exact (ihkey hlegible.2).enclosed (.cons (by decide) _) (by simp only [List.length_cons]; omega)
  | @call callee args _ _ ih ihargs =>
    intro hlegible level hlevel rest _ n hn
    rw [isLegible, Bool.and_eq_true, areLegible_iff] at hlegible
    have hcall : level ≤ Precedence.call := by rwa [grip_of_le (Nat.le_refl _)] at hlevel
    simp only [tokens, List.length_append, List.length_cons, List.length_nil] at hn
    simp only [tokens, List.append_assoc, List.cons_append, List.nil_append]
    refine (ih hlegible.1).extended Precedence.call
      (fun h => Nat.le_trans hcall (le_grip (Nat.le_refl _) h))
      (fun h => by rw [reach_eq h]; decide) (by simp; omega) (by simp; omega) fun k hk => ?_
    simp only [List.length_append, List.length_cons] at hk
    refine Extension.extend?_eq (.call hcall ?_)
    exact args?_argTokens (fun a ha => ihargs a ha (hlegible.2 a ha)) (by omega)
  | @new callee args _ _ ih ihargs =>
    intro hlegible level _ rest _ n hn
    rw [isLegible, Bool.and_eq_true, Bool.and_eq_true, Bool.not_eq_true',
      areLegible_iff] at hlegible
    simp only [tokens, List.length_append, List.length_cons, List.length_nil] at hn
    obtain ⟨k, rfl⟩ : ∃ k, n = k + 1 := ⟨n - 1, by omega⟩
    refine ⟨k, by omega, ?_⟩
    simp only [tokens, List.append_assoc, List.cons_append, List.nil_append]
    refine Operand.expr?_eq (.new ((ih hlegible.1.2).complete Precedence.call (fun h => ?_)
      (fun h => stops_reach h _) (.cons (by decide) _) (by simp; omega)) ?_)
    · exact Nat.le_of_eq (by rw [grip_of_le h, hlegible.1.1, if_neg Bool.false_ne_true])
    · exact args?_argTokens (fun a ha => ihargs a ha (hlegible.2 a ha)) (by omega)
  | unary hop _ ih =>
    intro hlegible level hlevel rest hrest n hn
    rw [isLegible, Bool.and_eq_true] at hlegible
    simp only [tokens, List.length_cons] at hn
    obtain ⟨k, rfl⟩ : ∃ k, n = k + 1 := ⟨n - 1, by omega⟩
    refine ⟨k, by omega, Operand.expr?_eq (.unary hop hlevel ?_)⟩
    exact (ih hlegible.2).operand (by decide) (by decide) hrest (by omega)
  | @update op isPrefix arg hop _ ih =>
    intro hlegible level hlevel rest hrest n hn
    cases isPrefix with
    | true =>
      simp only [tokens, List.length_cons] at hn
      obtain ⟨k, rfl⟩ : ∃ k, n = k + 1 := ⟨n - 1, by omega⟩
      refine ⟨k, by omega, Operand.expr?_eq (.update hop hlevel ?_)⟩
      exact (ih hlegible).operand (by decide) (by decide) hrest (by omega)
    | false =>
      simp only [tokens, List.length_append, List.length_cons, List.length_nil] at hn
      simp only [tokens, List.append_assoc, List.cons_append, List.nil_append]
      have hunary : level ≤ Precedence.unary := hlevel
      refine (ih hlegible).extended Precedence.call
        (fun h => Nat.le_trans (Nat.le_trans hunary (by decide)) (le_grip (Nat.le_refl _) h))
        (fun h => by rw [reach_eq h, strength_update op hop]; decide) (Nat.le_refl _) (by omega)
        fun k _ => ?_
      exact (Extension.update hop hlevel hrest).extend?_eq
  | @binary op left right hop _ _ ihleft ihright =>
    intro hlegible level hlevel rest hrest n hn
    rw [isLegible, Bool.and_eq_true] at hlegible
    have hloose := Precedence.conditional_lt_ofOperator op
    have htight := Precedence.ofOperator_lt_unary op
    have hcall : Precedence.ofOperator op < Precedence.call := Nat.lt_trans htight (by decide)
    have hlevel : level ≤ Precedence.ofOperator op := by
      rwa [grip_of_lt (e := .binary op left right) hcall] at hlevel
    simp only [tokens, List.length_append, List.length_cons] at hn
    simp only [tokens, List.append_assoc, List.cons_append]
    refine (ihleft hlegible.1).extended (Precedence.ofOperator op)
      (fun h => le_grip (Nat.le_of_lt (Nat.lt_of_le_of_lt hlevel hcall)) (Nat.le_trans hlevel h))
      (fun h => by rw [strength_binary op hop]; exact lt_reach h hloose htight) (by simp)
      (by simp; omega) fun k hk => ?_
    refine Extension.extend?_eq
      (.binary hop hlevel ((ihright hlegible.2).operand ?_ ?_ hrest ?_))
    · exact Nat.lt_of_le_of_lt htight (by decide)
    · exact Nat.ne_of_gt (Nat.lt_succ_of_lt hloose)
    · simp at hk
      omega
  | @conditional test consequent alternate _ _ _ ihtest ihconsequent ihalternate =>
    intro hlegible level hlevel rest hrest n hn
    rw [isLegible, Bool.and_eq_true, Bool.and_eq_true] at hlegible
    have hlevel : level ≤ Precedence.conditional := hlevel
    simp only [tokens, List.length_append, List.length_cons] at hn
    simp only [tokens, List.append_assoc, List.cons_append]
    refine (ihtest hlegible.1.1).extended (Precedence.conditional + 1)
      (fun h => le_grip (Nat.le_trans hlevel (by decide)) (Nat.le_trans hlevel (Nat.le_of_lt h)))
      (fun h => Nat.lt_trans (by decide) (lt_reach h (by decide) (by decide))) (by simp; omega)
      (by simp; omega) fun k hk => ?_
    simp only [List.length_append, List.length_cons] at hk
    refine Extension.extend?_eq (.conditional hlevel
      ((ihconsequent hlegible.1.2).operand (by decide) (by decide) (.cons (by decide) _) ?_)
      ((ihalternate hlegible.2).operand (by decide) (by decide) hrest (by omega)))
    simp only [List.length_append, List.length_cons]
    omega

theorem Elementary.tokenize_all (he : e.Elementary) (hlegible : e.isLegible = true) (l : Layout) :
    tokenize (e.text l).toList = e.tokens := by
  have htext := he.tokenize_text l hlegible [] .nil
  rwa [tokenize, List.append_nil, List.append_nil] at htext

/-- The text of a legible elementary expression is read as it. -/
theorem Elementary.read?_text (he : e.Elementary) (hlegible : e.isLegible = true) (l : Layout) :
    read? (e.text l) = some e := by
  have hread := (he.reads hlegible).enclosed_length .nil
  rw [List.append_nil] at hread
  rw [read?, he.tokenize_all hlegible l]
  simp only [hread]

end Expr

end TypeGuard
