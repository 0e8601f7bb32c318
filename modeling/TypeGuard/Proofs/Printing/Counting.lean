import TypeGuard.Proofs.Printing.Reading

/-!
# Counting parentheses

The reader uses up at least as many parentheses as are printed for what it returns, `Reader.counts`.
Every form that is read first and every extension of it is accounted for by itself: it is printed
with no more parentheses than were used up for its parts, in its place and before what follows it.
-/

namespace TypeGuard

namespace Reader

open TypeGuard.Expr

/-- The number of parentheses that are opened. -/
def opened (tokens : List String) : Nat := tokens.count "("

section

variable (token : String) (ts us : List String)

@[simp] theorem opened_nil : opened [] = 0 := rfl

@[simp] theorem opened_append : opened (ts ++ us) = opened ts + opened us := List.count_append

@[simp] theorem opened_paren : opened ("(" :: ts) = opened ts + 1 := List.count_cons_self

theorem opened_cons {token : String} (h : token ≠ "(") : opened (token :: ts) = opened ts :=
  List.count_cons_of_ne h

end

/-- The precedence that the printer asks of what stands before the token. -/
def demand (token : String) : Nat :=
  if token ∈ [".", "[", "("] ∨ token ∈ Operator.update then Precedence.call
  else if token ∈ Operator.binary then Precedence.ofOperator token
  else if token = "?" then Precedence.conditional + 1
  else 0

theorem demand_update : ∀ op ∈ Operator.update, demand op = Precedence.call := by decide

theorem demand_binary : ∀ op ∈ Operator.binary, demand op = Precedence.ofOperator op := by decide

theorem demand_le_call (token : String) : demand token ≤ Precedence.call := by
  rw [demand]
  repeat' split
  any_goals decide
  exact Nat.le_trans (Nat.le_of_lt (Precedence.ofOperator_lt_unary token)) (by decide)

/-- What does not extend an operand does not ask it for more precedence than its place does. -/
theorem demand_lt {token : String} {level : Nat} (h : strength token < level)
    (hunary : level ≤ Precedence.unary) (hne : level ≠ Precedence.conditional + 1) :
    demand token < level := by
  have hupdate (hop : token ∈ Operator.update) : False := by
    rw [strength_update token hop] at h
    exact absurd (Nat.lt_of_lt_of_le h hunary) (Nat.lt_irrefl _)
  have haccess : ∀ t ∈ [".", "[", "("], ¬ strength t < Precedence.unary := by decide
  rw [demand]
  split
  case isTrue htoken =>
    obtain hmem | hop := htoken
    · exact absurd (Nat.lt_of_lt_of_le h hunary) (haccess token hmem)
    · exact (hupdate hop).elim
  case isFalse =>
  split
  case isTrue hop => rwa [← strength_binary token hop]
  case isFalse =>
  split
  case isTrue hquestion =>
    rw [hquestion] at h
    exact Nat.lt_of_le_of_ne (Nat.succ_le_of_lt h) hne.symm
  case isFalse => exact Nat.lt_of_le_of_lt (Nat.zero_le _) h

variable {n level c : Nat} {e e' : Expr} {ts rest : List String}

theorem opened_within (level : Nat) (e : Expr) :
    opened (e.tokensWithin level e.tokens) =
      opened e.tokens + if e.precedence < level then 1 else 0 := by
  rw [tokensWithin]
  split <;> simp [opened_cons]

/-- The expression fits a place that asks for the precedence `level`, and what follows, with at most
`c` parentheses. -/
structure Fits (level : Nat) (e : Expr) (ts : List String) (c : Nat) : Prop where
  place : opened (e.tokensWithin (min level Precedence.call) e.tokens) ≤ c
  follower : ∀ t ∈ ts.head?, opened (e.tokensWithin (demand t) e.tokens) ≤ c

theorem Fits.of_bounds (hlevel : min level Precedence.call ≤ e.precedence)
    (hfollower : ∀ t ∈ ts.head?, demand t ≤ e.precedence) : Fits level e ts (opened e.tokens) where
  place := Nat.le_of_eq (by rw [tokensWithin, if_neg (Nat.not_lt.mpr hlevel)])
  follower t ht := Nat.le_of_eq (by rw [tokensWithin, if_neg (Nat.not_lt.mpr (hfollower t ht))])

theorem Fits.of_call (h : Precedence.call ≤ e.precedence) : Fits level e ts (opened e.tokens) :=
  .of_bounds (Nat.le_trans (Nat.min_le_right _ _) h) fun t _ => Nat.le_trans (demand_le_call t) h

/-- What the reader stopped at asks for no more than the last operand did. -/
theorem Fits.of_stops {inner : Nat} (hstops : Stops inner ts) (hlevel : level ≤ e.precedence)
    (hinner : inner ≤ e.precedence + 1) (hunary : inner ≤ Precedence.unary)
    (hne : inner ≠ Precedence.conditional + 1) : Fits level e ts (opened e.tokens) :=
  .of_bounds (Nat.le_trans (Nat.min_le_left _ _) hlevel) fun t ht =>
    Nat.le_of_lt_succ (Nat.lt_of_lt_of_le (demand_lt (hstops t ht) hunary hne) hinner)

theorem Fits.of_paren (e : Expr) : Fits level e ts (opened e.tokens + 1) where
  place := by rw [opened_within]; split <;> omega
  follower t ht := by rw [opened_within]; split <;> omega

/-- The functions of the reader use up no fewer parentheses than their results have. -/
structure Counts (n : Nat) : Prop where
  expr : ∀ level ts e rest, expr? n level ts = some (e, rest) → Stops level rest ∧
    opened (e.tokensWithin (min level Precedence.call) e.tokens) + opened rest ≤ opened ts
  args : ∀ ts es rest, args? n ts = some (es, rest) →
    opened (argTokens es) + opened rest ≤ opened ts
  extend : ∀ level e ts e' rest c, extend? n level e ts = some (e', rest) → Fits level e ts c →
    Stops level rest ∧
      opened (e'.tokensWithin (min level Precedence.call) e'.tokens) + opened rest ≤ c + opened ts

theorem opened_le_within (level : Nat) (e : Expr) :
    opened e.tokens ≤ opened (e.tokensWithin level e.tokens) := by
  rw [opened_within]
  exact Nat.le_add_right _ _

/-- An operand is printed with no more parentheses than are used up for it. -/
theorem Counts.operand (ih : Counts n) (h : Operand n level ts e rest) :
    ∃ c, Fits level e rest c ∧ c + opened rest ≤ opened ts := by
  cases h with
  | paren he =>
    have hcount := (ih.expr _ _ _ _ he).2
    have hle := opened_le_within (min Precedence.sequence Precedence.call) e
    refine ⟨_, .of_paren e, ?_⟩
    rw [opened_cons _ (by decide)] at hcount
    rw [opened_paren]
    omega
  | new hcallee hargs =>
    have hcount := (ih.expr _ _ _ _ hcallee).2
    have hcountArgs := ih.args _ _ _ hargs
    have hmin : min (Precedence.call + 1) Precedence.call = Precedence.call := by decide
    refine ⟨_, .of_call (Nat.le_refl _), ?_⟩
    rw [hmin, opened_paren] at hcount
    rw [opened_cons _ (by decide), tokens, opened_cons _ (by decide), opened_append, opened_paren,
      opened_append, opened_cons _ (by decide), opened_nil]
    omega
  | unary hop hlevel harg =>
    have hother : "(" ∉ Operator.unary := by decide
    obtain ⟨hstops, hcount⟩ := ih.expr _ _ _ _ harg
    refine ⟨_, .of_stops hstops hlevel (Nat.le_succ _) (Nat.le_refl _) (by decide), ?_⟩
    rw [tokens, opened_cons _ (ne_of_mem_of_not_mem hop hother),
      opened_cons _ (ne_of_mem_of_not_mem hop hother)]
    exact hcount
  | update hop hlevel harg =>
    have hother : "(" ∉ Operator.update := by decide
    obtain ⟨hstops, hcount⟩ := ih.expr _ _ _ _ harg
    refine ⟨_, .of_stops hstops hlevel (Nat.le_succ _) (Nat.le_refl _) (by decide), ?_⟩
    rw [tokens, opened_cons _ (ne_of_mem_of_not_mem hop hother),
      opened_cons _ (ne_of_mem_of_not_mem hop hother)]
    exact hcount
  | @name name _ hname =>
    have hne : name ≠ "(" := by
      rintro rfl
      exact absurd hname (by decide)
    refine ⟨_, .of_call (show 18 ≤ 20 by decide), Nat.le_of_eq ?_⟩
    rw [tokens, opened_cons _ hne, opened_cons _ hne, opened_nil, Nat.zero_add]

/-- So is what an expression is extended to. -/
theorem Counts.extension (ih : Counts n) (h : Extension n level e ts e' rest)
    (hfits : Fits level e ts c) :
    ∃ c', Fits level e' rest c' ∧ c' + opened rest ≤ c + opened ts := by
  have hfollower := hfits.follower
  cases h with
  | @member name _ _ hword =>
    have hname : name ≠ "(" := by
      rintro rfl
      exact absurd hword (by decide)
    refine ⟨_, .of_call (Nat.le_refl _), ?_⟩
    rw [tokens, opened_append, opened_cons _ (by decide), opened_cons _ hname, opened_nil,
      opened_cons _ (by decide), opened_cons _ hname]
    exact Nat.add_le_add_right (hfollower "." rfl) _
  | @index _ key _ _ hkey =>
    have hobj : opened (e.tokensWithin Precedence.call e.tokens) ≤ c := hfollower "[" rfl
    have hcount := (ih.expr _ _ _ _ hkey).2
    have hle := opened_le_within (min Precedence.sequence Precedence.call) key
    refine ⟨_, .of_call (Nat.le_refl _), ?_⟩
    rw [opened_cons _ (by decide)] at hcount ⊢
    rw [tokens, opened_append, opened_cons _ (by decide), opened_append, opened_cons _ (by decide),
      opened_nil]
    omega
  | call _ hargs =>
    have hcallee : opened (e.tokensWithin Precedence.call e.tokens) ≤ c := hfollower "(" rfl
    have hcountArgs := ih.args _ _ _ hargs
    refine ⟨_, .of_call (Nat.le_refl _), ?_⟩
    rw [tokens, opened_append, opened_paren, opened_append, opened_cons _ (by decide), opened_nil,
      opened_paren]
    omega
  | @update op _ hop hlevel hrest =>
    have hother : "(" ∉ Operator.update := by decide
    have harg := hfollower op rfl
    rw [demand_update op hop] at harg
    refine ⟨_, .of_stops hrest hlevel (Nat.le_succ _) (Nat.le_refl _) (by decide), ?_⟩
    rw [opened_cons _ (ne_of_mem_of_not_mem hop hother), tokens, opened_append,
      opened_cons _ (ne_of_mem_of_not_mem hop hother), opened_nil]
    exact Nat.add_le_add_right harg _
  | @binary op _ right _ hop hlevel hright =>
    have hother : "(" ∉ Operator.binary := by decide
    have hloose := Precedence.conditional_lt_ofOperator op
    have htight := Precedence.ofOperator_lt_unary op
    have hcall : Precedence.ofOperator op + 1 ≤ Precedence.call := Nat.le_trans htight (by decide)
    have hleft := hfollower op rfl
    obtain ⟨hstops, hcount⟩ := ih.expr _ _ _ _ hright
    rw [demand_binary op hop] at hleft
    rw [Nat.min_eq_left hcall] at hcount
    refine ⟨_, .of_stops hstops hlevel (Nat.le_refl _) htight ?_, ?_⟩
    · exact Nat.ne_of_gt (Nat.succ_lt_succ hloose)
    · rw [opened_cons _ (ne_of_mem_of_not_mem hop hother), tokens, opened_append,
        opened_cons _ (ne_of_mem_of_not_mem hop hother)]
      omega
  | conditional hlevel hconsequent halternate =>
    have htest : opened (e.tokensWithin (Precedence.conditional + 1) e.tokens) ≤ c :=
      hfollower "?" rfl
    have hmin : min Precedence.assignment Precedence.call = Precedence.assignment := by decide
    have hcount := (ih.expr _ _ _ _ hconsequent).2
    obtain ⟨hstops, hcount'⟩ := ih.expr _ _ _ _ halternate
    rw [hmin] at hcount hcount'
    rw [opened_cons _ (by decide)] at hcount
    refine ⟨_, .of_stops hstops hlevel (show 2 ≤ 3 + 1 by decide) (by decide) (by decide), ?_⟩
    rw [opened_cons _ (by decide), tokens, opened_append, opened_cons _ (by decide), opened_append,
      opened_cons _ (by decide)]
    omega

theorem opened_argTokens_cons (e : Expr) (es : List Expr) :
    opened (argTokens (e :: es)) =
      opened (e.tokensWithin Precedence.assignment e.tokens) + opened (argTokens es) := by
  cases es with
  | nil => rw [argTokens, argTokens, opened_nil, Nat.add_zero]
  | cons f es =>
    rw [argTokens, opened_append, opened_cons _ (by decide)]
    exact List.cons_ne_nil f es

/-- So are the arguments of a call. -/
theorem Counts.arguments (ih : Counts n) {es : List Expr} (h : Arguments n ts es rest) :
    opened (argTokens es) + opened rest ≤ opened ts := by
  have hmin : min Precedence.assignment Precedence.call = Precedence.assignment := by decide
  cases h with
  | nil =>
    rw [argTokens, opened_cons _ (by decide)]
    exact Nat.le_of_eq (Nat.zero_add _)
  | single _ he =>
    have hcount := (ih.expr _ _ _ _ he).2
    rw [hmin, opened_cons _ (by decide)] at hcount
    exact hcount
  | cons _ he hes =>
    have hcount := (ih.expr _ _ _ _ he).2
    have hcountArgs := ih.args _ _ _ hes
    rw [hmin, opened_cons _ (by decide)] at hcount
    rw [opened_argTokens_cons]
    omega

/-- The reader uses up no fewer parentheses than its results have. -/
theorem counts (n : Nat) : Counts n := by
  induction n with
  | zero => exact ⟨nofun, nofun, nofun⟩
  | succ n ih =>
    refine ⟨fun level ts e rest h => ?_, fun ts es rest h => ih.arguments (args?_eq_some.mp h),
      fun level e ts e' rest c h hfits => ?_⟩
    · obtain ⟨f, after, hoperand, h⟩ := exists_operand h
      obtain ⟨c, hfits, hle⟩ := ih.operand hoperand
      obtain ⟨hstops, hcount⟩ := ih.extend _ _ _ _ _ _ h hfits
      exact ⟨hstops, Nat.le_trans hcount hle⟩
    · obtain ⟨hresult, hstops⟩ | ⟨f, after, hextension, h⟩ := stops_or_exists_extension h
      · cases hresult
        exact ⟨hstops, Nat.add_le_add_right hfits.place _⟩
      · obtain ⟨c', hfits, hle⟩ := ih.extension hextension hfits
        obtain ⟨hstops, hcount⟩ := ih.extend _ _ _ _ _ _ h hfits
        exact ⟨hstops, Nat.le_trans hcount hle⟩

end Reader

end TypeGuard
