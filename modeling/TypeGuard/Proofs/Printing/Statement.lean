import TypeGuard.Proofs.Printing.Reading

/-!
# Reading statements

The statements that are built from elementary expressions by blocks and conditionals, their tokens
and their reader. An `else` is read as that of the nearest conditional before it that has none, so a
statement is read back from its text, `Stmt.Elementary.read?_text`, unless such a conditional ends
the first branch of another one.
-/

namespace TypeGuard

open Reader Sign

/-- The statements built from elementary expressions by blocks and conditionals. -/
inductive Stmt.Elementary : Stmt → Prop
  | expr {e} (he : e.Elementary) : Elementary (.expr e)
  | block {ss} (hss : ∀ s ∈ ss, Elementary s) : Elementary (.block ss)
  | ifThen {test consequent} (htest : test.Elementary) (hconsequent : Elementary consequent) :
    Elementary (.ifElse test consequent none)
  | ifElse {test consequent alternate} (htest : test.Elementary)
      (hconsequent : Elementary consequent) (halternate : Elementary alternate) :
    Elementary (.ifElse test consequent (some alternate))

namespace Stmt

mutual
/-- The tokens of an elementary statement. -/
def tokens : Stmt → List String
  | .expr e => e.tokens ++ [";"]
  | .block ss => "\x7b" :: (stmtTokens ss ++ ["\x7d"])
  | .ifElse test consequent none => "if" :: "(" :: (test.tokens ++ ")" :: consequent.tokens)
  | .ifElse test consequent (some alternate) =>
    "if" :: "(" :: (test.tokens ++ ")" :: (consequent.tokens ++ "else" :: alternate.tokens))
  | _ => []

def stmtTokens : List Stmt → List String
  | [] => []
  | s :: ss => s.tokens ++ stmtTokens ss
end

/-- Whether the statement ends with a conditional that could go on with an `else`. -/
def endsOpen : Stmt → Bool
  | .ifElse _ _ none => true
  | .ifElse _ _ (some alternate) => alternate.endsOpen
  | _ => false

mutual
/-- Whether the expressions are legible and no `else` is taken for that of another conditional. -/
def isLegible : Stmt → Bool
  | .expr e => e.isLegible
  | .block ss => areLegible ss
  | .ifElse test consequent none => test.isLegible && consequent.isLegible
  | .ifElse test consequent (some alternate) =>
    !consequent.endsOpen && test.isLegible && consequent.isLegible && alternate.isLegible
  | _ => true

def areLegible : List Stmt → Bool
  | [] => true
  | s :: ss => s.isLegible && areLegible ss
end

end Stmt

/-! ### Texts -/

theorem tokenize_blanks {blanks : List Char} (h : ∀ c ∈ blanks, isBlank c = true)
    (rest : List Char) : tokenize (blanks ++ rest) = tokenize rest := by
  induction blanks with
  | nil => rfl
  | cons c cs ih =>
    rw [List.cons_append, tokenize_blank (h c List.mem_cons_self)]
    exact ih fun d hd => h d (List.mem_cons_of_mem _ hd)

theorem Expr.Elementary.startsAmbiguously_eq {e : Expr} (he : e.Elementary) :
    e.startsAmbiguously = false := by
  induction he with
  | ident | new | unary => rfl
  | member _ _ ih | index _ _ ih | call _ _ ih => exact ih
  | @update _ isPrefix _ _ _ ih =>
    cases isPrefix with
    | true => rfl
    | false => exact ih
  | binary _ _ _ ih => exact ih
  | conditional _ _ _ ih => exact ih

namespace Layout

variable (l : Layout)

theorem blank_indent : ∀ c ∈ l.indent.toList, isBlank c = true := by
  cases l with
  | pretty level =>
    intro c hc
    rw [indent, String.toList_ofList] at hc
    rw [List.eq_of_mem_replicate hc]
    rfl
  | concise => exact nofun

theorem blank_afterOpen : ∀ c ∈ l.afterOpen.toList, isBlank c = true := by
  cases l with
  | pretty level =>
    have hbreak : ∀ c ∈ "\n".toList, isBlank c = true := forall_mem_of_all (by decide)
    exact hbreak
  | concise => exact nofun

theorem blank_beforeClose : ∀ c ∈ l.beforeClose.toList, isBlank c = true := by
  cases l with
  | pretty level => exact (pretty level).blank_indent
  | concise => exact forall_mem_of_all (by decide)

/-- Lines are texts between blanks. -/
theorem exists_lines : ∃ before after : String, (∀ c ∈ before.toList, isBlank c = true) ∧
    (∀ c ∈ after.toList, isBlank c = true) ∧
    ∀ texts, l.lines texts = String.join (texts.map fun t => before ++ t ++ after) := by
  cases l with
  | pretty level =>
    exact ⟨_, "\n", (pretty level).blank_indent, (pretty level).blank_afterOpen, fun _ => rfl⟩
  | concise =>
    exact ⟨" ", "", forall_mem_of_all (by decide), nofun, fun texts => by simp [lines]⟩

end Layout

namespace Stmt

/-- Statements on lines of their own are cut into their tokens if each of them is. -/
theorem tokenize_lines (l : Layout) {ss : List Stmt}
    (h : ∀ s ∈ ss, ∀ rest, tokenize ((s.text l).toList ++ rest) = s.tokens ++ tokenize rest)
    (rest : List Char) :
    tokenize ((l.lines (stmtTexts l ss)).toList ++ rest) = stmtTokens ss ++ tokenize rest := by
  obtain ⟨before, after, hbefore, hafter, hlines⟩ := l.exists_lines
  rw [hlines]
  induction ss with
  | nil => simp [stmtTexts, stmtTokens]
  | cons s ss ih =>
    rw [stmtTexts, List.map_cons, String.join_cons, stmtTokens]
    simp only [String.toList_append, List.append_assoc]
    rw [tokenize_blanks hbefore, h s List.mem_cons_self, tokenize_blanks hafter,
      ih fun x hx => h x (List.mem_cons_of_mem _ hx)]

theorem tokenize_block (l : Layout) {ss : List Stmt}
    (h : ∀ s ∈ ss, ∀ rest,
      tokenize ((s.text l.deeper).toList ++ rest) = s.tokens ++ tokenize rest) (rest : List Char) :
    tokenize ((l.block (stmtTexts l.deeper ss)).toList ++ rest) =
      "\x7b" :: (stmtTokens ss ++ "\x7d" :: tokenize rest) := by
  have hopen := tokenize_mark "\x7b" (by decide) (by decide)
  have hclose := tokenize_mark "\x7d" (by decide) (by decide)
  cases ss with
  | nil =>
    have hempty : "\x7b\x7d" = "\x7b" ++ "\x7d" := by decide
    rw [stmtTexts, Layout.block, List.isEmpty_nil, if_pos rfl, hempty, String.toList_append,
      List.append_assoc, hopen, hclose]
    rfl
  | cons s ss =>
    have hlines := tokenize_lines l.deeper h
    rw [Layout.block, if_neg (by simp [stmtTexts])]
    simp only [String.toList_append, List.append_assoc]
    rw [hopen, tokenize_blanks l.blank_afterOpen, hlines, tokenize_blanks l.blank_beforeClose,
      hclose]

theorem areLegible_iff {ss : List Stmt} :
    areLegible ss = true ↔ ∀ s ∈ ss, s.isLegible = true := by
  induction ss with
  | nil => simp [areLegible]
  | cons s ss ih => simp [areLegible, ih]

/-- A conditional up to its first branch. -/
theorem tokenize_test {test : Expr} (htest : test.Elementary) (hlegible : test.isLegible = true)
    (l : Layout) (rest : List Char) :
    tokenize ("if (".toList ++ ((test.text l).toList ++ (") ".toList ++ rest))) =
      "if" :: "(" :: (test.tokens ++ ")" :: tokenize rest) := by
  have hopen : "if (" = "if" ++ " " ++ "(" := by decide
  have hclose : ") " = ")" ++ " " := by decide
  rw [hopen, hclose]
  simp only [String.toList_append, List.append_assoc]
  rw [tokenize_word (by decide) (.text " " (by decide) _), tokenize_space,
    tokenize_mark "(" (by decide) (by decide),
    htest.tokenize_text l hlegible _ (.text ")" (by decide) _),
    tokenize_mark ")" (by decide) (by decide), tokenize_space]

theorem text_expr (l : Layout) (e : Expr) :
    (expr e).text l = parensIf e.startsAmbiguously (e.text l) ++ ";" := rfl

theorem text_block (l : Layout) (ss : List Stmt) :
    (block ss).text l = l.block (stmtTexts l.deeper ss) := rfl

theorem text_ifThen (l : Layout) (test : Expr) (consequent : Stmt) :
    (ifElse test consequent none).text l =
      "if (" ++ test.text l ++ ") " ++ consequent.text l ++ "" := rfl

theorem text_ifElse (l : Layout) (test : Expr) (consequent alternate : Stmt) :
    (ifElse test consequent (some alternate)).text l =
      "if (" ++ test.text l ++ ") " ++ consequent.text l ++ (" else " ++ alternate.text l) := rfl

/-- The text of an elementary statement is cut into its tokens, whatever stands after it. -/
theorem Elementary.tokenize_text {s : Stmt} (h : s.Elementary) :
    s.isLegible = true → ∀ l rest,
      tokenize ((s.text l).toList ++ rest) = s.tokens ++ tokenize rest := by
  induction h with
  | expr he =>
    intro hlegible l rest
    rw [text_expr, tokens, he.startsAmbiguously_eq, parensIf, if_neg Bool.false_ne_true]
    simp only [String.toList_append, List.append_assoc]
    rw [he.tokenize_text l hlegible _ (.text ";" (by decide) rest),
      tokenize_mark ";" (by decide) (by decide)]
    rfl
  | block _ ih =>
    intro hlegible l rest
    rw [isLegible, areLegible_iff] at hlegible
    rw [text_block, tokens, tokenize_block l fun s hs => ih s hs (hlegible s hs) l.deeper]
    simp
  | ifThen htest _ ih =>
    intro hlegible l rest
    rw [isLegible, Bool.and_eq_true] at hlegible
    rw [text_ifThen, tokens]
    simp only [String.toList_append, List.append_assoc]
    rw [tokenize_test htest hlegible.1, ih hlegible.2]
    simp
  | ifElse htest _ _ ih ihalternate =>
    intro hlegible l rest
    rw [isLegible, Bool.and_eq_true, Bool.and_eq_true, Bool.and_eq_true] at hlegible
    have helse : " else " = " " ++ "else" ++ " " := by decide
    rw [text_ifElse, tokens, helse]
    simp only [String.toList_append, List.append_assoc]
    rw [tokenize_test htest hlegible.1.1.2, ih hlegible.1.2, tokenize_space,
      tokenize_word (by decide) (.text " " (by decide) _), tokenize_space, ihalternate hlegible.2]
    simp

end Stmt

/-! ### Reading -/

namespace Reader

mutual
/-- The statement at the beginning. -/
def stmt? : Nat → List String → Option (Stmt × List String)
  | n + 1, token :: ts =>
    if token = "\x7b" then do
      let (ss, ts) ← stmts? n ts
      return (.block ss, ts)
    else if token = "if" then do
      let ts ← expect "(" ts
      let (test, ts) ← expr? (2 * ts.length) Precedence.sequence ts
      let ts ← expect ")" ts
      let (consequent, ts) ← stmt? n ts
      if ts.head? = some "else" then
        let (alternate, ts) ← stmt? n ts.tail
        return (.ifElse test consequent (some alternate), ts)
      else return (.ifElse test consequent none, ts)
    else do
      let (e, ts) ← expr? (2 * (token :: ts).length) Precedence.sequence (token :: ts)
      let ts ← expect ";" ts
      return (.expr e, ts)
  | _, _ => none

/-- The statements up to the brace that closes them. -/
def stmts? : Nat → List String → Option (List Stmt × List String)
  | n + 1, ts =>
    if ts.head? = some "\x7d" then some ([], ts.tail)
    else do
      let (s, ts) ← stmt? n ts
      let (ss, ts) ← stmts? n ts
      return (s :: ss, ts)
  | 0, _ => none
end

variable {n : Nat} {s : Stmt} {ss : List Stmt} {ts rest : List String}

theorem stmt?_block (h : stmts? n ts = some (ss, rest)) :
    stmt? (n + 1) ("\x7b" :: ts) = some (.block ss, rest) := by
  simp [stmt?, h]

theorem stmt?_ifThen {test : Expr} {branch : List String}
    (htest : expr? (2 * ts.length) Precedence.sequence ts = some (test, ")" :: branch))
    (h : stmt? n branch = some (s, rest)) (hrest : rest.head? ≠ some "else") :
    stmt? (n + 1) ("if" :: "(" :: ts) = some (.ifElse test s none, rest) := by
  simp [stmt?, expect, htest, h, hrest]

theorem stmt?_ifElse {test : Expr} {alternate : Stmt} {branch other : List String}
    (htest : expr? (2 * ts.length) Precedence.sequence ts = some (test, ")" :: branch))
    (h : stmt? n branch = some (s, "else" :: other))
    (halternate : stmt? n other = some (alternate, rest)) :
    stmt? (n + 1) ("if" :: "(" :: ts) = some (.ifElse test s (some alternate), rest) := by
  simp [stmt?, expect, htest, h, halternate]

theorem stmt?_expr {token : String} {e : Expr} (htoken : token ≠ "\x7b" ∧ token ≠ "if")
    (h : expr? (2 * (token :: ts).length) Precedence.sequence (token :: ts) =
      some (e, ";" :: rest)) :
    stmt? (n + 1) (token :: ts) = some (.expr e, rest) := by
  rw [List.length_cons] at h
  simp [stmt?, expect, htoken, h]

theorem stmts?_nil : stmts? (n + 1) ("\x7d" :: ts) = some ([], ts) := by
  simp [stmts?]

theorem stmts?_cons {after : List String} (hts : ts.head? ≠ some "\x7d")
    (h : stmt? n ts = some (s, after)) (hss : stmts? n after = some (ss, rest)) :
    stmts? (n + 1) ts = some (s :: ss, rest) := by
  simp [stmts?, hts, h, hss]

end Reader

namespace Stmt

/-- The statement that a text is read as, if it is one. -/
def read? (text : String) : Option Stmt :=
  let ts := tokenize text.toList
  match stmt? (2 * ts.length) ts with
  | some (s, []) => some s
  | _ => none

/-- The tokens of the statement are read as it, where no `else` is taken for a part of it. -/
def Reads (s : Stmt) : Prop :=
  ∀ rest, (s.endsOpen = true → rest.head? ≠ some "else") → ∀ n,
    2 * (s.tokens.length + rest.length) ≤ n → stmt? n (s.tokens ++ rest) = some (s, rest)

/-- A statement begins neither with a brace that closes a block nor with `else`. -/
theorem Elementary.exists_head {s : Stmt} (h : s.Elementary) (hlegible : s.isLegible = true) :
    ∃ t ts, s.tokens = t :: ts ∧ t ≠ "\x7d" ∧ t ≠ "else" := by
  cases h with
  | @expr e he =>
    rw [isLegible] at hlegible
    obtain ⟨t, ts, ht, hother⟩ := (he.reads hlegible).exists_head Precedence.sequence
    rw [Expr.tokensWithin_sequence] at ht
    refine ⟨t, ts ++ [";"], by rw [tokens, ht]; rfl, ?_, ?_⟩ <;>
    · rintro rfl
      exact hother (by decide)
  | block => exact ⟨_, _, rfl, by decide, by decide⟩
  | ifThen => exact ⟨_, _, rfl, by decide, by decide⟩
  | ifElse => exact ⟨_, _, rfl, by decide, by decide⟩

/-- Statements that are read as they are, up to the brace that closes them. -/
theorem stmts?_stmtTokens {ss : List Stmt} (hreads : ∀ s ∈ ss, s.Reads)
    (hhead : ∀ s ∈ ss, ∃ t ts, s.tokens = t :: ts ∧ t ≠ "\x7d" ∧ t ≠ "else")
    {rest : List String} {n : Nat} (hn : 2 * ((stmtTokens ss).length + 1 + rest.length) + 1 ≤ n) :
    stmts? n (stmtTokens ss ++ "\x7d" :: rest) = some (ss, rest) := by
  induction ss generalizing n with
  | nil =>
    obtain ⟨k, rfl⟩ : ∃ k, n = k + 1 := ⟨n - 1, by omega⟩
    exact stmts?_nil
  | cons s ss ih =>
    obtain ⟨t, ts, ht, hclose, -⟩ := hhead s List.mem_cons_self
    have hlength : s.tokens.length = ts.length + 1 := by rw [ht, List.length_cons]
    obtain ⟨k, rfl⟩ : ∃ k, n = k + 1 := ⟨n - 1, by omega⟩
    rw [stmtTokens, List.length_append] at hn
    rw [stmtTokens, List.append_assoc]
    refine stmts?_cons ?_ (hreads s List.mem_cons_self _ (fun _ => ?_) k ?_)
      (ih (fun x hx => hreads x (List.mem_cons_of_mem _ hx))
        (fun x hx => hhead x (List.mem_cons_of_mem _ hx)) (by omega))
    · rw [ht]
      exact fun h => hclose (Option.some.inj h)
    · cases ss with
      | nil => exact fun h => absurd (Option.some.inj h) (by decide)
      | cons x ss =>
        obtain ⟨t, ts, ht, -, helse⟩ := hhead x (List.mem_cons_of_mem _ List.mem_cons_self)
        rw [stmtTokens, ht]
        exact fun h => helse (Option.some.inj h)
    · rw [List.length_append, List.length_cons]
      omega

/-- The tokens of a legible elementary statement are read as it. -/
theorem Elementary.reads {s : Stmt} (h : s.Elementary) : s.isLegible = true → s.Reads := by
  induction h with
  | @expr e he =>
    intro hlegible rest _ n hn
    rw [isLegible] at hlegible
    obtain ⟨t, ts, ht, hother⟩ := (he.reads hlegible).exists_head Precedence.sequence
    rw [Expr.tokensWithin_sequence] at ht
    obtain ⟨k, rfl⟩ : ∃ k, n = k + 1 := ⟨n - 1, by simp [tokens] at hn; omega⟩
    have hend : Stops Precedence.sequence (";" :: rest) := .cons (by decide) rest
    have hread := (he.reads hlegible).enclosed_length hend
    rw [ht] at hread
    rw [tokens, List.append_assoc, ht]
    refine stmt?_expr ⟨?_, ?_⟩ hread <;>
    · rintro rfl
      exact hother (by decide)
  | block hss ih =>
    intro hlegible rest _ n hn
    rw [isLegible, areLegible_iff] at hlegible
    simp only [tokens, List.length_cons, List.length_append, List.length_nil] at hn
    obtain ⟨k, rfl⟩ : ∃ k, n = k + 1 := ⟨n - 1, by omega⟩
    simp only [tokens, List.cons_append, List.append_assoc, List.nil_append]
    exact stmt?_block (stmts?_stmtTokens (fun s hs => ih s hs (hlegible s hs))
      (fun s hs => (hss s hs).exists_head (hlegible s hs)) (by omega))
  | ifThen htest _ ih =>
    intro hlegible rest hrest n hn
    rw [isLegible, Bool.and_eq_true] at hlegible
    simp only [tokens, List.length_cons, List.length_append] at hn
    obtain ⟨k, rfl⟩ : ∃ k, n = k + 1 := ⟨n - 1, by omega⟩
    simp only [tokens, List.cons_append, List.append_assoc]
    exact stmt?_ifThen ((htest.reads hlegible.1).enclosed_length (.cons (by decide) _))
      (ih hlegible.2 rest (fun _ => hrest rfl) k (by omega)) (hrest rfl)
  | ifElse htest _ _ ih ihalternate =>
    intro hlegible rest hrest n hn
    rw [isLegible, Bool.and_eq_true, Bool.and_eq_true, Bool.and_eq_true,
      Bool.not_eq_true'] at hlegible
    obtain ⟨⟨⟨hclosed, htestLegible⟩, hconsequent⟩, halternate⟩ := hlegible
    simp only [tokens, List.length_cons, List.length_append] at hn
    obtain ⟨k, rfl⟩ : ∃ k, n = k + 1 := ⟨n - 1, by omega⟩
    simp only [tokens, List.cons_append, List.append_assoc]
    refine stmt?_ifElse ((htest.reads htestLegible).enclosed_length (.cons (by decide) _))
      (ih hconsequent _ (fun hopen => ?_) k ?_) (ihalternate halternate rest hrest k (by omega))
    · rw [hclosed] at hopen
      cases hopen
    · simp only [List.length_cons, List.length_append]
      omega

/-- The text of a legible elementary statement is read as it. -/
theorem Elementary.read?_text {s : Stmt} (h : s.Elementary) (hlegible : s.isLegible = true)
    (l : Layout) : read? (s.text l) = some s := by
  have htokens := h.tokenize_text hlegible l []
  have hread := h.reads hlegible [] (fun _ => nofun) _ (Nat.le_refl _)
  rw [tokenize, List.append_nil, List.append_nil] at htokens
  rw [List.append_nil, List.length_nil, Nat.add_zero] at hread
  rw [read?, htokens]
  simp only [hread]

end Stmt

end TypeGuard
