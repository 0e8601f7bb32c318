import TypeGuard.Proofs.Printing.Token

/-!
# Spelling

The tokens of the expressions that are built from names by operators, accesses and calls. The text
of a tree is cut into the tokens of the tree, `Expr.Elementary.tokenize_text`, unless an operator
meets the sign of its operand: the text of `-(-x)` is `--x`.
-/

namespace TypeGuard

open Sign
open Text (isLetter)

/-- The words that are no names. -/
def reservedWords : List String :=
  ["typeof", "void", "delete", "new", "in", "instanceof", "if", "else"]

/-- Whether the text is a name. -/
def isName (text : String) : Bool := isWord text && !reservedWords.contains text

/-! ### Trees -/

/-- The expressions built from names by operators, accesses, calls and `new`. -/
inductive Expr.Elementary : Expr → Prop
  | ident {name} (hname : isName name = true) : Elementary (.ident name)
  | member {obj name} (hobj : Elementary obj) (hname : isWord name = true) :
    Elementary (.member obj name)
  | index {obj key} (hobj : Elementary obj) (hkey : Elementary key) : Elementary (.index obj key)
  | call {callee args} (hcallee : Elementary callee) (hargs : ∀ a ∈ args, Elementary a) :
    Elementary (.call callee args)
  | new {callee args} (hcallee : Elementary callee) (hargs : ∀ a ∈ args, Elementary a) :
    Elementary (.new callee args)
  | unary {op arg} (hop : op ∈ Operator.unary) (harg : Elementary arg) :
    Elementary (.unary op arg)
  | update {op isPrefix arg} (hop : op ∈ Operator.update) (harg : Elementary arg) :
    Elementary (.update op isPrefix arg)
  | binary {op left right} (hop : op ∈ Operator.binary) (hleft : Elementary left)
      (hright : Elementary right) :
    Elementary (.binary op left right)
  | conditional {test consequent alternate} (htest : Elementary test)
      (hconsequent : Elementary consequent) (halternate : Elementary alternate) :
    Elementary (.conditional test consequent alternate)

namespace Expr

/-- The tokens of an expression in a place that asks for the precedence `level`. -/
def tokensWithin (level : Nat) (e : Expr) (tokens : List String) : List String :=
  if e.precedence < level then "(" :: (tokens ++ [")"]) else tokens

mutual
/-- The tokens of an elementary expression. -/
def tokens : Expr → List String
  | .ident name => [name]
  | .member obj name => obj.tokensWithin Precedence.call obj.tokens ++ [".", name]
  | .index obj key => obj.tokensWithin Precedence.call obj.tokens ++ "[" :: (key.tokens ++ ["]"])
  | .call callee args =>
    callee.tokensWithin Precedence.call callee.tokens ++ "(" :: (argTokens args ++ [")"])
  | .new callee args =>
    "new" :: (callee.tokensWithin Precedence.call callee.tokens ++ "(" :: (argTokens args ++ [")"]))
  | .unary op arg => op :: arg.tokensWithin Precedence.unary arg.tokens
  | .update op true arg => op :: arg.tokensWithin Precedence.unary arg.tokens
  | .update op false arg => arg.tokensWithin Precedence.call arg.tokens ++ [op]
  | .binary op left right =>
    left.tokensWithin (Precedence.ofOperator op) left.tokens ++
      op :: right.tokensWithin (Precedence.ofOperator op + 1) right.tokens
  | .conditional test consequent alternate =>
    test.tokensWithin (Precedence.conditional + 1) test.tokens ++
      "?" :: (consequent.tokensWithin Precedence.assignment consequent.tokens ++
        ":" :: alternate.tokensWithin Precedence.assignment alternate.tokens)
  | _ => []

/-- The tokens of arguments with commas between them. -/
def argTokens : List Expr → List String
  | [] => []
  | [e] => e.tokensWithin Precedence.assignment e.tokens
  | e :: es => e.tokensWithin Precedence.assignment e.tokens ++ "," :: argTokens es
end

/-- The operator that the text of an expression begins with, if it begins with one. -/
def prefixOperator? : Expr → Option String
  | .unary op _ | .update op true _ => some op
  | _ => none

/-- Whether the operator and the beginning of the operand would be taken for an update. -/
def meets (op : String) (arg : Expr) : Bool :=
  Operator.update.contains (op ++ op) &&
    (arg.prefixOperator? == some op || arg.prefixOperator? == some (op ++ op))

/-- Whether a call stands open at the beginning of the text of an access or call. -/
def exposesCall : Expr → Bool
  | .call _ _ => true
  | .member obj _ | .index obj _ => decide (Precedence.call ≤ obj.precedence) && obj.exposesCall
  | _ => false

mutual
/-- Whether no operator meets the sign of its operand, and no call is taken for that of a `new`. -/
def isLegible : Expr → Bool
  | .member obj _ => obj.isLegible
  | .index obj key => obj.isLegible && key.isLegible
  | .call callee args => callee.isLegible && areLegible args
  | .new callee args => !callee.exposesCall && callee.isLegible && areLegible args
  | .unary op arg => !meets op arg && arg.isLegible
  | .update _ _ arg => arg.isLegible
  | .binary _ left right => left.isLegible && right.isLegible
  | .conditional test consequent alternate =>
    test.isLegible && consequent.isLegible && alternate.isLegible
  | _ => true

def areLegible : List Expr → Bool
  | [] => true
  | e :: es => e.isLegible && areLegible es
end

end Expr

/-! ### Texts -/

theorem tokenize_space (rest : List Char) : tokenize (" ".toList ++ rest) = tokenize rest :=
  tokenize_blank (by decide) rest

/-- A binary operator stands between blanks. -/
theorem tokenize_operator {op : String} (hop : op ∈ Operator.binary) (rest : List Char) :
    tokenize (" ".toList ++ (op.toList ++ (" ".toList ++ rest))) = op :: tokenize rest := by
  have hkind : ∀ op ∈ Operator.binary, isWord op = true ∨ op ∈ long ++ short := by decide
  rw [tokenize_space]
  obtain hword | hsign := hkind op hop
  · rw [tokenize_word hword (.text " " (by decide) rest), tokenize_space]
  · rw [tokenize_sign hsign (.of_foreign op rfl (by decide)), tokenize_space]

namespace Expr

variable {e : Expr} {l : Layout}

theorem tokenize_within {level : Nat}
    (h : ∀ rest, Detached rest → tokenize ((e.text l).toList ++ rest) = e.tokens ++ tokenize rest)
    {rest : List Char} (hrest : Detached rest) :
    tokenize ((e.within level (e.text l)).toList ++ rest) =
      e.tokensWithin level e.tokens ++ tokenize rest := by
  rw [within, parensIf, tokensWithin]
  by_cases hlevel : e.precedence < level
  · rw [if_pos (decide_eq_true hlevel), if_pos hlevel, inParens]
    simp only [String.toList_append, List.append_assoc]
    rw [tokenize_mark "(" (by decide) (by decide), h _ (.text ")" (by decide) rest),
      tokenize_mark ")" (by decide) (by decide)]
    simp
  · rw [if_neg (by simpa using hlevel), if_neg hlevel, h rest hrest]

/-! ### What stands after an operator -/

theorem precedence_of_prefixOperator {op : String} (h : e.prefixOperator? = some op) :
    e.precedence = Precedence.unary := by
  unfold prefixOperator? at h
  split at h
  · rfl
  · rfl
  · cases h

/-- What the text of an operand begins with: a word, a parenthesis, or an operator of its own. -/
def BeginsWith (e : Expr) (c : Char) : Prop :=
  isWordChar c = true ∨ c = '(' ∨ ∃ op, e.prefixOperator? = some op ∧ op.toList.head? = some c

/-- The text of the callee or the object begins with no operator. -/
theorem exists_head_within_call
    (h : Precedence.unary ≤ e.precedence →
      ∃ c, (e.text l).toList.head? = some c ∧ e.BeginsWith c) :
    ∃ c, (e.within Precedence.call (e.text l)).toList.head? = some c ∧
      (isWordChar c = true ∨ c = '(') := by
  rw [within, parensIf]
  by_cases hlevel : e.precedence < Precedence.call
  · rw [if_pos (decide_eq_true hlevel)]
    exact ⟨'(', by simp [inParens], .inr rfl⟩
  · rw [if_neg (by simpa using hlevel)]
    obtain ⟨c, hc, hbegins⟩ := h (Nat.le_trans (by decide) (Nat.not_lt.mp hlevel))
    obtain hword | hparen | ⟨op, hop, -⟩ := hbegins
    · exact ⟨c, hc, .inl hword⟩
    · exact ⟨c, hc, .inr hparen⟩
    · exact absurd (by rw [precedence_of_prefixOperator hop]; decide) hlevel

/-- The operand of an operator begins with one of its own, or with none. -/
theorem Elementary.exists_head (h : e.Elementary) (l : Layout) :
    Precedence.unary ≤ e.precedence → ∃ c, (e.text l).toList.head? = some c ∧ e.BeginsWith c := by
  have hoperator (op) (hop : op ∈ Operator.unary ++ Operator.update) :
      ∃ c, op.toList.head? = some c := by
    have hhead : ∀ op ∈ Operator.unary ++ Operator.update, op.toList.head?.isSome = true := by
      decide
    exact Option.isSome_iff_exists.mp (hhead op hop)
  induction h with
  | @ident name hname =>
    intro _
    obtain ⟨hne, hall⟩ := isWord_iff.mp (Bool.and_eq_true_iff.mp hname).1
    obtain ⟨c, cs, hcs⟩ := List.exists_cons_of_ne_nil hne
    exact ⟨c, by rw [text, hcs]; rfl, .inl (hall c (by simp [hcs]))⟩
  | member _ _ ih | index _ _ ih | call _ _ ih =>
    intro _
    obtain ⟨c, hc, hbegins⟩ := exists_head_within_call ih
    exact ⟨c, by simp [text, hc], hbegins.imp_right .inl⟩
  | new =>
    intro _
    exact ⟨'n', by simp [text], .inl (by decide)⟩
  | @unary op arg hop =>
    intro _
    obtain ⟨c, hc⟩ := hoperator op (List.mem_append_left _ hop)
    refine ⟨c, ?_, .inr (.inr ⟨op, rfl, hc⟩)⟩
    rw [text, prefixOperatorText]
    split <;> simp [hc]
  | @update op isPrefix arg hop _ ih =>
    intro _
    cases isPrefix with
    | true =>
      obtain ⟨c, hc⟩ := hoperator op (List.mem_append_right _ hop)
      exact ⟨c, by simp [text, hc], .inr (.inr ⟨op, rfl, hc⟩)⟩
    | false =>
      obtain ⟨c, hc, hbegins⟩ := exists_head_within_call ih
      exact ⟨c, by simp [text, hc], hbegins.imp_right .inl⟩
  | @binary op =>
    intro hlevel
    exact absurd (Precedence.ofOperator_lt_unary op) (Nat.not_lt.mpr hlevel)
  | conditional =>
    intro hlevel
    exact absurd (show 15 ≤ 3 from hlevel) (by decide)

theorem Elementary.mem_of_prefixOperator (h : e.Elementary) {op : String}
    (hop : e.prefixOperator? = some op) : op ∈ Operator.unary ++ Operator.update := by
  cases h with
  | unary hmem =>
    obtain rfl := Option.some.inj hop
    exact List.mem_append_left _ hmem
  | @update _ isPrefix _ hmem =>
    cases isPrefix with
    | true =>
      obtain rfl := Option.some.inj hop
      exact List.mem_append_right _ hmem
    | false => cases hop
  | _ => cases hop

/-- Two operators in a row are taken for a longer sign only if that is the sign of an update. -/
theorem operators_apart : ∀ op ∈ Operator.unary, isWord op = false →
    ∀ inner ∈ Operator.unary ++ Operator.update,
      (Operator.update.contains (op ++ op) &&
          (some inner == some op || some inner == some (op ++ op))) = true ∨
        ∀ s ∈ long, ¬ op.toList ++ inner.toList.take 1 <+: s.toList := by
  decide

/-- An operator that does not meet its operand is not taken for a longer sign. -/
theorem Elementary.apart (harg : e.Elementary) (l : Layout) {op : String}
    (hop : op ∈ Operator.unary) (hsign : isWord op = false)
    (hmeets : meets op e = false) (rest : List Char) :
    Apart op ((e.within Precedence.unary (e.text l)).toList ++ rest) := by
  have hparen : ∀ s ∈ long, '(' ∉ s.toList := by decide
  rw [within, parensIf]
  by_cases hlevel : e.precedence < Precedence.unary
  · rw [if_pos (decide_eq_true hlevel)]
    exact .of_foreign op (by simp [inParens]) hparen
  · rw [if_neg (by simpa using hlevel)]
    obtain ⟨c, hc, hbegins⟩ := harg.exists_head l (Nat.not_lt.mp hlevel)
    have hhead : ((e.text l).toList ++ rest).head? = some c := by simp [hc]
    obtain hword | rfl | ⟨inner, hinner, hfirst⟩ := hbegins
    · exact .of_foreign op hhead (notMem_of_wordChar hword)
    · exact .of_foreign op hhead hparen
    · obtain hsame | hapart :=
        operators_apart op hop hsign inner (harg.mem_of_prefixOperator hinner)
      · rw [meets, hinner, hsame] at hmeets
        cases hmeets
      · intro d hd
        obtain rfl : c = d := Option.some.inj (hhead.symm.trans hd)
        obtain ⟨cs, hcs⟩ := List.head?_eq_some_iff.mp hfirst
        rwa [hcs, List.take_succ_cons, List.take_zero] at hapart

/-! ### The tokens of a text -/

theorem areLegible_iff {es : List Expr} :
    areLegible es = true ↔ ∀ e ∈ es, e.isLegible = true := by
  induction es with
  | nil => simp [areLegible]
  | cons e es ih => simp [areLegible, ih]

/-- The texts of arguments up to the parenthesis that closes them. -/
theorem tokenize_args {args : List Expr}
    (h : ∀ a ∈ args, ∀ rest, Detached rest →
      tokenize ((a.text l).toList ++ rest) = a.tokens ++ tokenize rest) (rest : List Char) :
    tokenize ((commaSep (argTexts l args)).toList ++ (")".toList ++ rest)) =
      argTokens args ++ ")" :: tokenize rest := by
  induction args with
  | nil => exact tokenize_mark ")" (by decide) (by decide) rest
  | cons a args ih =>
    have ha := h a List.mem_cons_self
    cases args with
    | nil =>
      rw [argTexts, argTexts, commaSep, String.intercalate_singleton, argTokens,
        tokenize_within ha (.text ")" (by decide) rest), tokenize_mark ")" (by decide) (by decide)]
    | cons b args =>
      have hcomma : ", " = "," ++ " " := by decide
      rw [argTexts, argTexts, commaSep, String.intercalate_cons_cons, ← argTexts, ← commaSep,
        hcomma]
      simp only [String.toList_append, List.append_assoc]
      rw [tokenize_within ha (.text "," (by decide) _), tokenize_mark "," (by decide) (by decide),
        tokenize_space, ih fun x hx => h x (List.mem_cons_of_mem _ hx)]
      simp [argTokens]

/-- The text of an elementary expression is cut into its tokens, whatever it is detached from. -/
theorem Elementary.tokenize_text (h : e.Elementary) (l : Layout) :
    e.isLegible = true → ∀ rest, Detached rest →
      tokenize ((e.text l).toList ++ rest) = e.tokens ++ tokenize rest := by
  induction h with
  | @ident name hname =>
    intro _ rest hrest
    exact tokenize_word (Bool.and_eq_true_iff.mp hname).1 hrest
  | @member obj name _ hname ih =>
    intro hlegible rest hrest
    rw [text, tokens]
    simp only [String.toList_append, List.append_assoc]
    rw [tokenize_within (ih hlegible) (.text "." (by decide) _),
      tokenize_mark "." (by decide) (by decide), tokenize_word hname hrest]
    rfl
  | @index obj key _ _ ihobj ihkey =>
    intro hlegible rest _
    rw [isLegible, Bool.and_eq_true] at hlegible
    rw [text, tokens]
    simp only [String.toList_append, List.append_assoc]
    rw [tokenize_within (ihobj hlegible.1) (.text "[" (by decide) _),
      tokenize_mark "[" (by decide) (by decide), ihkey hlegible.2 _ (.text "]" (by decide) _),
      tokenize_mark "]" (by decide) (by decide)]
    simp
  | @call callee args _ _ ih ihargs =>
    intro hlegible rest _
    rw [isLegible, Bool.and_eq_true, areLegible_iff] at hlegible
    rw [text, tokens, inParens]
    simp only [String.toList_append, List.append_assoc]
    rw [tokenize_within (ih hlegible.1) (.text "(" (by decide) _),
      tokenize_mark "(" (by decide) (by decide),
      tokenize_args fun a ha => ihargs a ha (hlegible.2 a ha)]
    simp
  | @new callee args _ _ ih ihargs =>
    intro hlegible rest _
    rw [isLegible, Bool.and_eq_true, Bool.and_eq_true, areLegible_iff] at hlegible
    have hnew : "new " = "new" ++ " " := by decide
    rw [text, tokens, inParens, hnew]
    simp only [String.toList_append, List.append_assoc]
    rw [tokenize_word (by decide) (.text " " (by decide) _), tokenize_space,
      tokenize_within (ih hlegible.1.2) (.text "(" (by decide) _),
      tokenize_mark "(" (by decide) (by decide),
      tokenize_args fun a ha => ihargs a ha (hlegible.2 a ha)]
    simp
  | @unary op arg hop harg ih =>
    intro hlegible rest hrest
    rw [isLegible, Bool.and_eq_true, Bool.not_eq_true'] at hlegible
    have hkind : ∀ op ∈ Operator.unary, op.toList.all isLetter = isWord op ∧
        (isWord op = true ∨ isWord op = false ∧ op ∈ long ++ short) := by decide
    obtain ⟨hletters, hword | ⟨hword, hsign⟩⟩ := hkind op hop <;>
      rw [text, tokens, prefixOperatorText, hletters, hword]
    · simp only [if_true, String.toList_append, List.append_assoc]
      rw [tokenize_word hword (.text " " (by decide) _), tokenize_space,
        tokenize_within (ih hlegible.2) hrest]
      rfl
    · have hapart := harg.apart l hop hword hlegible.1 rest
      simp only [Bool.false_eq_true, if_false, String.toList_append, List.append_assoc]
      rw [tokenize_sign hsign hapart, tokenize_within (ih hlegible.2) hrest]
      rfl
  | @update op isPrefix arg hop _ ih =>
    intro hlegible rest hrest
    have hmark : ∀ op ∈ Operator.update, op ∈ long ++ short ∧
        (∀ s ∈ long, op.toList <+: s.toList → s = op) ∧
        op.toList.head?.any (!isWordChar ·) = true := by decide
    obtain ⟨hsign, hmaximal, hfirst⟩ := hmark op hop
    cases isPrefix with
    | true =>
      rw [text, tokens, String.toList_append, List.append_assoc, tokenize_mark op hsign hmaximal,
        tokenize_within (ih hlegible) hrest]
      rfl
    | false =>
      rw [text, tokens, String.toList_append, List.append_assoc,
        tokenize_within (ih hlegible) (.text op hfirst _), tokenize_mark op hsign hmaximal]
      simp
  | @binary op left right hop _ _ ihleft ihright =>
    intro hlegible rest hrest
    rw [isLegible, Bool.and_eq_true] at hlegible
    rw [text, tokens]
    simp only [String.toList_append, List.append_assoc]
    rw [tokenize_within (ihleft hlegible.1) (.text " " (by decide) _), tokenize_operator hop,
      tokenize_within (ihright hlegible.2) hrest]
    simp
  | @conditional test consequent alternate _ _ _ ihtest ihconsequent ihalternate =>
    intro hlegible rest hrest
    rw [isLegible, Bool.and_eq_true, Bool.and_eq_true] at hlegible
    have hquestion : " ? " = " " ++ "?" ++ " " := by decide
    have hcolon : " : " = " " ++ ":" ++ " " := by decide
    rw [text, tokens, hquestion, hcolon]
    simp only [String.toList_append, List.append_assoc]
    rw [tokenize_within (ihtest hlegible.1.1) (.text " " (by decide) _), tokenize_space,
      tokenize_sign (by decide) (.of_foreign "?" rfl (by decide)), tokenize_space,
      tokenize_within (ihconsequent hlegible.1.2) (.text " " (by decide) _), tokenize_space,
      tokenize_mark ":" (by decide) (by decide), tokenize_space,
      tokenize_within (ihalternate hlegible.2) hrest]
    simp

end Expr

end TypeGuard
