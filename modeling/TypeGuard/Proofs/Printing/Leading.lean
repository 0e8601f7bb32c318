import TypeGuard.Proofs.Printing.Opening

/-!
# The beginning of an expression

An expression at the beginning of a statement must not begin like a declaration or a block, and the
concise body of an arrow function must not begin like a block. What the text of an expression begins
with is told by its leading operands, `Expr.ofText_text`. The guards look neither into the target of
an assignment nor, in a concise body, below the root; `Expr.unguarded_iff` is the exact condition.
-/

namespace TypeGuard

open Opening

/-- What an expression begins with in a place that asks for the precedence `level`, where by itself
it begins with `opening`. -/
def Expr.openingWithin (level : Nat) (e : Expr) (opening : Option Opening) : Option Opening :=
  if e.precedence < level then none else opening

mutual
/-- What the text of the expression begins with. -/
def Expr.opening? : Expr → Option Opening
  | .object _ => some .brace
  | .class _ => some .classDecl
  | .function func =>
    if func.isArrow then none else if func.isAsync then some .asyncFunction else some .function
  | .taggedTemplate tag _ _ => tag.openingWithin Precedence.call tag.opening?
  | .member obj _ => obj.openingWithin Precedence.call obj.opening?
  | .index obj _ => obj.openingWithin Precedence.call obj.opening?
  | .call callee _ => callee.openingWithin Precedence.call callee.opening?
  | .update _ false arg => arg.openingWithin Precedence.call arg.opening?
  | .binary op left _ => left.openingWithin (Precedence.ofOperator op) left.opening?
  | .conditional test _ _ => test.openingWithin (Precedence.conditional + 1) test.opening?
  | .assign _ target _ _ => target.opening?
  | .seq (first :: _) => first.openingWithin Precedence.assignment first.opening?
  | _ => none

def AssignTarget.opening? : AssignTarget → Option Opening
  | .pattern target => target.opening?
  | .expr target => target.openingWithin Precedence.call target.opening?

def Pattern.opening? : Pattern → Option Opening
  | .object _ => some .brace
  | .default left _ => left.opening?
  | _ => none
end

/-- Whether the text is a word that is no keyword a statement can begin with. -/
def isOrdinaryName (name : String) : Bool :=
  isWord name && name != "function" && name != "class"

mutual
/-- Whether the names, the numbers and the operators that the text begins with are ordinary ones. -/
def Expr.startsOrdinarily : Expr → Bool
  | .ident name => isOrdinaryName name
  | .num text => text.toList.head?.any fun c => c.isDigit || c == '.'
  | .unary op _ => Operator.unary.contains op
  | .update op true _ => Operator.update.contains op
  | .update op false arg => Operator.update.contains op && arg.startsOrdinarily
  | .taggedTemplate tag _ _ => tag.startsOrdinarily
  | .member obj _ => obj.startsOrdinarily
  | .index obj _ => obj.startsOrdinarily
  | .call callee _ => callee.startsOrdinarily
  | .binary op left _ => Operator.binary.contains op && left.startsOrdinarily
  | .conditional test _ _ => test.startsOrdinarily
  | .assign op target _ _ => Operator.assignment.contains op && target.startsOrdinarily
  | .seq (first :: _) => first.startsOrdinarily
  | _ => true

def AssignTarget.startsOrdinarily : AssignTarget → Bool
  | .pattern target => target.startsOrdinarily
  | .expr target => target.startsOrdinarily

def Pattern.startsOrdinarily : Pattern → Bool
  | .ident name => isOrdinaryName name
  | .default left _ => left.startsOrdinarily
  | _ => true
end

/-! ### What a text begins with -/

/-- The parentheses that a place asks for hide what the expression begins with. -/
theorem Expr.ofText_within {level : Nat} {e : Expr} {text : String} {opening : Option Opening}
    (h : ∀ rest, Follows rest → ofText (text.toList ++ rest) = opening) {rest : List Char}
    (hrest : Follows rest) :
    ofText ((e.within level text).toList ++ rest) = e.openingWithin level opening := by
  rw [within, parensIf, openingWithin]
  by_cases hlevel : e.precedence < level
  · rw [if_pos (decide_eq_true hlevel), if_pos hlevel]
    exact ofText_of_head '(' (by simp [inParens]) (by decide) rest
  · rw [if_neg (by simpa using hlevel), if_neg hlevel]
    exact h rest hrest

theorem ofText_ordinaryName {name : String} (h : isOrdinaryName name = true) {rest : List Char}
    (hrest : Follows rest) : ofText (name.toList ++ rest) = none := by
  simp only [isOrdinaryName, Bool.and_eq_true, bne_iff_ne] at h
  exact ofText_name h.1.1 h.1.2 h.2 hrest

/-- What stands after the keywords of a function begins with a bracket. -/
theorem exists_head (typeParams : List TypeParam) (params : String) (after : List Char) :
    ∃ c ∈ ['<', '('], ∃ cs,
      (declaredParamsText typeParams).toList ++ ((inParens params).toList ++ after) = c :: cs := by
  rw [declaredParamsText, inParens]
  split
  · exact ⟨'(', by decide, params.toList ++ ")".toList ++ after, by simp⟩
  · refine ⟨'<', by decide, (commaSep (typeParams.map TypeParam.text)).toList ++ ">".toList ++
      ("(".toList ++ params.toList ++ ")".toList ++ after), ?_⟩
    simp

theorem Function.ofText_text (l : Layout) (func : Function) (rest : List Char) :
    ofText ((func.text l).toList ++ rest) = (Expr.function func).opening? := by
  obtain ⟨id, params, body, returnType, typeParams, isAsync, isArrow, isGenerator, span⟩ := func
  have hkeyword (after : List Char) :
      Detached ((wordIf isGenerator "*").toList ++ (" ".toList ++ after)) := by
    intro c hc
    cases isGenerator <;> simp [wordIf] at hc <;> subst hc <;> decide
  have hhead : ∀ c ∈ ['<', '('], isWordChar c = false ∧ c ∉ ['\x7b', 'f', 'c', 'a'] :=
    forall_mem_of_all (by decide)
  have hblank (after : List Char) : Detached ([' '] ++ after) := .cons (by decide) after
  have hasync : (wordIf true "async ").toList = "async".toList ++ [' '] := by decide
  have hnone : (wordIf false "async ").toList = [] := rfl
  rw [Function.text]
  cases isAsync <;> cases isArrow <;>
    simp only [Bool.false_eq_true, if_true, if_false, String.toList_append, List.append_assoc,
      hasync, hnone, List.nil_append]
  · exact ofText_word "function" (by decide) (hkeyword _)
  · obtain ⟨c, hc, cs, hcs⟩ := exists_head typeParams (commaSep (paramTexts l params)) _
    rw [hcs]
    exact ofText_cons (hhead c hc).2 cs
  · rw [ofText_word "async" (by decide) (hblank _), if_neg (by decide), if_neg (by decide),
      if_pos ⟨rfl, rfl, takeWhile_word (forall_mem_of_all (by decide)) (hkeyword _)⟩]
    rfl
  · obtain ⟨c, hc, cs, hcs⟩ := exists_head typeParams (commaSep (paramTexts l params)) _
    have hnot : (c :: cs).takeWhile isWordChar ≠ "function".toList := by
      simp [(hhead c hc).1]
    rw [hcs, ofText_word "async" (by decide) (hblank _), if_neg (by decide), if_neg (by decide),
      if_neg fun h => hnot h.2.2]
    rfl

theorem Detached.declaredParams (typeParams : List TypeParam) {after : List Char}
    (h : Detached after) : Detached ((declaredParamsText typeParams).toList ++ after) := by
  rw [declaredParamsText]
  split
  · exact h
  · intro c hc
    simp at hc
    subst hc
    decide

theorem Class.ofText_text (l : Layout) (decl : Class) (rest : List Char) :
    ofText ((decl.text l).toList ++ rest) = some .classDecl := by
  obtain ⟨id, superClass, typeParams, body, span⟩ := decl
  cases id <;> cases superClass <;> rw [Class.text] <;>
    simp only [String.toList_append, List.append_assoc] <;>
    refine ofText_word "class" (by decide) ?_
  · exact .declaredParams typeParams (.cons (by decide) _)
  · exact .declaredParams typeParams (.cons (by decide) _)
  · exact .cons (by decide) _
  · exact .cons (by decide) _

mutual
/-- What the text of an expression begins with, whatever can follow it. -/
theorem Expr.ofText_text (l : Layout) :
    (e : Expr) → e.startsOrdinarily = true → ∀ rest, Follows rest →
      ofText ((e.text l).toList ++ rest) = e.opening?
  | .ident name, h, rest, hrest => ofText_ordinaryName h hrest
  | .this, _, rest, _ => ofText_of_head 't' (by simp [Expr.text]) (by decide) rest
  | .super, _, rest, _ => ofText_of_head 's' (by simp [Expr.text]) (by decide) rest
  | .null, _, rest, _ => ofText_of_head 'n' (by simp [Expr.text]) (by decide) rest
  | .bool true, _, rest, _ => ofText_of_head 't' (by simp [Expr.text, boolText]) (by decide) rest
  | .bool false, _, rest, hrest => by
    have hname : isOrdinaryName "false" = true := by decide
    exact ofText_ordinaryName hname hrest
  | .num text, h, rest, _ => ofText_number h rest
  | .str value, _, rest, _ =>
    ofText_of_head '"' (by simp [Expr.text, Text.quote, Text.quoteWith]) (by decide) rest
  | .regex _ _, _, rest, _ => ofText_of_head '/' (by simp [Expr.text]) (by decide) rest
  | .template _ _, _, rest, _ => ofText_of_head '\x60' (by simp [Expr.text]) (by decide) rest
  | .taggedTemplate tag quasis exprs, h, rest, _ => by
    rw [Expr.startsOrdinarily] at h
    simp only [Expr.text, String.toList_append, List.append_assoc]
    exact Expr.ofText_within (tag.ofText_text l h) (.cons (by decide) (by decide) _)
  | .array _, _, rest, _ => ofText_of_head '[' (by simp [Expr.text]) (by decide) rest
  | .object props, _, rest, _ => ofText_bracedList _ rest
  | .function func, _, rest, _ => func.ofText_text l rest
  | .class decl, _, rest, _ => decl.ofText_text l rest
  | .member obj name, h, rest, _ => by
    rw [Expr.startsOrdinarily] at h
    simp only [Expr.text, String.toList_append, List.append_assoc]
    exact Expr.ofText_within (obj.ofText_text l h) (.cons (by decide) (by decide) _)
  | .index obj key, h, rest, _ => by
    rw [Expr.startsOrdinarily] at h
    simp only [Expr.text, String.toList_append, List.append_assoc]
    exact Expr.ofText_within (obj.ofText_text l h) (.cons (by decide) (by decide) _)
  | .call callee args, h, rest, _ => by
    rw [Expr.startsOrdinarily] at h
    simp only [Expr.text, inParens, String.toList_append, List.append_assoc]
    exact Expr.ofText_within (callee.ofText_text l h) (.cons (by decide) (by decide) _)
  | .new callee args, _, rest, _ => ofText_of_head 'n' (by simp [Expr.text]) (by decide) rest
  | .unary op arg, h, rest, _ => by
    have hop : op ∈ Operator.unary ++ Operator.update :=
      List.mem_append_left _ (List.contains_iff_mem.mp h)
    rw [Expr.text, prefixOperatorText]
    split <;> simp only [String.toList_append, List.append_assoc] <;>
      exact ofText_prefixOperator hop _
  | .update op true arg, h, rest, _ => by
    have hop : op ∈ Operator.unary ++ Operator.update :=
      List.mem_append_right _ (List.contains_iff_mem.mp h)
    simp only [Expr.text, String.toList_append, List.append_assoc]
    exact ofText_prefixOperator hop _
  | .update op false arg, h, rest, hrest => by
    rw [Expr.startsOrdinarily, Bool.and_eq_true] at h
    simp only [Expr.text, String.toList_append, List.append_assoc]
    refine Expr.ofText_within (arg.ofText_text l h.2) ?_
    obtain rfl | rfl : op = "++" ∨ op = "--" := by simpa [Operator.update] using h.1
    · exact .cons (by decide) (by decide) _
    · exact .cons (by decide) (by decide) _
  | .binary op left right, h, rest, _ => by
    rw [Expr.startsOrdinarily, Bool.and_eq_true] at h
    simp only [Expr.text, String.toList_append, List.append_assoc]
    exact Expr.ofText_within (left.ofText_text l h.2)
      (.operator (List.mem_append_left _ (List.contains_iff_mem.mp h.1)) _)
  | .conditional test consequent alternate, h, rest, _ => by
    rw [Expr.startsOrdinarily] at h
    simp only [Expr.text, String.toList_append, List.append_assoc]
    exact Expr.ofText_within (test.ofText_text l h) (.blank (by decide) _)
  | .assign op target value span, h, rest, _ => by
    rw [Expr.startsOrdinarily, Bool.and_eq_true] at h
    simp only [Expr.text, String.toList_append, List.append_assoc]
    exact target.ofText_text l h.2 _
      (.operator (List.mem_append_right _ (List.contains_iff_mem.mp h.1)) _)
  | .seq [], _, _, hrest => hrest.noOpening
  | .seq [first], h, rest, hrest => by
    rw [Expr.startsOrdinarily] at h
    rw [Expr.text, argTexts, argTexts, commaSep, String.intercalate_singleton]
    exact Expr.ofText_within (first.ofText_text l h) hrest
  | .seq (first :: second :: others), h, rest, _ => by
    rw [Expr.startsOrdinarily] at h
    simp only [Expr.text, argTexts, commaSep, String.intercalate_cons_cons, String.toList_append,
      List.append_assoc]
    exact Expr.ofText_within (first.ofText_text l h) (.cons (by decide) (by decide) _)
  | .spread _, _, rest, _ => ofText_of_head '.' (by simp [Expr.text]) (by decide) rest
  | .await arg, _, rest, _ => by
    simp only [Expr.text, String.toList_append, List.append_assoc]
    exact ofText_word "await" (by decide) (.cons (by decide) _)
  | .yield none delegate, _, rest, _ => by
    refine ofText_of_head 'y' ?_ (by decide) rest
    rw [Expr.text]
    split <;> simp
  | .yield (some arg) delegate, _, rest, _ => by
    refine ofText_of_head 'y' ?_ (by decide) rest
    rw [Expr.text]
    split <;> simp
  | .paren _, _, rest, _ => ofText_of_head '(' (by simp [Expr.text, inParens]) (by decide) rest
  | .cast _ _ _ _, _, rest, _ =>
    ofText_of_head '(' (by simp [Expr.text, inParens]) (by decide) rest

theorem AssignTarget.ofText_text (l : Layout) :
    (x : AssignTarget) → x.startsOrdinarily = true → ∀ rest, Follows rest →
      ofText ((x.text l).toList ++ rest) = x.opening?
  | .pattern target, h, rest, hrest => target.ofText_text l h rest hrest
  | .expr target, h, _, hrest => Expr.ofText_within (target.ofText_text l h) hrest

theorem Pattern.ofText_text (l : Layout) :
    (p : Pattern) → p.startsOrdinarily = true → ∀ rest, Follows rest →
      ofText ((p.text l).toList ++ rest) = p.opening?
  | .ident name, h, _, hrest => ofText_ordinaryName h hrest
  | .object props, _, rest, _ => ofText_bracedList _ rest
  | .array _, _, rest, _ => ofText_of_head '[' (by simp [Pattern.text]) (by decide) rest
  | .default left right, h, rest, _ => by
    rw [Pattern.startsOrdinarily] at h
    simp only [Pattern.text, String.toList_append, List.append_assoc]
    exact left.ofText_text l h _ (.blank (by decide) _)
  | .rest _, _, rest, _ => ofText_of_head '.' (by simp [Pattern.text]) (by decide) rest
end

/-! ### What the guards miss -/

namespace Expr

theorem openingWithin_isSome {level : Nat} {e : Expr} {opening : Option Opening} :
    (e.openingWithin level opening).isSome = true ↔
      level ≤ e.precedence ∧ opening.isSome = true := by
  rw [openingWithin]
  split
  · rename_i h
    simp [Nat.not_le.mpr h]
  · rename_i h
    simp [Nat.not_lt.mp h]

/-- The guard of statements sees to the expressions that bind more tightly than an assignment. -/
theorem startsAmbiguously_of_opening :
    (e : Expr) → Precedence.assignment < e.precedence → e.opening?.isSome = true →
      e.startsAmbiguously = true
  | .ident _, _, h | .this, _, h | .super, _, h | .null, _, h | .bool _, _, h | .num _, _, h
  | .str _, _, h | .regex _ _, _, h | .template _ _, _, h | .array _, _, h | .new _ _, _, h
  | .unary _ _, _, h | .update _ true _, _, h | .spread _, _, h | .await _, _, h
  | .yield _ _, _, h | .paren _, _, h | .cast _ _ _ _, _, h => nomatch h
  | .object _, _, _ => rfl
  | .class _, _, _ => rfl
  | .function func, _, h => by
    rw [opening?] at h
    rw [startsAmbiguously]
    cases hArrow : func.isArrow with
    | true => simp [hArrow] at h
    | false => rfl
  | .taggedTemplate tag _ _, _, h => below tag (by decide) h
  | .member obj _, _, h => below obj (by decide) h
  | .index obj _, _, h => below obj (by decide) h
  | .call callee _, _, h => below callee (by decide) h
  | .update _ false arg, _, h => below arg (by decide) h
  | .binary op left _, _, h =>
    below left (Nat.lt_trans (by decide) (Precedence.conditional_lt_ofOperator op)) h
  | .conditional test _ _, _, h => below test (by decide) h
  | .assign _ _ _ _, hlevel, _ => absurd hlevel (Nat.lt_irrefl _)
  | .seq _, hlevel, _ => absurd hlevel (Nat.not_lt_of_le (Nat.le_succ _))
where
  below {level : Nat} (e : Expr) (hlevel : Precedence.assignment < level)
      (h : (e.openingWithin level e.opening?).isSome = true) : e.startsAmbiguously = true :=
    let h := openingWithin_isSome.mp h
    startsAmbiguously_of_opening e (Nat.lt_of_lt_of_le hlevel h.1) h.2

/-- What begins ambiguously and is not guarded is an assignment or a sequence. -/
theorem assign_or_seq {e : Expr} (hguard : e.startsAmbiguously = false)
    (hopening : e.opening?.isSome = true) :
    (∃ op target value span, e = .assign op target value span) ∨
      ∃ first es, e = .seq (first :: es) := by
  have hle : e.precedence ≤ Precedence.assignment := by
    by_contra hlt
    rw [e.startsAmbiguously_of_opening (Nat.lt_of_not_le hlt) hopening] at hguard
    cases hguard
  cases e with
  | assign op target value span => exact .inl ⟨op, target, value, span, rfl⟩
  | seq es =>
    cases es with
    | nil => cases hopening
    | cons first es => exact .inr ⟨first, es, rfl⟩
  | spread | yield => cases hopening
  | function func =>
    cases hArrow : func.isArrow with
    | true => simp [opening?, hArrow] at hopening
    | false => simp [precedence, hArrow, Precedence.primary, Precedence.assignment] at hle
  | binary op left right =>
    exact absurd (Precedence.conditional_lt_ofOperator op) (Nat.not_lt.mpr (Nat.le_succ_of_le hle))
  | conditional => exact absurd (show 3 ≤ 2 from hle) (by decide)
  | unary | update | await => exact absurd (show 15 ≤ 2 from hle) (by decide)
  | taggedTemplate | member | index | call | new =>
    exact absurd (show 18 ≤ 2 from hle) (by decide)
  | _ => exact absurd (show 20 ≤ 2 from hle) (by decide)

/-- The target of the assignment that the expression is, or of the one that is the first of the
sequence. -/
def leadingTarget? : Expr → Option AssignTarget
  | .assign _ target _ _ => some target
  | .seq (.assign _ target _ _ :: _) => some target
  | _ => none

/-- Whether the leading assignment of the expression begins ambiguously with another target than an
object pattern. -/
def LeadsUnguarded (e : Expr) : Prop :=
  ∃ target, e.leadingTarget? = some target ∧ (∀ props, target ≠ .pattern (.object props)) ∧
    target.opening?.isSome = true

/-- What begins ambiguously and is not guarded does so with its leading assignment. -/
theorem leadsUnguarded_iff {e : Expr} :
    e.LeadsUnguarded ↔ e.startsAmbiguously = false ∧ e.opening?.isSome = true := by
  constructor
  · rintro ⟨target, htarget, hobject, hopening⟩
    have hassign (op value span) : (assign op target value span).startsAmbiguously = false := by
      unfold startsAmbiguously
      split <;> simp_all
    unfold leadingTarget? at htarget
    split at htarget <;> cases htarget
    · exact ⟨hassign _ _ _, hopening⟩
    · exact ⟨hassign _ _ _, hopening⟩
  · rintro ⟨hguard, hopening⟩
    have hobject {op target value span}
        (h : (assign op target value span).startsAmbiguously = false) (props) :
        target ≠ .pattern (.object props) := by
      rintro rfl
      cases h
    obtain ⟨op, target, value, span, rfl⟩ | ⟨first, es, rfl⟩ := assign_or_seq hguard hopening
    · exact ⟨target, rfl, hobject hguard, hopening⟩
    · obtain ⟨hlevel, hfirst⟩ := openingWithin_isSome.mp hopening
      obtain ⟨op, target, value, span, rfl⟩ | ⟨_, _, rfl⟩ :=
        assign_or_seq (e := first) hguard hfirst
      · exact ⟨target, rfl, hobject hguard, hfirst⟩
      · exact absurd (show 2 ≤ 1 from hlevel) (by decide)

/-- The statement of an expression begins like a declaration or a block exactly if its leading
assignment has a target that does and that is no object pattern; a concise body begins like a block
exactly if it is no object literal but begins with a brace, and needs no parentheses. -/
theorem unguarded_iff (l : Layout) (e : Expr) (h : e.startsOrdinarily = true) :
    ((ofText ((Stmt.expr e).text l).toList).isSome = true ↔ e.LeadsUnguarded) ∧
    (ofText ((FunctionBody.expr e).arrowText l).toList = some .brace ↔
      e.isObject = false ∧ Precedence.assignment ≤ e.precedence ∧ e.opening? = some .brace) := by
  constructor
  · have htext : (Stmt.expr e).text l = parensIf e.startsAmbiguously (e.text l) ++ ";" := rfl
    rw [leadsUnguarded_iff, htext, String.toList_append, parensIf]
    cases hguard : e.startsAmbiguously with
    | true =>
      rw [if_pos rfl, ofText_of_head '(' (by simp [inParens]) (by decide)]
      simp
    | false =>
      have hend : Follows ";".toList := .cons (by decide) (by decide) []
      rw [if_neg (by decide), e.ofText_text l h _ hend]
      simp
  · have hend : Follows [] := ⟨.nil, nofun, by decide⟩
    rw [FunctionBody.arrowText, ← List.append_nil (String.toList _)]
    cases hobject : e.isObject with
    | true =>
      rw [if_pos rfl, ofText_of_head '(' (by simp [inParens]) (by decide)]
      simp
    | false =>
      rw [if_neg (by decide), ofText_within (e.ofText_text l h) hend, openingWithin]
      split
      · rename_i hlevel
        simp [Nat.not_le.mpr hlevel]
      · rename_i hlevel
        simp [Nat.not_lt.mp hlevel]

/-- The access `{}.x`. -/
def memberOfObject : Expr := .member (.object []) "x"

/-- The assignment `{}.x = y`. -/
def memberAssignment : Expr := .assign "=" (.expr memberOfObject) (.ident "y") .dummy

/-- The statement of the assignment begins like a block, and so does the access as a body. -/
theorem memberAssignment_unguarded :
    memberAssignment.startsOrdinarily = true ∧ memberOfObject.startsOrdinarily = true ∧
    ((ofText ((Stmt.expr memberAssignment).text (.pretty 0)).toList).isSome = true ↔
      memberAssignment.LeadsUnguarded) ∧
    (ofText ((FunctionBody.expr memberOfObject).arrowText .concise).toList = some .brace ↔
      memberOfObject.isObject = false ∧ Precedence.assignment ≤ memberOfObject.precedence ∧
        memberOfObject.opening? = some .brace) :=
  ⟨rfl, rfl, (unguarded_iff _ memberAssignment rfl).1, (unguarded_iff _ memberOfObject rfl).2⟩

/-- Neither guard keeps every expression of ordinary names from beginning like a block. -/
theorem not_guarded :
    (¬ ∀ e : Expr, e.startsOrdinarily = true →
      ofText ((Stmt.expr e).text (.pretty 0)).toList = none) ∧
    ¬ ∀ e : Expr, e.startsOrdinarily = true →
      ofText ((FunctionBody.expr e).arrowText .concise).toList ≠ some .brace := by
  constructor
  · intro h
    have hstmt : ofText ((Stmt.expr memberAssignment).text (.pretty 0)).toList = some .brace := by
      decide
    rw [h memberAssignment rfl] at hstmt
    cases hstmt
  · intro h
    exact h memberOfObject rfl (by decide)

end Expr

end TypeGuard
