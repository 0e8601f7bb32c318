import TypeGuard.Proofs.Printing.Statement

/-!
# Unambiguous texts

Different legible trees have different texts, `legible_texts_differ`. The others share theirs with
another tree: a sign before the same sign with an update, a call as the callee of a `new` with the
call of what the `new` makes, and an `else` with that of the conditional before it.
-/

namespace TypeGuard

/-- Different trees of names, operators, accesses, calls, blocks and conditionals have different
texts, unless an operator meets the sign of its operand, a call is taken for that of a `new`, or an
`else` for that of another conditional. -/
theorem legible_texts_differ (l : Layout) :
    (∀ e f : Expr, e.Elementary → f.Elementary → e.isLegible = true → f.isLegible = true →
      e ≠ f → e.text l ≠ f.text l) ∧
    ∀ s t : Stmt, s.Elementary → t.Elementary → s.isLegible = true → t.isLegible = true →
      s ≠ t → s.text l ≠ t.text l := by
  refine ⟨fun e f he hf hlegible hlegible' hne htext => hne ?_,
    fun s t hs ht hlegible hlegible' hne htext => hne ?_⟩
  · have hread := he.read?_text hlegible l
    rw [htext, hf.read?_text hlegible' l] at hread
    exact (Option.some.inj hread).symm
  · have hread := hs.read?_text hlegible l
    rw [htext, ht.read?_text hlegible' l] at hread
    exact (Option.some.inj hread).symm

/-- The subtraction of the made `c.d` from `a - b`, or of what is left of `b` after it from `a`. -/
def differences (left : Bool) : Expr :=
  let made := .new (.member (.ident "c") "d") [.ident "e"]
  if left then .binary "-" (.binary "-" (.ident "a") (.ident "b")) made
  else .binary "-" (.ident "a") (.binary "-" (.ident "b") made)

/-- A conditional within braces in the branch of another one; either has the `else`. -/
def nestedConditional (inner : Bool) : Stmt :=
  let other : Stmt := .expr (.ident "y")
  let conditional : Stmt :=
    .ifElse (.ident "b") (.expr (.ident "x")) (if inner then some other else none)
  .ifElse (.ident "a") (.block [conditional]) (if inner then none else some other)

theorem differences_texts_differ :
    (differences true).text .concise ≠ (differences false).text .concise ∧
    (nestedConditional true).text (.pretty 0) ≠ (nestedConditional false).text (.pretty 0) := by
  have hname (name : String) (h : isName name = true) : (Expr.ident name).Elementary := .ident h
  have ha := hname "a" (by decide)
  have hb := hname "b" (by decide)
  have hx := hname "x" (by decide)
  have hy := hname "y" (by decide)
  have hmade : (Expr.new (.member (.ident "c") "d") [.ident "e"]).Elementary :=
    .new (.member (hname "c" (by decide)) (by decide))
      (List.forall_mem_singleton.mpr (hname "e" (by decide)))
  have hminus : "-" ∈ Operator.binary := by decide
  constructor
  · exact (legible_texts_differ .concise).1 (differences true) (differences false)
      (.binary hminus (.binary hminus ha hb) hmade) (.binary hminus ha (.binary hminus hb hmade))
      (by decide) (by decide) nofun
  · exact (legible_texts_differ (.pretty 0)).2 (nestedConditional true) (nestedConditional false)
      (.ifThen ha (.block (List.forall_mem_singleton.mpr (.ifElse hb (.expr hx) (.expr hy)))))
      (.ifElse ha (.block (List.forall_mem_singleton.mpr (.ifThen hb (.expr hx)))) (.expr hy))
      (by decide) (by decide) nofun

/-! ### Shared texts -/

namespace Expr

variable (l : Layout)

theorem prefixOperatorText_sign {op : String} (hop : op ∈ ["-", "+"]) :
    prefixOperatorText op = op := by
  revert op
  decide

theorem within_eq (level : Nat) (e : Expr) (he : e.precedence = level) (text : String) :
    e.within level text = text := by
  simp [within, he, parensIf]

/-- A sign twice is an update. -/
theorem text_unary_unary {op : String} (hop : op ∈ ["-", "+"]) (arg : Expr) :
    (unary op (unary op arg)).text l = (update (op ++ op) true arg).text l := by
  rw [text, text, text, prefixOperatorText_sign hop, within_eq Precedence.unary (unary op arg) rfl,
    String.append_assoc]

/-- A sign before an update is one after it. -/
theorem text_unary_update {op : String} (hop : op ∈ ["-", "+"]) (arg : Expr) :
    (unary op (update (op ++ op) true arg)).text l =
      (update (op ++ op) true (unary op arg)).text l := by
  rw [text, text, text, text, prefixOperatorText_sign hop,
    within_eq Precedence.unary (unary op arg) rfl,
    within_eq Precedence.unary (update (op ++ op) true arg) rfl]
  simp only [String.append_assoc]

/-- The call of a callee of `new` is that of the `new`. -/
theorem text_new_call (callee : Expr) (args args' : List Expr) :
    (new (call callee args) args').text l = (call (new callee args) args').text l := by
  rw [text, text, text, text, within_eq Precedence.call (call callee args) rfl,
    within_eq Precedence.call (new callee args) rfl]
  simp only [String.append_assoc]

end Expr

/-- An `else` after the inner conditional is that of the inner one. -/
theorem Stmt.text_ifElse_ifThen (l : Layout) (test test' : Expr) (consequent alternate : Stmt) :
    (ifElse test (ifElse test' consequent none) (some alternate)).text l =
      (ifElse test (ifElse test' consequent (some alternate)) none).text l := by
  rw [text_ifElse, text_ifThen, text_ifThen, text_ifElse]
  simp only [String.append_assoc, String.append_empty]

/-- Different trees of names, operators, calls, blocks and conditionals may share a text. -/
theorem texts_shared :
    (¬ ∀ e f : Expr, e.Elementary → f.Elementary → e ≠ f → e.label ≠ f.label) ∧
    ¬ ∀ s t : Stmt, s.Elementary → t.Elementary → s ≠ t →
      s.text (.pretty 0) ≠ t.text (.pretty 0) := by
  have hx : (Expr.ident "x").Elementary := .ident (by decide)
  have hminus : "-" ∈ ["-", "+"] := by decide
  constructor
  · intro h
    exact h _ _ (.unary (by decide) (.unary (by decide) hx)) (.update (by decide) hx) nofun
      (Expr.text_unary_unary .concise hminus (.ident "x"))
  · intro h
    exact h _ _ (.ifElse hx (.ifThen hx (.expr hx)) (.expr hx))
      (.ifThen hx (.ifElse hx (.expr hx) (.expr hx))) nofun
      (Stmt.text_ifElse_ifThen (.pretty 0) _ _ _ _)

end TypeGuard
