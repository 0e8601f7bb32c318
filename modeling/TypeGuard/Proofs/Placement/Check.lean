import TypeGuard.Proofs.Everywhere
import TypeGuard.Proofs.Insertion
import TypeGuard.Proofs.Placed

/-!
# Placement in inserted checks

The body of a function whose result is checked moves into a function of its own. What that asks of
the function is `NodeTest.movable`; all other checks leave every construct where it is.
-/

namespace TypeGuard

open Visit Instrumentation

/-- Whether what the function returns is checked. -/
def Function.isChecked (options : Options) (func : Function) : Bool :=
  func.returnType.isSome && !(options.skipAsserts || func.isGenerator)

/-- Where its result is checked, an ordinary function does without `super` in its body, and an async
one without `await` in its parameters. -/
def Function.isMovable (options : Options) (func : Function) : Bool :=
  !func.isChecked options ||
    (func.isArrow || func.body.placed .super false) &&
      (!func.isAsync || paramsPlaced .await false func.params)

/-- The body of every function whose result is checked can be moved into a function of its own. -/
def NodeTest.movable (options : Options) : NodeTest where
  expr _ := true
  param _ := true
  function func := func.isMovable options
  member _ := true
  classDecl _ := true
  declarator _ := true
  stmt _ := true

namespace Function

variable {options : Options} {k : Contextual} {hasHome : Bool}

/-- Whether a construct may stand directly in the function that is left of a visited one. The
function is no longer async where its result is checked. -/
def mayHold (options : Options) (k : Contextual) (hasHome : Bool) (func : Function) : Bool :=
  k.inFunction hasHome (func.isAsync && !func.isChecked options) func.isGenerator

/-- Whether a construct may stand in what the body of a function turns into. Where the result is
checked that is the body of another function, an arrow function if the first one is such. -/
def bodyMayHold (options : Options) (k : Contextual) (hasHome : Bool) (func : Function) : Bool :=
  if func.isChecked options then
    k.inFunction (func.isArrow && func.mayHold options k hasHome) func.isAsync false
  else func.mayHold options k hasHome

theorem params_placed {func : Function} (hm : func.isMovable options = true)
    (h : paramsPlaced k (k.inFunction hasHome func.isAsync func.isGenerator) func.params = true) :
    paramsPlaced k (func.mayHold options k hasHome) func.params = true := by
  cases k with
  | super => exact h
  | yield => exact h
  | await =>
    simp only [Contextual.inFunction] at h
    simp only [mayHold, Contextual.inFunction]
    cases hchecked : func.isChecked options with
    | false => simpa using h
    | true =>
      simp only [isMovable, hchecked, Bool.not_true, Bool.false_or, Bool.and_eq_true] at hm
      cases hasync : func.isAsync with
      | false =>
        rw [hasync] at h
        exact h
      | true =>
        rw [hasync, Bool.not_true, Bool.false_or] at hm
        exact hm.2

theorem body_placed {func : Function} (hm : func.isMovable options = true)
    (h : func.body.placed k (k.inFunction hasHome func.isAsync func.isGenerator) = true) :
    func.body.placed k (func.bodyMayHold options k hasHome) = true := by
  rw [bodyMayHold]
  split
  · rename_i hchecked
    have hgenerator : func.isGenerator = false := by
      simp only [isChecked, Bool.and_eq_true, Bool.not_eq_true', Bool.or_eq_false_iff] at hchecked
      exact hchecked.2.2
    rw [hgenerator] at h
    cases k with
    | await => exact h
    | yield => exact h
    | super =>
      simp only [Contextual.inFunction, mayHold] at h ⊢
      cases harrow : func.isArrow with
      | true => simpa using h
      | false =>
        simp only [isMovable, hchecked, harrow, Bool.not_true, Bool.false_or,
          Bool.and_eq_true] at hm
        exact hm.1
  · rename_i hchecked
    simpa [mayHold, hchecked] using h

end Function

variable {k : Contextual} {allowed : Bool}

/-! ### Inserted checks -/

theorem Expr.Checked.placed {names : UnitNames} {type : StaticType} {label : String}
    {value checked : Expr} (h : value.Checked names type label checked)
    (hvalue : value.placed k allowed = true) : checked.placed k allowed = true := by
  cases h with
  | plain => exact hvalue
  | asserted check => simp [hvalue]

namespace Setting

variable {cx : Setting} {I : VisitState → Prop} (env : Environment) (span : Span)

theorem checkValue_placed {value : Expr} (type : StaticType) (optional : Bool) (label : String)
    (h : value.placed k allowed = true) :
    Keeps AnyState (cx.checkValue env span value type optional label)
      (·.placed k allowed = true) :=
  (checkValue_checked ofScopes_anyState.noteAsserts env span value type optional label).weaken
    fun _ hchecked => hchecked.placed h

theorem checkDeclared_placed (kind : VarKind) (id : Pattern) (type : Option StaticType)
    (label : String) {init : Option Expr} (h : optExprPlaced k allowed init = true) :
    Keeps AnyState (cx.checkDeclared env kind span id type label init)
      (optExprPlaced k allowed · = true) := by
  refine (checkDeclared_checked ofScopes_anyState.noteAsserts env kind span id type label init
    (keeps_modify _).leads fun _ _ _ => (keeps_modify _).leads).keeps.weaken fun out hout => ?_
  cases hout with
  | unchecked => exact h
  | checked _ _ _ hvalue => exact hvalue.placed h

theorem checkAssigned_placed (op : String) (target : AssignTarget) {value : Expr}
    (h : value.placed k allowed = true) :
    Keeps AnyState (cx.checkAssigned env span op target value) (·.placed k allowed = true) := by
  refine (checkAssigned_checked ofScopes_anyState.noteAsserts env span op target value).weaken
    fun out hout => ?_
  cases hout with
  | unchecked => exact h
  | checked => simp [h]

theorem checkParam_placed (p : Param) (h : p.pattern.placed k allowed = true) :
    Keeps AnyState (cx.checkParam env span p) (stmtsPlaced k allowed · = true) := by
  refine (checkParam_checked ofScopes_anyState.noteAsserts env span p).weaken
    fun checks hchecks => ?_
  cases hchecks with
  | unchecked => rfl
  | checked _ _ hvalue =>
    have hplaced := p.checked.toValue_placed (p.checked_placed h)
    exact both (hvalue.placed hplaced) rfl

/-- The checks of the parameters stand in the function itself; the body may stand in one of its
own. -/
theorem checkedBody_placed {isArrow isAsync : Bool} {checks : List Stmt} {check : Option Combinator}
    {body : FunctionBody} (hchecks : stmtsPlaced k allowed checks = true)
    (hbody : body.placed k
      (if check.isSome then k.inFunction (isArrow && allowed) isAsync false else allowed) = true) :
    Keeps AnyState (cx.checkedBody isArrow isAsync checks check body)
      (·.placed k allowed = true) := by
  refine (checkedBody_checked ofScopes_anyState.noteAsserts isArrow isAsync checks check
    body).weaken fun out hout => ?_
  cases hout with
  | wrapped check =>
    rw [← FunctionBody.stmts_placed] at hbody
    have hvalue : (producedValue isArrow isAsync body.stmts).placed k allowed = true :=
      producedValue_placed hbody
    have hreturned : (Expr.asserted cx.names.assert (producedValue isArrow isAsync body.stmts)
        (check.toExpr cx.names.runtime) returnLabel).placed k allowed = true := by simp [hvalue]
    show stmtsPlaced k allowed (checks ++ [.ret (some (Expr.asserted _ _ _ _))]) = true
    rw [stmtsPlaced_append, hchecks]
    exact both hreturned rfl
  | behind =>
    unfold FunctionBody.behind
    split
    · exact hbody
    · show stmtsPlaced k allowed (checks ++ body.stmts) = true
      rw [stmtsPlaced_append, FunctionBody.stmts_placed, hchecks]
      exact hbody

theorem declareAlias_placed (decl : TypeAlias) :
    Keeps AnyState (cx.declareAlias env decl) (·.placed k allowed = true) := by
  refine (declareAlias_constant ofScopes_anyState env decl).weaken fun stmt h => ?_
  obtain ⟨check, rfl⟩ := h
  simp

theorem declareInterface_placed (decl : InterfaceDecl) :
    Keeps AnyState (cx.declareInterface env decl) (·.placed k allowed = true) := by
  refine (declareInterface_constant ofScopes_anyState env decl).weaken fun stmt h => ?_
  obtain ⟨check, rfl⟩ := h
  simp

end Setting

/-! ### Statement lists -/

namespace Instrumentation

theorem orEmptyBlock_placed {s : Option Stmt} (h : optStmtPlaced k allowed s = true) :
    (orEmptyBlock s).placed k allowed = true := by
  cases s with
  | some s => exact h
  | none => rfl

/-- Whether the construct stands only where it may in the visited statements of a list. -/
def visitedPlaced (k : Contextual) (allowed : Bool) (vs : List Visited) : Bool :=
  stmtsPlaced k allowed (vs.filterMap (·.stmt))

theorem visitedPlaced_cons (v : Visited) (vs : List Visited) :
    visitedPlaced k allowed (v :: vs) =
      (optStmtPlaced k allowed v.stmt && visitedPlaced k allowed vs) := by
  unfold visitedPlaced
  cases h : v.stmt with
  | some s => simp only [List.filterMap_cons, h, stmtsPlaced, optStmtPlaced]
  | none => simp only [List.filterMap_cons, h, optStmtPlaced, Bool.true_and]

theorem withDefinitions_placed {definitions : List Stmt}
    (hd : stmtsPlaced k allowed definitions = true) (vs : List Visited) :
    stmtsPlaced k allowed (withDefinitions definitions vs) = visitedPlaced k allowed vs := by
  induction vs with
  | nil => rfl
  | cons v vs ih =>
    rw [withDefinitions, visitedPlaced_cons, stmtsPlaced_append, stmtsPlaced_toList]
    split
    · rw [stmtsPlaced_append, hd, Bool.true_and, visitedPlaced]
    · rw [ih]

theorem noticing_placed {visit : Visit (Option Stmt)}
    (hv : Keeps AnyState visit (optStmtPlaced k allowed · = true)) :
    Keeps AnyState (noticing visit) (optStmtPlaced k allowed ·.stmt = true) :=
  leads_noticing hv.leads

theorem statementList_placed {cx : Setting} {stmts : List Stmt} {visit : Visit (List Visited)}
    (hv : Keeps AnyState visit (visitedPlaced k allowed · = true)) :
    Keeps AnyState (statementList cx stmts visit) (stmtsPlaced k allowed · = true) := by
  refine (leads_statementList ofScopes_anyState (keeps_modify _).leads hv.leads).keeps.weaken
    fun out h => ?_
  obtain ⟨vs, definitions, rfl, hvs⟩ := h
  have hdefinitions : stmtsPlaced k allowed (definitions.map (·.toStmt cx.names.runtime)) = true :=
    Definition.flushSince_placed cx.names.runtime 0 definitions
  rw [withDefinitions_placed hdefinitions, hvs]

end Instrumentation

end TypeGuard
