import TypeGuard.Proofs.Erasure.Condition
import TypeGuard.Proofs.Insertion

/-!
# Erasure in inserted checks

What is inserted around a value is free of static types, so a checked value is so exactly where the
value itself is. The same holds of the definitions that are put into a list of statements.
-/

namespace TypeGuard

open Visit Instrumentation

/-! ### Inserted checks -/

theorem Expr.Checked.untyped {names : UnitNames} {type : StaticType} {label : String}
    {value checked : Expr} (h : value.Checked names type label checked) :
    checked.untyped = value.untyped := by
  cases h with
  | plain => rfl
  | asserted check => simp

namespace Setting

variable {cx : Setting} {I : VisitState → Prop} {d : Nat}

theorem InitChecked.untyped {kind : VarKind} {type : Option StaticType} {label : String}
    {init checked : Option Expr} (h : cx.InitChecked kind type label init checked) :
    optExprUntyped checked = optExprUntyped init := by
  cases h with
  | unchecked => rfl
  | checked _ _ _ hvalue => exact hvalue.untyped

theorem AssignedChecked.untyped {env : Environment} {op : String} {target : AssignTarget}
    {value checked : Expr} (h : cx.AssignedChecked I env op target value checked) :
    checked.untyped = value.untyped := by
  cases h with
  | unchecked => rfl
  | checked => simp

theorem ParamChecked.untyped {p : Param} {checks : List Stmt} (h : cx.ParamChecked p checks) :
    stmtsUntyped checks = p.checkUntyped cx := by
  cases h with
  | unchecked hnone =>
    rcases hnone with htype | hskip
    · simp [Param.checkUntyped, htype]
    · simp [Param.checkUntyped, hskip]
  | checked hskip htype hvalue => simp [Param.checkUntyped, htype, hskip, hvalue.untyped]

theorem BodyChecked.untyped {isArrow isAsync : Bool} {checks : List Stmt}
    {check : Option Combinator} {body checked : FunctionBody}
    (h : cx.BodyChecked isArrow isAsync checks body check checked) :
    checked.untyped = (stmtsUntyped checks && body.untyped) := by
  cases h with
  | behind =>
    unfold FunctionBody.behind
    split
    · rename_i hnone
      simp [List.isEmpty_iff.mp hnone]
    · simp
  | wrapped check => simp [FunctionBody.wrapped]

theorem checkValue_untyped (env : Environment) (span : Span) (value : Expr)
    (type : StaticType) (optional : Bool) (label : String) :
    Keeps (AtDepth d) (cx.checkValue env span value type optional label)
      (·.untyped = value.untyped) :=
  (checkValue_checked (ofScopes_atDepth d).noteAsserts env span value type optional label).weaken
    fun _ h => h.untyped

theorem checkDeclared_untyped (env : Environment) (kind : VarKind) (span : Span)
    (id : Pattern) (type : Option StaticType) (label : String) (init : Option Expr) :
    Keeps (AtDepth d) (cx.checkDeclared env kind span id type label init)
      (optExprUntyped · = optExprUntyped init) :=
  (checkDeclared_checked (ofScopes_atDepth d).noteAsserts env kind span id type label init
    (keeps_recordUntyped d id).leads
    fun _ declared _ => (keeps_recordTyped d id declared).leads).keeps.weaken fun _ h => h.untyped

theorem checkAssigned_untyped (env : Environment) (span : Span) (op : String)
    (target : AssignTarget) (value : Expr) :
    Keeps (AtDepth d) (cx.checkAssigned env span op target value)
      (·.untyped = value.untyped) :=
  (checkAssigned_checked (ofScopes_atDepth d).noteAsserts env span op target value).weaken
    fun _ h => h.untyped

/-- A cast is found to reify a type exactly where its type says so. -/
theorem reified?_isReified (env : Environment) (span : Span) (type : StaticType) :
    Keeps I (cx.reified? env span type) fun target => type.isReified env = target.isSome := by
  unfold reified?
  split
  · rename_i ref
    refine (keeps_orFail cx span _).bind fun kind hkind => ?_
    simp only [StaticType.isReified, hkind]
    cases kind <;> exact .pure rfl
  · exact .pure (by unfold StaticType.isReified; split <;> simp_all)

theorem checkParam_untyped (env : Environment) (span : Span) (p : Param) :
    Keeps (AtDepth d) (cx.checkParam env span p) (stmtsUntyped · = p.checkUntyped cx) :=
  (checkParam_checked (ofScopes_atDepth d).noteAsserts env span p).weaken fun _ h => h.untyped

theorem checkedBody_untyped (isArrow isAsync : Bool) (checks : List Stmt)
    (check : Option Combinator) (body : FunctionBody) :
    Keeps (AtDepth d) (cx.checkedBody isArrow isAsync checks check body)
      (·.untyped = (stmtsUntyped checks && body.untyped)) :=
  (checkedBody_checked (ofScopes_atDepth d).noteAsserts isArrow isAsync checks check body).weaken
    fun _ h => h.untyped

theorem declareAlias_untyped (env : Environment) (decl : TypeAlias) :
    Keeps (AtDepth d) (cx.declareAlias env decl) (·.untyped = true) := by
  refine (declareAlias_constant (ofScopes_atDepth d) env decl).weaken fun stmt h => ?_
  obtain ⟨check, rfl⟩ := h
  simp

theorem declareInterface_untyped (env : Environment) (decl : InterfaceDecl) :
    Keeps (AtDepth d) (cx.declareInterface env decl) (·.untyped = true) := by
  refine (declareInterface_constant (ofScopes_atDepth d) env decl).weaken fun stmt h => ?_
  obtain ⟨check, rfl⟩ := h
  simp

end Setting

/-! ### Statement lists -/

namespace Instrumentation

theorem orEmptyBlock_untyped {s : Option Stmt} {b : Bool} (h : optStmtUntyped s = b) :
    (orEmptyBlock s).untyped = b := by
  rw [← h]
  cases s <;> rfl

/-- Whether no static type is left in the visited statements of a list. -/
def visitedUntyped (vs : List Visited) : Bool := stmtsUntyped (vs.filterMap (·.stmt))

@[simp] theorem visitedUntyped_cons (v : Visited) (vs : List Visited) :
    visitedUntyped (v :: vs) = (optStmtUntyped v.stmt && visitedUntyped vs) := by
  unfold visitedUntyped
  cases h : v.stmt <;> simp [h]

theorem withDefinitions_untyped {definitions : List Stmt} (hd : stmtsUntyped definitions = true)
    (vs : List Visited) :
    stmtsUntyped (withDefinitions definitions vs) = visitedUntyped vs := by
  induction vs with
  | nil => rfl
  | cons v vs ih =>
    rw [withDefinitions, visitedUntyped_cons, stmtsUntyped_append, stmtsUntyped_toList]
    split
    · simp [hd, visitedUntyped]
    · rw [ih]

theorem noticing_untyped {d : Nat} {b : Bool} {visit : Visit (Option Stmt)}
    (hv : Keeps (AtDepth d) visit (optStmtUntyped · = b)) :
    Keeps (AtDepth d) (noticing visit) (optStmtUntyped ·.stmt = b) := leads_noticing hv.leads

theorem statementList_untyped {cx : Setting} {d : Nat} {b : Bool} {stmts : List Stmt}
    {visit : Visit (List Visited)} (hv : Keeps (AtDepth d) visit (visitedUntyped · = b)) :
    Keeps (AtDepth d) (statementList cx stmts visit) (stmtsUntyped · = b) := by
  refine (leads_statementList (ofScopes_atDepth d) (keeps_recordNames d _).leads
    hv.leads).keeps.weaken fun out h => ?_
  obtain ⟨vs, definitions, rfl, hvs⟩ := h
  have hdefinitions : stmtsUntyped (definitions.map (·.toStmt cx.names.runtime)) = true :=
    Definition.flushSince_untyped cx.names.runtime 0 definitions
  rw [withDefinitions_untyped hdefinitions, hvs]

end Instrumentation

end TypeGuard
