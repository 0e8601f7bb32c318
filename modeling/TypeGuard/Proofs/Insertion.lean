import TypeGuard.Instrumentation.Syntax
import TypeGuard.Proofs.Visit

/-!
# What visits insert

The visit of a single construct puts a check around a value, checks of the parameters in front of a
body and a wrapper around what the body returns, a constant in the place of a declared type, and
definitions into a list of statements. What comes out of such a visit is stated once here, for all
invariants that it keeps.
-/

namespace TypeGuard

open Visit Instrumentation

/-! ### Checked trees -/

/-- A value with a check of the type around it, which a value that is plainly of the type does not
need. -/
inductive Expr.Checked (names : UnitNames) (type : StaticType) (label : String) (value : Expr) :
    Expr → Prop where
  | plain (h : value.isPlainly type = true) : Expr.Checked names type label value value
  | asserted (check : Combinator) : Expr.Checked names type label value
      (value.asserted names.assert (check.toExpr names.runtime) label)

/-- A function body behind the checks of the parameters. -/
def FunctionBody.behind (checks : List Stmt) (body : FunctionBody) : FunctionBody :=
  if checks.isEmpty then body else .block (checks ++ body.stmts)

/-- A function body that returns the value of another one behind the checks of the parameters, with
a check around the value. -/
def FunctionBody.wrapped (names : UnitNames) (checks : List Stmt) (check : Combinator)
    (isArrow isAsync : Bool) (body : FunctionBody) : FunctionBody :=
  let value := producedValue isArrow isAsync body.stmts
  .block (checks ++
    [.ret (some (value.asserted names.assert (check.toExpr names.runtime) returnLabel))])

namespace Setting

variable (cx : Setting)

/-- The initial value of a declaration, with its check where it has one. -/
inductive InitChecked (kind : VarKind) (type : Option StaticType) (label : String) :
    Option Expr → Option Expr → Prop where
  | unchecked {init} : kind = .var ∨ cx.options.skipAsserts = true ∨ type = none ∨ init = none →
      InitChecked kind type label init init
  | checked {declared value expr} : kind ≠ .var → cx.options.skipAsserts = false →
      type = some declared → value.Checked cx.names declared label expr →
      InitChecked kind type label (some value) (some expr)

/-- An assigned value, with the check of a type that a name has in a state with the property `I`. -/
inductive AssignedChecked (I : VisitState → Prop) (env : Environment) (op : String)
    (target : AssignTarget) (value : Expr) : Expr → Prop where
  | unchecked : AssignedChecked I env op target value value
  | checked {name s binding type check} : op = "=" → target = .pattern (.ident name) → I s →
      s.scopes.lookup name = some binding →
      binding.pattern.leafType? binding.type name = some type →
      type.lower env none = .ok check →
      AssignedChecked I env op target value
        (value.asserted cx.names.assert (check.toExpr cx.names.runtime) name)

/-- The checks of a parameter. -/
inductive ParamChecked (p : Param) : List Stmt → Prop where
  | unchecked : p.type = none ∨ cx.options.skipAsserts = true → ParamChecked p []
  | checked {type expr} : cx.options.skipAsserts = false → p.type = some type →
      p.checked.toValue.Checked cx.names type p.checked.label expr → ParamChecked p [.expr expr]

/-- A function body behind the checks of the parameters, wrapped if its value is checked. -/
inductive BodyChecked (isArrow isAsync : Bool) (checks : List Stmt) (body : FunctionBody) :
    Option Combinator → FunctionBody → Prop where
  | behind : BodyChecked isArrow isAsync checks body none (body.behind checks)
  | wrapped (check : Combinator) : BodyChecked isArrow isAsync checks body (some check)
      (body.wrapped cx.names checks check isArrow isAsync)

end Setting

/-! ### Inserted checks -/

namespace Setting

variable {cx : Setting} {I J : VisitState → Prop}

section Checks

variable (hI : ∀ s, I s → I { s with hasAsserts := true })

include hI

theorem assertion_asserted (value : Expr) (check : Combinator) (label : String) :
    Keeps I (cx.assertion value check label)
      (· = value.asserted cx.names.assert (check.toExpr cx.names.runtime) label) :=
  (Keeps.modify hI).map fun _ _ => rfl

theorem checkValue_checked (env : Environment) (span : Span) (value : Expr) (type : StaticType)
    (optional : Bool) (label : String) :
    Keeps I (cx.checkValue env span value type optional label)
      (value.Checked cx.names type label) := by
  unfold checkValue
  split
  · rename_i hplain
    exact .pure (.plain hplain)
  · refine (keeps_orFail cx span _).bind fun check _ => ?_
    refine (assertion_asserted hI value _ label).weaken fun checked h => ?_
    rw [h]
    exact .asserted _

theorem checkReassigned_checked (env : Environment) (span : Span) (name : String) (value : Expr) :
    Keeps I (cx.checkReassigned env span name value)
      (cx.AssignedChecked I env "=" (.pattern (.ident name)) value) := by
  refine (keeps_lookup name).bind fun found hfound => ?_
  obtain ⟨s, hs, rfl⟩ := hfound
  split
  · rename_i type htype
    obtain ⟨binding, hbinding, hleaf⟩ := Option.bind_eq_some_iff.mp htype
    split
    · exact .pure .unchecked
    · refine (keeps_orFail cx span _).bind fun check hcheck => ?_
      split
      · exact .pure .unchecked
      · refine (assertion_asserted hI value check name).weaken fun checked h => ?_
        rw [h]
        exact .checked rfl rfl hs hbinding hleaf hcheck
  · exact .pure .unchecked

theorem checkAssigned_checked (env : Environment) (span : Span) (op : String)
    (target : AssignTarget) (value : Expr) :
    Keeps I (cx.checkAssigned env span op target value)
      (cx.AssignedChecked I env op target value) := by
  unfold checkAssigned
  split
  · split
    · rename_i name hchecks
      rw [hchecks.1]
      exact checkReassigned_checked hI env span name value
    · exact .pure .unchecked
  · exact .pure .unchecked

theorem checkParam_checked (env : Environment) (span : Span) (p : Param) :
    Keeps I (cx.checkParam env span p) (cx.ParamChecked p) := by
  unfold checkParam
  split
  · rename_i type htype
    split
    · rename_i hskip
      exact .pure (.unchecked (.inr hskip))
    · rename_i hskip
      exact (checkValue_checked hI env span _ type _ _).map fun expr h =>
        .checked (Bool.eq_false_iff.mpr hskip) htype h
  · rename_i htype
    exact .pure (.unchecked (.inl htype))

theorem checkedBody_checked (isArrow isAsync : Bool) (checks : List Stmt)
    (check : Option Combinator) (body : FunctionBody) :
    Keeps I (cx.checkedBody isArrow isAsync checks check body)
      (cx.BodyChecked isArrow isAsync checks body check) := by
  cases check with
  | none => exact .pure .behind
  | some check =>
    refine (assertion_asserted hI _ check returnLabel).map fun value h => ?_
    rw [h]
    exact .wrapped check

end Checks

/-- The names of a declared pattern are recorded, typed only where the initial value is checked. -/
theorem checkDeclared_checked (hJ : ∀ s, J s → J { s with hasAsserts := true })
    (env : Environment) (kind : VarKind) (span : Span) (id : Pattern) (type : Option StaticType)
    (label : String) (init : Option Expr)
    (huntyped : Leads I J (recordUntyped id) fun _ => True)
    (htyped : kind ≠ .var → ∀ declared, type = some declared →
      Leads I J (recordTyped id declared) fun _ => True) :
    Leads I J (cx.checkDeclared env kind span id type label init)
      (cx.InitChecked kind type label init) := by
  cases type with
  | none => exact huntyped.map fun _ _ => .unchecked (.inr (.inr (.inl rfl)))
  | some type =>
    simp only [checkDeclared]
    split
    · rename_i hskip
      refine huntyped.map fun _ _ => .unchecked ?_
      exact hskip.elim .inl fun hskip => .inr (.inl hskip)
    · rename_i hnot
      obtain ⟨hkind, hskip⟩ := not_or.mp hnot
      refine (htyped hkind type rfl).bind fun _ _ => ?_
      cases init with
      | none => exact .pure (.unchecked (.inr (.inr (.inr rfl))))
      | some value =>
        exact (checkValue_checked hJ env span value type false label).leads.map fun expr h =>
          .checked hkind (Bool.eq_false_iff.mpr hskip) rfl h

theorem keeps_reified? (env : Environment) (span : Span) (type : StaticType) :
    Keeps I (cx.reified? env span type) fun _ => True := by
  unfold reified?
  split
  · refine (keeps_orFail cx span _).bind fun kind _ => ?_
    split
    · exact .pure trivial
    · exact .pure trivial
  · exact .pure trivial

/-- There is a check of what a function returns exactly where the function says so. -/
theorem returnCheck_isSome (env : Environment) (span : Span) (isAsync isGenerator : Bool)
    (type : Option StaticType) :
    Keeps I (cx.returnCheck env span isAsync isGenerator type) fun check =>
      check.isSome = (type.isSome && !(cx.options.skipAsserts || isGenerator)) := by
  unfold returnCheck
  split
  · split
    · rename_i hskip
      exact .pure (by simp [hskip])
    · rename_i hskip
      have hchecked : (true && !(cx.options.skipAsserts || isGenerator)) = true := by
        simpa using hskip
      split
      · exact .pure hchecked.symm
      · exact (keeps_orFail cx span _).map fun _ _ => hchecked.symm
  · exact .pure rfl

/-! ### Type declarations -/

theorem keeps_refuseReserved (span : Span) (name : String) :
    Keeps I (cx.refuseReserved span name) fun _ => True := by
  unfold refuseReserved
  split
  · exact .throw _
  · exact .pure trivial

section Declarations

variable (hI : OfScopes I)

include hI

theorem declareType_constant (recursive : Bool) (span : Span) (id : String) (check : Combinator) :
    Keeps I (cx.declareType recursive span id check) fun stmt =>
      ∃ check : Combinator, stmt = .constDecl id (check.toExpr cx.names.runtime) span := by
  unfold declareType
  split
  · exact (keeps_defer hI _).map fun _ _ => ⟨.declare id, rfl⟩
  · exact .pure ⟨check, rfl⟩

theorem declareAlias_constant (env : Environment) (decl : TypeAlias) :
    Keeps I (cx.declareAlias env decl) fun stmt =>
      ∃ check : Combinator, stmt = .constDecl decl.id (check.toExpr cx.names.runtime) decl.span :=
  (keeps_refuseReserved _ _).bind fun _ _ => (keeps_noteTypes hI).bind fun _ _ =>
    (keeps_orFail cx _ _).bind fun check _ => declareType_constant hI _ _ _ check

theorem declareInterface_constant (env : Environment) (decl : InterfaceDecl) :
    Keeps I (cx.declareInterface env decl) fun stmt =>
      ∃ check : Combinator,
        stmt = .constDecl decl.id (check.toExpr cx.names.runtime) decl.span := by
  refine (keeps_refuseReserved _ _).bind fun _ _ => (keeps_noteTypes hI).bind fun _ _ => ?_
  split
  · exact (keeps_orFail cx _ _).bind fun check _ => declareType_constant hI _ _ _ check
  · exact (keeps_noteExtend hI).bind fun _ _ =>
      (keeps_orFail cx _ _).bind fun check _ => declareType_constant hI _ _ _ check

end Declarations

end Setting

/-! ### Statement lists -/

/-- The element at the position `i` is the last one of a list that has the property `P`. -/
def IsLast {α : Type} (P : α → Prop) (l : List α) (i : Nat) : Prop :=
  (∃ a, l[i]? = some a ∧ P a) ∧ ∀ a ∈ l.drop (i + 1), ¬ P a

section IsLast

variable {α β : Type} {P Q : α → Prop} {l : List α} {i j : Nat}

theorem exists_isLast (h : ∃ a ∈ l, P a) : ∃ i, IsLast P l i := by
  induction l with
  | nil =>
    obtain ⟨_, ⟨⟩, _⟩ := h
  | cons b l ih =>
    by_cases hrest : ∃ a ∈ l, P a
    · obtain ⟨i, hfound, hback⟩ := ih hrest
      exact ⟨i + 1, hfound, hback⟩
    · obtain ⟨a, ha, hP⟩ := h
      obtain rfl | ha := List.mem_cons.mp ha
      · exact ⟨0, ⟨a, rfl, hP⟩, fun a ha hP => hrest ⟨a, ha, hP⟩⟩
      · exact absurd ⟨a, ha, hP⟩ hrest

theorem isLast_map {f : α → β} {P : β → Prop} :
    IsLast P (l.map f) i ↔ IsLast (fun a => P (f a)) l i := by
  rw [IsLast, IsLast, List.getElem?_map, ← List.map_drop, List.forall_mem_map]
  refine and_congr_left' ?_
  cases l[i]? <;> simp

/-- No element with the property stands behind the last one. -/
theorem IsLast.le (hi : IsLast P l i) {a : α} (ha : l[j]? = some a) (hP : P a) : j ≤ i := by
  refine Nat.le_of_not_lt fun hlt => hi.2 a ?_ hP
  refine List.mem_of_getElem? (i := j - (i + 1)) ?_
  rw [List.getElem?_drop, Nat.add_sub_cancel' hlt, ha]

end IsLast

namespace Instrumentation

variable {cx : Setting} {I J K : VisitState → Prop}

/-- The visited statements of a list, among them the definitions that the list deferred. -/
def ListOf (cx : Setting) (each : List Visited → Prop) (out : List Stmt) : Prop :=
  ∃ (vs : List Visited) (definitions : List Definition),
    out = withDefinitions (definitions.map (·.toStmt cx.names.runtime)) vs ∧ each vs

theorem filterMap_cons (v : Visited) (vs : List Visited) :
    (v :: vs).filterMap (·.stmt) = v.stmt.toList ++ vs.filterMap (·.stmt) := by
  cases h : v.stmt <;> simp [h]

theorem withDefinitions_nil (vs : List Visited) :
    withDefinitions [] vs = vs.filterMap (·.stmt) := by
  induction vs with
  | nil => rfl
  | cons v vs ih => rw [withDefinitions, ih, filterMap_cons, List.nil_append, ite_self]

/-- The last statement that put any off has the definitions right behind it. -/
theorem withDefinitions_behind {ds : List Stmt} {vs : List Visited} {i : Nat}
    (h : IsLast (·.defers = true) vs i) :
    withDefinitions ds vs =
      (vs.take (i + 1)).filterMap (·.stmt) ++ ds ++ (vs.drop (i + 1)).filterMap (·.stmt) := by
  induction vs generalizing i with
  | nil => cases h.1.choose_spec.1
  | cons w vs ih =>
    rw [withDefinitions, List.take_succ_cons, List.drop_succ_cons, filterMap_cons]
    obtain ⟨⟨v, hv, hdefers⟩, hback⟩ := h
    cases i with
    | zero =>
      cases hv
      have hnone : vs.any (·.defers) = false := by simpa using hback
      rw [hdefers, hnone, Bool.not_false, Bool.and_true, if_pos rfl]
      simp only [List.append_assoc, List.take_zero, List.drop_zero, List.filterMap_nil,
        List.nil_append]
    | succ i =>
      have hany : vs.any (·.defers) = true :=
        List.any_eq_true.mpr ⟨v, List.mem_of_getElem? hv, hdefers⟩
      rw [hany, Bool.not_true, Bool.and_false, if_neg Bool.false_ne_true,
        ih ⟨⟨v, hv, hdefers⟩, hback⟩]
      simp only [List.append_assoc]

/-- Definitions stand behind all statements that put any off. -/
theorem withDefinitions_eq {ds : List Stmt} {vs : List Visited}
    (h : vs.any (·.defers) = false → ds = []) : ∃ n,
      withDefinitions ds vs =
        (vs.take n).filterMap (·.stmt) ++ ds ++ (vs.drop n).filterMap (·.stmt) ∧
      ∀ v ∈ vs.drop n, v.defers = false := by
  cases hany : vs.any (·.defers) with
  | true =>
    obtain ⟨i, hi⟩ := exists_isLast (List.any_eq_true.mp hany)
    exact ⟨i + 1, withDefinitions_behind hi, fun v hv => Bool.eq_false_iff.mpr (hi.2 v hv)⟩
  | false =>
    rw [h hany, withDefinitions_nil]
    exact ⟨0, rfl, by simpa using hany⟩

theorem leads_noticing {visit : Visit (Option Stmt)} {Q : Option Stmt → Prop}
    (hv : Leads I J visit Q) : Leads I J (noticing visit) fun v => Q v.stmt :=
  keeps_pendingCount.leads.bind fun _ _ => hv.bind fun _ hstmt =>
    keeps_pendingCount.leads.map fun _ _ => hstmt

/-- The names of a list are recorded, then each of its statements is visited. -/
theorem leads_statementList {stmts : List Stmt} {visit : Visit (List Visited)}
    {each : List Visited → Prop} (hK : OfScopes K)
    (hnames : Leads I J (recordNames (declaredNames stmts)) fun _ => True)
    (hv : Leads J K visit each) : Leads I K (statementList cx stmts visit) (ListOf cx each) := by
  refine hnames.bind fun _ _ => keeps_pendingCount.leads.bind fun start _ =>
    hv.bind fun vs hvs => Keeps.get.leads.bind fun s _ => ?_
  split
  · refine (keeps_flushSince hK cx.names.runtime start).leads.map fun stmts h => ?_
    obtain ⟨definitions, rfl⟩ := h
    exact ⟨vs, definitions, rfl, hvs⟩
  · exact .pure ⟨vs, [], (withDefinitions_nil vs).symm, hvs⟩

end Instrumentation

end TypeGuard
