import TypeGuard.Proofs.Shedding.Mirror
import TypeGuard.Proofs.Shedding.Relation

/-!
# Inserted checks side by side

What is inserted around a value is an assertion of the value, and nothing on the side without
checks. Type declarations turn into the same constants on both sides, and the definitions that a
list of statements deferred are put into the same places.
-/

namespace TypeGuard

open Visit Instrumentation

namespace Setting

/-- The setting in which a unit is visited with checks. -/
def withChecks (cx : Setting) : Setting :=
  { cx with options := { cx.options with skipAsserts := false } }

/-- The setting in which a unit is visited without checks. -/
def withoutChecks (cx : Setting) : Setting :=
  { cx with options := { cx.options with skipAsserts := true } }

variable {cx : Setting} {d : Nat}

theorem names_withChecks : cx.withChecks.names = cx.names := rfl

theorem skipAsserts_withChecks : cx.withChecks.options.skipAsserts = false := rfl

/-! ### Values -/

theorem checkDeclared_mirrors (env : Environment) (kind : VarKind) (span : Span)
    (id id' : Pattern) (type : Option StaticType) (label : String) (init init' : Option Expr) :
    Mirrors d (cx.withChecks.checkDeclared env kind span id type label init)
      (fun checked bare => cx.withChecks.InitChecked kind type label init checked ∧ bare = init')
      (cx.withoutChecks.checkDeclared env kind span id' type label init') := by
  cases type with
  | none =>
    exact (mirrors_recordUntyped id id').map fun _ _ _ =>
      ⟨.unchecked (.inr (.inr (.inl rfl))), rfl⟩
  | some type =>
    have hbare : cx.withoutChecks.checkDeclared env kind span id' (some type) label init' =
        (do recordUntyped id'; return init') := if_pos (.inr rfl)
    rw [hbare]
    simp only [checkDeclared, skipAsserts_withChecks, Bool.false_eq_true, or_false]
    split
    · rename_i hkind
      exact (mirrors_recordUntyped id id').map fun _ _ _ => ⟨.unchecked (.inl hkind), rfl⟩
    · rename_i hkind
      refine (mirrors_recordTyped id id' type).bind fun _ _ _ => ?_
      cases init with
      | none => exact .pure ⟨.unchecked (.inr (.inr (.inr rfl))), rfl⟩
      | some value =>
        exact .check (fun t => (checkValue_checked (fun _ h => h.noteAsserts) env span value type
          false label).map fun expr h => .checked hkind rfl rfl h) fun _ h => ⟨h, rfl⟩

theorem checkAssigned_mirrors (env : Environment) (span : Span) (op : String)
    (target target' : AssignTarget) (value value' : Expr) :
    Mirrors d (cx.withChecks.checkAssigned env span op target value)
      (fun checked bare =>
        (∃ t, cx.withChecks.AssignedChecked (VisitState.Mirrors d · t) env op target value
          checked) ∧ bare = value')
      (cx.withoutChecks.checkAssigned env span op target' value') := by
  have hbare : cx.withoutChecks.checkAssigned env span op target' value' = pure value' := by
    unfold checkAssigned
    split
    · exact if_neg (by simp [withoutChecks])
    · rfl
  rw [hbare]
  exact .check (fun t => (checkAssigned_checked (fun _ h => h.noteAsserts) env span op target
    value).weaken fun _ h => ⟨t, h⟩) fun _ h => ⟨h, rfl⟩

/-- The type that a cast is found to reify is that of its reference, on both sides. -/
theorem reified?_mirrors (env : Environment) (span : Span) (type : StaticType) :
    Mirrors d (cx.withChecks.reified? env span type)
      (fun found found' => found = found' ∧ ∀ target, found = some target →
        ∃ ref, type = .generic ref ∧ ref.classify env = .ok (.reify target))
      (cx.withoutChecks.reified? env span type) := by
  unfold reified?
  split
  · rename_i ref
    refine (mirrors_orFail cx.withChecks _ span _).bind fun kind kind' h => ?_
    obtain ⟨rfl, hkind⟩ := h
    cases kind with
    | reify target =>
      refine .pure ⟨rfl, fun target' h => ?_⟩
      cases h
      exact ⟨ref, rfl, hkind⟩
    | _ => exact .pure ⟨rfl, nofun⟩
  · exact .pure ⟨rfl, nofun⟩

/-! ### Functions -/

theorem checkParam_mirrors (env : Environment) (span : Span) (p : Param) :
    Mirrors d (cx.withChecks.checkParam env span p)
      (fun checks bare => cx.withChecks.ParamChecked p checks ∧ bare = [])
      (cx.withoutChecks.checkParam env span p) := by
  have hbare : cx.withoutChecks.checkParam env span p = pure [] := by
    unfold checkParam
    split
    · exact if_pos rfl
    · rfl
  rw [hbare]
  exact .check (fun t => checkParam_checked (fun _ h => h.noteAsserts) env span p)
    fun _ h => ⟨h, rfl⟩

/-- The check of a returned value is that of a declared type, and never that of a generator. -/
theorem returnCheck_mirrors (env : Environment) (span : Span) (isAsync isGenerator : Bool)
    (type : Option StaticType) :
    Mirrors d (cx.withChecks.returnCheck env span isAsync isGenerator type)
      (fun check bare => bare = none ∧
        (check = none ∧ (type = none ∨ isGenerator = true) ∨
          isGenerator = false ∧
            ∃ declared combinator, type = some declared ∧ check = some combinator))
      (cx.withoutChecks.returnCheck env span isAsync isGenerator type) := by
  cases type with
  | none => exact .pure ⟨rfl, .inl ⟨rfl, .inl rfl⟩⟩
  | some type =>
    have hbare : cx.withoutChecks.returnCheck env span isAsync isGenerator (some type) =
        pure none := by
      simp [returnCheck, withoutChecks]
    rw [hbare]
    simp only [returnCheck, skipAsserts_withChecks, Bool.false_or]
    split
    · rename_i hgenerator
      exact .pure ⟨rfl, .inl ⟨rfl, .inr hgenerator⟩⟩
    · rename_i hgenerator
      have hgenerator : isGenerator = false := by simpa using hgenerator
      split
      · exact .pure ⟨rfl, .inr ⟨hgenerator, type, _, rfl, rfl⟩⟩
      · refine .check (P := fun check => ∃ combinator, check = some combinator)
          (fun t => (keeps_orFail cx.withChecks span _).map fun check _ => ⟨check, rfl⟩) ?_
        rintro _ ⟨check, rfl⟩
        exact ⟨rfl, .inr ⟨hgenerator, type, check, rfl, rfl⟩⟩

theorem checkedBody_mirrors (isArrow isAsync : Bool) (checks : List Stmt)
    (check : Option Combinator) (body body' : FunctionBody) :
    Mirrors d (cx.withChecks.checkedBody isArrow isAsync checks check body)
      (fun checked bare =>
        cx.withChecks.BodyChecked isArrow isAsync checks body check checked ∧ bare = body')
      (cx.withoutChecks.checkedBody isArrow isAsync [] none body') :=
  .check (fun _ => checkedBody_checked (fun _ h => h.noteAsserts) isArrow isAsync checks check body)
    fun _ h => ⟨h, rfl⟩

/-! ### Type declarations -/

theorem mirrors_refuseReserved (span : Span) (name : String) :
    Mirrors d (cx.withChecks.refuseReserved span name) (fun _ _ => True)
      (cx.withoutChecks.refuseReserved span name) := by
  unfold refuseReserved
  split
  · exact .throw _
  · exact .pure trivial

theorem declareType_mirrors (recursive : Bool) (span : Span) (id : String) (check : Combinator) :
    Mirrors d (cx.withChecks.declareType recursive span id check)
      (fun stmt bare => stmt = bare ∧ ∃ init, stmt = .constDecl id init span)
      (cx.withoutChecks.declareType recursive span id check) := by
  unfold declareType
  split
  · exact (mirrors_defer _).map fun _ _ _ => ⟨rfl, _, rfl⟩
  · exact .pure ⟨rfl, _, rfl⟩

theorem declareAlias_mirrors (env : Environment) (decl : TypeAlias) :
    Mirrors d (cx.withChecks.declareAlias env decl)
      (fun stmt bare => stmt = bare ∧ ∃ init, stmt = .constDecl decl.id init decl.span)
      (cx.withoutChecks.declareAlias env decl) := by
  refine (mirrors_refuseReserved _ _).bind fun _ _ _ => mirrors_noteTypes.bind fun _ _ _ => ?_
  refine (mirrors_orFail cx.withChecks _ _ _).bind fun check check' h => ?_
  obtain ⟨rfl, -⟩ := h
  exact declareType_mirrors _ _ _ check

theorem declareInterface_mirrors (env : Environment) (decl : InterfaceDecl) :
    Mirrors d (cx.withChecks.declareInterface env decl)
      (fun stmt bare => stmt = bare ∧ ∃ init, stmt = .constDecl decl.id init decl.span)
      (cx.withoutChecks.declareInterface env decl) := by
  refine (mirrors_refuseReserved _ _).bind fun _ _ _ => mirrors_noteTypes.bind fun _ _ _ => ?_
  split
  · refine (mirrors_orFail cx.withChecks _ _ _).bind fun check check' h => ?_
    obtain ⟨rfl, -⟩ := h
    exact declareType_mirrors _ _ _ check
  · refine mirrors_noteExtend.bind fun _ _ _ => (mirrors_orFail cx.withChecks _ _ _).bind
      fun check check' h => ?_
    obtain ⟨rfl, -⟩ := h
    exact declareType_mirrors _ _ _ check

end Setting

/-! ### Statement lists -/

/-- The visited statements of a list on both sides. -/
inductive eachSheds (names : UnitNames) (d : Nat) :
    List Stmt → List Visited → List Visited → Prop where
  | nil : eachSheds names d [] [] []
  | cons {s ss v vs w ws} : Stmt.Sheds names d s v.stmt w.stmt → v.defers = w.defers →
      eachSheds names d ss vs ws → eachSheds names d (s :: ss) (v :: vs) (w :: ws)

namespace eachSheds

variable {names : UnitNames} {d : Nat} {ss : List Stmt} {vs ws : List Visited}

theorem any_defers (h : eachSheds names d ss vs ws) : vs.any (·.defers) = ws.any (·.defers) := by
  induction h with
  | nil => rfl
  | cons _ hdefers _ ih => rw [List.any_cons, List.any_cons, hdefers, ih]

theorem filterMap (h : eachSheds names d ss vs ws) :
    stmtsShed names d ss (vs.filterMap (·.stmt)) (ws.filterMap (·.stmt)) := by
  induction h with
  | nil => exact .nil
  | @cons s ss v vs w ws hs _ _ ih =>
    rw [filterMap_cons, filterMap_cons]
    exact .cons hs ih

end eachSheds

theorem stmtsShed.defineAll {names : UnitNames} {d : Nat} {ss fs bs : List Stmt}
    (queue : List Definition) (h : stmtsShed names d ss fs bs) :
    stmtsShed names d ss (queue.map (·.toStmt names.runtime) ++ fs)
      (queue.map (·.toStmt names.runtime) ++ bs) := by
  induction queue with
  | nil => exact h
  | cons d queue ih => exact .define d ih

theorem eachSheds.withDefinitions {names : UnitNames} {d : Nat} {ss : List Stmt}
    {vs ws : List Visited} (queue : List Definition) (h : eachSheds names d ss vs ws) :
    stmtsShed names d ss (withDefinitions (queue.map (·.toStmt names.runtime)) vs)
      (withDefinitions (queue.map (·.toStmt names.runtime)) ws) := by
  induction h with
  | nil => exact .nil
  | cons hs hdefers htail ih =>
    rw [Instrumentation.withDefinitions, Instrumentation.withDefinitions, hdefers,
      htail.any_defers]
    split
    · exact .cons hs (htail.filterMap.defineAll queue)
    · exact .cons hs ih

namespace Instrumentation

variable {cx : Setting} {d : Nat}

theorem noticing_mirrors {s : Stmt} {visit visit' : Visit (Option Stmt)}
    (hv : Mirrors d visit (Stmt.Sheds cx.names d s) visit') :
    Mirrors d (noticing visit)
      (fun v w => Stmt.Sheds cx.names d s v.stmt w.stmt ∧ v.defers = w.defers)
      (noticing visit') := by
  refine mirrors_pendingCount.bind fun before before' hbefore => hv.bind fun stmt stmt' h => ?_
  refine mirrors_pendingCount.map fun after after' hafter => ⟨h, ?_⟩
  rw [hbefore, hafter]

theorem statementList_mirrors {stmts : List Stmt} {visit visit' : Visit (List Visited)}
    (hv : Mirrors d visit (eachSheds cx.names d stmts) visit') :
    Mirrors d (statementList cx.withChecks stmts visit) (stmtsShed cx.names d stmts)
      (statementList cx.withoutChecks stmts visit') := by
  refine (mirrors_recordNames _).bind fun _ _ _ =>
    mirrors_pendingCount.bind fun start start' h => ?_
  rw [← h]
  refine hv.bind fun vs ws hvs => Mirrors.get.bind fun s t hst => ?_
  rw [hvs.any_defers, hst.atTopLevel]
  split
  · refine (mirrors_flushSince cx.names.runtime start).map fun definitions definitions' h => ?_
    obtain ⟨rfl, queue, rfl⟩ := h
    exact hvs.withDefinitions queue
  · exact .pure hvs.filterMap

end Instrumentation

/-! ### One level down -/

/-- Whether a statement is left does not depend on the checks. -/
theorem Stmt.Sheds.isSome_eq {names : UnitNames} {d : Nat} {s : Stmt} {full bare : Option Stmt}
    (h : Stmt.Sheds names d s full bare) : full.isSome = bare.isSome := by
  cases h with
  | deep => rfl
  | visited _ h => cases h <;> rfl

namespace Visit.Mirrors

variable {names : UnitNames} {d : Nat}

theorem nestedExpr {e : Expr} {full bare : Visit Expr}
    (hv : Mirrors (d + 1) full (Expr.ShedsInside names (d + 1) e) bare) :
    Mirrors d (Visit.nested e full) (Expr.Sheds names d e) (Visit.nested e bare) :=
  .nested .deep fun hlt => hv.weaken fun _ _ => .visited hlt

theorem nestedStmt {s : Stmt} {full bare : Visit (Option Stmt)}
    (hv : Mirrors (d + 1) full (Stmt.ShedsInside names (d + 1) s) bare) :
    Mirrors d (Visit.nested (some s) full) (Stmt.Sheds names d s)
      (Visit.nested (some s) bare) :=
  .nested .deep fun hlt => hv.weaken fun _ _ => .visited hlt

end Visit.Mirrors

end TypeGuard
