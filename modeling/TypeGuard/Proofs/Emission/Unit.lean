import TypeGuard.Instrumentation
import TypeGuard.Proofs.Emission.Syntax

/-!
# Units and their logs

What the instrumentation of a unit puts around its statements is a function of what the visit of the
statements inserted and put off.
-/

namespace TypeGuard

open Visit Instrumentation

namespace Setting

variable (cx : Setting)

/-- Whether the assert helper stands in a unit into which that much was inserted. -/
def assertHelper? (inserted : List Inserted) : Bool :=
  inserted.any (·.isAssertion) && !cx.options.skipHelpers

/-- Whether the extend helper stands in a unit into which that much was inserted. -/
def extendHelper? (inserted : List Inserted) : Bool :=
  inserted.any (·.usesExtend) && !cx.options.skipHelpers

/-- The import in front of a unit into which that much was inserted. -/
def importFor (inserted : List Inserted) : List Stmt :=
  if inserted.any (·.isConstant) || cx.assertHelper? inserted || cx.extendHelper? inserted then
    [Support.libraryImport cx.names cx.options.runtimeLibrary]
  else []

/-- The helpers behind a unit into which that much was inserted. -/
def helpersFor (inserted : List Inserted) : List Stmt :=
  (if cx.assertHelper? inserted then
    [Support.assertHelper cx.names cx.options.warnOnFailure] else []) ++
  if cx.extendHelper? inserted then [Support.extendHelper cx.names] else []

variable {cx} {R : Demands} {known : Prop}

/-- The flags that a visit of a unit leaves are those of what it inserted and put off. -/
theorem enclose_after {s : VisitState} {log : List Inserted} {defs : List Definition}
    (h : VisitState.start.After s log defs) (body : List Stmt) :
    cx.enclose s body = cx.importFor (log ++ defs.map .definition) ++ body ++
      defs.map (·.toStmt cx.names.runtime) ++ cx.helpersFor (log ++ defs.map .definition) := by
  have hassert : s.needsAssertHelper cx.options =
      cx.assertHelper? (log ++ defs.map .definition) := by
    rw [VisitState.needsAssertHelper, assertHelper?, h.hasAsserts, List.any_append,
      Inserted.any_isAssertion_definitions, Bool.or_false]
    rfl
  have hextend : s.needsExtendHelper cx.options =
      cx.extendHelper? (log ++ defs.map .definition) := by
    rw [VisitState.needsExtendHelper, extendHelper?, h.hasExtend, List.any_append,
      Inserted.any_usesExtend_definitions]
    rfl
  have htypes : s.hasTypes = (log ++ defs.map Inserted.definition).any (·.isConstant) := by
    rw [h.hasTypes, List.any_append, Inserted.any_isConstant_definitions, Bool.or_false]
    rfl
  have hpending : s.pending = defs := h.pending
  simp only [enclose, VisitState.needsImport, hassert, hextend, htypes, importFor, helpersFor,
    Definition.flushSince, hpending, List.drop_zero, List.append_assoc]

theorem visitUnit_becomes (hR : R.Met cx known) {stmts : List Stmt}
    (hd : FitsIf known 0 (stmtsNesting stmts)) :
    Emits 0 true (cx.visitUnit stmts) fun out log defs =>
      ∃ vs, eachBecome cx R cx.environment 0 stmts vs log defs ∧ out = vs.filterMap (·.stmt) :=
  .behind (silent_recordNames _) fun _ _ =>
    statementList_unit (instrumentEach_become cx hR cx.environment 0 stmts hd)

end Setting

namespace Program

/-- The statements of `out` are those that the statements of `p` become, with the import in front of
them, and the definitions that they put off and the helpers behind. -/
def Becomes (options : Options) (R : Demands) (p out : Program) : Prop :=
  let cx := Setting.ofProgram options p
  ∃ (vs : List Visited) (log : List Inserted) (defs : List Definition),
    eachBecome cx R cx.environment 0 p.body vs log defs ∧
    out.body = cx.importFor (log ++ defs.map .definition) ++ vs.filterMap (·.stmt) ++
      defs.map (·.toStmt cx.names.runtime) ++ cx.helpersFor (log ++ defs.map .definition)

/-- The log of the unit is that of the visit, in which every definition is one of a type that has
its constant. -/
theorem exists_after {R : Demands} {known : Prop} {options : Options} {p out : Program}
    (hR : R.Met (.ofProgram options p) known) (hd : FitsIf known 0 p.nesting)
    (h : p.instrument options = .ok out) :
    let cx := Setting.ofProgram options p
    ∃ vs s log defs, VisitState.start.After s log defs ∧
      eachBecome cx R cx.environment 0 p.body vs log defs ∧
      out.body = cx.enclose s (vs.filterMap (·.stmt)) := by
  simp only [Program.instrument] at h
  split at h
  · rename_i body s hvisit
    cases h
    obtain ⟨log, defs, hafter, vs, heach, rfl⟩ :=
      Setting.visitUnit_becomes hR hd .start body s rfl rfl hvisit
    exact ⟨vs, s, log, defs, hafter, heach, rfl⟩
  · cases h

theorem instrument_becomes {R : Demands} {known : Prop} {options : Options} {p out : Program}
    (hR : R.Met (.ofProgram options p) known) (hd : FitsIf known 0 p.nesting)
    (h : p.instrument options = .ok out) : p.Becomes options R out := by
  obtain ⟨vs, s, log, defs, hafter, heach, hout⟩ := exists_after hR hd h
  exact ⟨vs, log, defs, heach, hout.trans (Setting.enclose_after hafter _)⟩

end Program

end TypeGuard
