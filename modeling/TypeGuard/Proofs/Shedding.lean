import TypeGuard.Instrumentation
import TypeGuard.Proofs.Shedding.Syntax

/-!
# Checks are additive

A unit that is instrumented with its checks can be instrumented without them, and what it is then
turned into differs by the checks only.
-/

namespace TypeGuard

open Visit Instrumentation

theorem VisitState.start_mirrors : start.Mirrors 0 start :=
  ⟨rfl, rfl, rfl, rfl, rfl, rfl, rfl⟩

theorem Setting.visitUnit_mirrors (cx : Setting) {d : Nat} (stmts : List Stmt) :
    Mirrors d (cx.withChecks.visitUnit stmts) (stmtsShed cx.names d stmts)
      (cx.withoutChecks.visitUnit stmts) :=
  (mirrors_recordNames _).bind fun _ _ _ =>
    statementList_mirrors (instrumentEach_sheds cx.environment stmts)

namespace Program

/-- The second unit is the first one without its checks, where the first one is `p` instrumented
with them. It lacks the assert helper, and the import as well if nothing else needs it. -/
inductive Sheds (options : Options) (p : Program) : Program → Program → Prop where
  | mk {fs bs : List Stmt} {s : VisitState} :
      (Setting.ofProgram options p).visitUnit p.body .start = .ok fs s →
      stmtsShed (.ofProgram p) 0 p.body fs bs →
      Sheds options p
        { p with body :=
            (if s.hasTypes || s.needsAssertHelper options || s.needsExtendHelper options then
              [Support.libraryImport (.ofProgram p) options.runtimeLibrary] else []) ++
            fs ++ s.pending.map (·.toStmt (UnitNames.ofProgram p).runtime) ++
            (if s.needsAssertHelper options then
              [Support.assertHelper (.ofProgram p) options.warnOnFailure] else []) ++
            if s.needsExtendHelper options then [Support.extendHelper (.ofProgram p)] else [] }
        { p with body :=
            (if s.hasTypes || s.needsExtendHelper options then
              [Support.libraryImport (.ofProgram p) options.runtimeLibrary] else []) ++
            bs ++ s.pending.map (·.toStmt (UnitNames.ofProgram p).runtime) ++
            if s.needsExtendHelper options then [Support.extendHelper (.ofProgram p)] else [] }

/-- Wherever a unit is instrumented with its checks, it is instrumented without them as well, and
the checks are all that the two results differ by. -/
theorem checks_additive {options : Options} {p full : Program}
    (h : p.instrument { options with skipAsserts := false } = .ok full) :
    ∃ bare, p.instrument { options with skipAsserts := true } = .ok bare ∧
      p.Sheds { options with skipAsserts := false } full bare := by
  simp only [Program.instrument] at h ⊢
  split at h
  · rename_i fs s hvisit
    cases h
    obtain ⟨bs, t, hbare, hst, hshed⟩ :=
      (Setting.ofProgram options p).visitUnit_mirrors p.body .start .start fs s
        VisitState.start_mirrors hvisit
    have hbare :
        (Setting.ofProgram { options with skipAsserts := true } p).visitUnit p.body .start =
          .ok bs t := hbare
    refine ⟨_, by rw [hbare], ?_⟩
    have hmk := Sheds.mk hvisit hshed
    simp only [Setting.enclose, Setting.ofProgram, VisitState.needsImport,
      VisitState.needsAssertHelper, VisitState.needsExtendHelper, Definition.flushSince,
      ← hst.pending, ← hst.hasTypes, ← hst.hasExtend, hst.hasAsserts, Bool.false_and, Bool.or_false,
      List.drop_zero, Bool.false_eq_true, if_false, List.append_nil] at hmk ⊢
    exact hmk
  · cases h

/-- The unit `type T = ?T; async (x: T): T => (y: T);`. -/
def recursiveArrow : Program :=
  let type : StaticType := .generic ⟨.simple "T", none⟩
  let arrow : Function :=
    ⟨none, [⟨.ident "x", some type, false⟩], .expr (.cast (.ident "y") type false .dummy),
      some type, [], true, true, false, .dummy⟩
  ⟨"recursiveArrow.js",
    [.typeAlias ⟨"T", [], .nullable type, true, .dummy⟩, .expr (.function arrow)]⟩

theorem recursiveArrow_sheds :
    ∃ full bare,
      recursiveArrow.instrument { Options.default with skipAsserts := false } = .ok full ∧
      recursiveArrow.instrument { Options.default with skipAsserts := true } = .ok bare ∧
      recursiveArrow.Sheds { Options.default with skipAsserts := false } full bare :=
  have h : recursiveArrow.instrument { Options.default with skipAsserts := false } = .ok _ := rfl
  have ⟨bare, hbare, hsheds⟩ := checks_additive h
  ⟨_, bare, h, hbare, hsheds⟩

end Program

end TypeGuard
