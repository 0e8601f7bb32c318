import TypeGuard.Proofs.Blame.Syntax
import TypeGuard.Proofs.Resolution

/-!
# Where diagnostics point

A unit that is refused ends in one error with a registered code, which names the file of the unit
and points at one of its constructs: the type declaration that has a reserved name, or the construct
whose annotation fails to lower. An assignment is checked by the annotation that the assigned name
was declared with, which stands elsewhere, but it is the assignment that the diagnostic points at.
`Program.instrument_blames` is the main result.
-/

namespace TypeGuard

open Visit Instrumentation

/-! ### Diagnostics of sites -/

theorem LoweringError.isSome_template? (e : LoweringError) :
    (Diagnostic.template? e.code).isSome = true := by
  cases e <;> rfl

namespace Site.Causes

variable {file : String} {site : Site} {d : Diagnostic}

/-- What a site causes is an error with a registered code at the span of its construct. -/
theorem eq_ofCode (h : site.Causes file d) : ∃ code args,
    (Diagnostic.template? code).isSome = true ∧
    d = .atSpan file site.construct.span code args := by
  cases h with
  | reserved hname hreserved => exact ⟨_, _, rfl, rfl⟩
  | lowering hfails => exact ⟨_, _, LoweringError.isSome_template? _, rfl⟩

end Site.Causes

/-! ### Units -/

/-- The statements of a unit are visited in its region. -/
theorem Setting.visitUnit_reports (cx : Setting) (stmts : List Stmt) :
    Reports cx (InRegion 0 (.fresh (untypedNames (varNames stmts) ++ stmtsLexicalNames stmts)) [])
      (Within 0 []) (cx.visitUnit stmts) (stmtsSites cx.environment 0
        ((Region.ofUnit stmts).record (declaredNames stmts)) [] stmts) := by
  have heach := instrumentEach_report cx .nil cx.environment 0
    ((Region.ofUnit stmts).record (declaredNames stmts)) stmts (List.subset_append_right _ _)
  exact (reports_recordNames 0 _ [] _).bind_same fun _ => (reports_statementList heach).within

namespace Program

/-- Where a unit is refused, the diagnostic is an error with a registered code and without further
places. It names the file of the unit and the span of one of its constructs, which causes it: by a
reserved name that it declares, or by an annotation that fails to lower with the error that the
diagnostic tells. -/
theorem instrument_blames {options : Options} {p : Program} {d : Diagnostic}
    (h : p.instrument options = .error d) :
    d.category = .error ∧ (Diagnostic.template? d.code).isSome = true ∧ d.related = [] ∧
    d.file = p.fileName ∧
    ∃ site ∈ p.sites options, d.start = site.construct.span.start ∧
      d.length = site.construct.span.length ∧ site.Causes p.fileName d := by
  simp only [Program.instrument] at h
  split at h
  · cases h
  · rename_i e s hvisit
    cases h
    have hunit := Setting.visitUnit_reports (.ofProgram options p) p.body
    obtain ⟨site, hsite, hcauses⟩ :=
      hunit.caused .start d s (VisitState.start_inRegion _) hvisit
    obtain ⟨code, args, hcode, rfl⟩ := hcauses.eq_ofCode
    exact ⟨rfl, hcode, rfl, rfl, site, hsite, rfl, rfl, hcauses⟩

/-- The type `Array<number, string>`. -/
def pairList : StaticType :=
  .generic ⟨.simple "Array", some [.primitive .number, .primitive .string]⟩

/-- The unit `let x: Array<number, string>; function f(y) { x = y; }`. -/
def lateCheck : Program :=
  let assignment : Stmt := .expr (.assign "=" (.pattern (.ident "x")) (.ident "y") ⟨49, 54⟩)
  ⟨"late.js", [declareName "x" pairList, .function (.declaration "f" [.ofName "y"] [assignment])]⟩

/-- The declaration is accepted, since it has no value, and the assignment in the function is to
blame. -/
theorem lateCheck_blames :
    let d : Diagnostic := ⟨"late.js", 49, 5, "Unsupported Array type annotation: incorrect " ++
      "number of type parameters (expected 1, got 2)", .error, 9001, []⟩
    lateCheck.instrument .default = .error d ∧ (Diagnostic.template? d.code).isSome = true ∧
    d.file = lateCheck.fileName ∧
    ∃ site ∈ lateCheck.sites .default, d.start = site.construct.span.start ∧
      d.length = site.construct.span.length ∧ site.Causes lateCheck.fileName d := by
  intro d
  have h : lateCheck.instrument .default = .error d := rfl
  obtain ⟨-, hcode, -, hfile, hsite⟩ := instrument_blames h
  exact ⟨h, hcode, hfile, hsite⟩

end Program

end TypeGuard
