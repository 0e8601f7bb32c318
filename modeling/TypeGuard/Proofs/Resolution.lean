import TypeGuard.Instrumentation
import TypeGuard.Proofs.Resolution.Syntax
import TypeGuard.Syntax.Build

/-!
# Resolution of checked reassignments

Every check of a reassignment in an instrumented unit is that of a type declared for the name in one
of the regions around the assignment, and none of the regions further in has recorded the name so
far. Where all of them have recorded what they bind, the name resolves to that declaration. A region
that records a name late lets a check look past it: all cases of a `switch` are one region, but each
of them records its functions and classes by itself.
-/

namespace TypeGuard

open Visit Instrumentation

theorem VisitState.start_inRegion (declared : List (String × Option StaticType)) :
    InRegion 0 (.fresh declared) [] .start :=
  ⟨rfl, .empty declared, rfl⟩

/-- The statements of a unit are visited in its region. -/
theorem Setting.visitUnit_scoped (cx : Setting) (stmts : List Stmt) :
    Leads (InRegion 0 (.fresh (untypedNames (varNames stmts) ++ stmtsLexicalNames stmts)) [])
      (Within 0 []) (cx.visitUnit stmts) (ListOf cx (eachScoped cx FoundAs cx.environment 0
        ((Region.ofUnit stmts).record (declaredNames stmts)) [] stmts)) := by
  have heach := instrumentEach_scoped cx .nil cx.environment 0
    ((Region.ofUnit stmts).record (declaredNames stmts)) stmts (List.subset_append_right _ _)
  exact (leads_recordNames 0 _ [] _).bind fun _ _ => (statementList_scoped heach).within

/-- A visited statement stands among those of its list. -/
theorem Instrumentation.mem_withDefinitions {definitions : List Stmt} {v : Visited}
    {vs : List Visited} {s : Stmt} (hv : v ∈ vs) (hs : v.stmt = some s) :
    s ∈ withDefinitions definitions vs := by
  induction vs with
  | nil => cases hv
  | cons w vs ih =>
    rw [withDefinitions]
    rcases List.mem_cons.mp hv with rfl | hv
    · rw [hs]
      exact List.mem_cons_self ..
    · refine List.mem_append_right _ ?_
      split
      · exact List.mem_append_right _ (List.mem_filterMap.mpr ⟨v, hv, hs⟩)
      · exact ih hv

namespace Program

/-- The unit `out` has the visited statements of `p`, and every check that was put around an
assigned value is that of a type which the name has by `P` in the regions of the assignment. -/
def Scoped (options : Options) (P : String → StaticType → List Region → Prop) (p out : Program) :
    Prop :=
  let cx := Setting.ofProgram options p
  ∃ body s, cx.visitUnit p.body .start = .ok body s ∧ out = { p with body := cx.enclose s body } ∧
    ListOf cx (eachScoped cx P cx.environment 0
      ((Region.ofUnit p.body).record (declaredNames p.body)) [] p.body) body

/-- An assigned value is checked against a type that its name is found as. -/
theorem instrument_foundAs {options : Options} {p out : Program}
    (h : p.instrument options = .ok out) : p.Scoped options FoundAs out := by
  simp only [Program.instrument] at h
  split at h
  · rename_i body s hvisit
    cases h
    have hunit := Setting.visitUnit_scoped (.ofProgram options p) p.body
    obtain ⟨-, hbody⟩ := hunit .start body s (VisitState.start_inRegion _) hvisit
    exact ⟨body, s, hvisit, rfl, hbody⟩
  · cases h

/-- The statement `target = value;` for names. -/
def assignName (target value : String) : Stmt :=
  .expr (.assign "=" (.pattern (.ident target)) (.ident value) .dummy)

/-- The declaration `let name: type;`. -/
def declareName (name : String) (type : StaticType) : Stmt :=
  .varDecl ⟨.let, [⟨.ident name, some type, none, .dummy⟩], .dummy⟩

/-- The unit
```
let x: number;
function f(y) { x = y; { let x: string; x = y; } return (x) => { x = y; }; }
```
-/
def shadowingUnit : Program :=
  let arrow : Function := { Function.arrow [assignName "x" "y"] with params := [.ofName "x"] }
  let f : Function := .declaration "f" [.ofName "y"]
    [assignName "x" "y", .block [declareName "x" (.primitive .string), assignName "x" "y"],
      .ret (some (.function arrow))]
  ⟨"shadowing.js", [declareName "x" (.primitive .number), .function f]⟩

theorem shadowingUnit_scoped : ∃ out, shadowingUnit.instrument .default = .ok out ∧
    shadowingUnit.Scoped .default FoundAs out :=
  have h : shadowingUnit.instrument .default = .ok _ := rfl
  ⟨_, h, instrument_foundAs h⟩

/-- The cases of `switch (k) { case 0: x = b; case 1: function x() {} }`. -/
def hoistedCases : List SwitchCase :=
  [⟨some (.num "0"), [assignName "x" "b"]⟩,
    ⟨some (.num "1"), [.function (.declaration "x" [] [])]⟩]

/-- The unit `let x: number; switch (k) { case 0: x = b; case 1: function x() {} }`. -/
def hoistedCase : Program :=
  ⟨"hoistedCase.js",
    [declareName "x" (.primitive .number), .switch (.ident "k") hoistedCases]⟩

/-- The assignment is one to the function of the other case, and checked as one to the number. -/
theorem hoistedCase_not_scoped : ∃ out, hoistedCase.instrument .default = .ok out ∧
    ¬ hoistedCase.Scoped .default ResolvesTo out := by
  refine ⟨_, rfl, ?_⟩
  rintro ⟨body, s, hvisit, -, vs, definitions, hbody, heach⟩
  -- the relation is followed from the statements of the unit to the assigned value
  obtain ⟨u, vs, rfl, -, v, _, rfl, hswitch, rfl⟩ := heach
  obtain ⟨f, gs, hv, -, hcases⟩ := hswitch.2 (by decide)
  obtain ⟨g, fs, gs, rfl, -, ⟨ws, definitions', hfs, w, _, rfl, hassign, rfl⟩, -⟩ := hcases
  obtain ⟨e, hw, hexpr⟩ := hassign.2 (by decide)
  obtain ⟨t, value, checked, rfl, -, hident, hchecked⟩ := hexpr.2 (by decide)
  rcases hchecked with rfl | ⟨-, name, type, check, hname, hresolves, -⟩
  · -- the value is left without a check, but the visit puts one around it
    have hvalue : checked = .ident "b" := hident.2 (by decide)
    have hassigned : Stmt.expr (.assign "=" t checked .dummy) ∈ fs := by
      rw [hfs]
      exact mem_withDefinitions (List.mem_singleton.mpr rfl) hw
    have hvisited : Stmt.switch f (⟨g, fs⟩ :: gs) ∈ body := by
      rw [hbody]
      exact mem_withDefinitions (List.mem_cons_of_mem _ (List.mem_singleton.mpr rfl)) hv
    have hrun : (Setting.ofProgram .default hoistedCase).visitUnit hoistedCase.body .start =
        .ok [.varDecl ⟨.let, [⟨.ident "x", none, none, .dummy⟩], .dummy⟩,
          .switch (.ident "k") [⟨some (.num "0"), [.expr (.assign "=" (.pattern (.ident "x"))
            (.callName "_assert" [.ident "b", .member (.ident "_t") "Number", .str "x"]) .dummy)]⟩,
            ⟨some (.num "1"), [.function (.declaration "x" [] [])]⟩]] _ := rfl
    cases hvisit.symm.trans hrun
    rcases List.mem_cons.mp hvisited with h | h
    · cases h
    · cases List.mem_singleton.mp h
      cases List.mem_singleton.mp hassigned
      cases hvalue
  · -- neither region declares a type that the name resolves to
    cases hname
    have hdeclared : ∀ type, ("x", some type) ∉ (Region.ofCases hoistedCases).declared := by
      rintro type hmem
      cases List.mem_singleton.mp hmem
    cases hresolves with
    | here hmem => exact hdeclared type hmem
    | outer hbinds _ => exact hbinds ⟨none, List.mem_singleton.mpr rfl⟩

end Program

end TypeGuard
