import TypeGuard.Proofs.Agreement.Syntax
import TypeGuard.Proofs.Resolution

/-!
# Agreement of declarations and reassignments

A value that is assigned to a name passes the check of the type that was declared for the name. The
declared type is lowered again for that, with the type parameters in scope at the assignment, so the
check is that of the declaration unless a function or class in between has a type parameter with a
name that the type mentions. `Program.capturedName_disagrees` shows such a capture.
-/

namespace TypeGuard

open Visit Instrumentation

/-- The frame of the statements of a unit, in which the names of its `var`, functions and classes
have been recorded. -/
def Frame.ofUnit (env : Environment) (stmts : List Stmt) : Frame :=
  ⟨(Region.ofUnit stmts).record (declaredNames stmts), env⟩

/-- The statements of a unit are visited in its frame. -/
theorem Setting.visitUnit_agrees (cx : Setting) (stmts : List Stmt) :
    Leads (InRegion 0 (.fresh (untypedNames (varNames stmts) ++ stmtsLexicalNames stmts)) [])
      (Within 0 []) (cx.visitUnit stmts)
      (ListOf cx (eachAgree cx 0 (.ofUnit cx.environment stmts) [] stmts)) := by
  have haround : FramesAround [] (.ofUnit cx.environment stmts) [] := ⟨.nil, .nil⟩
  have heach := instrumentEach_agree cx haround 0 stmts (List.subset_append_right _ _)
  exact (leads_recordNames 0 _ [] _).bind fun _ _ => (statementList_scoped heach).within

namespace Program

/-- The unit `out` has the visited statements of `p`. The check of a declared initial value is that
of the declared type, and the check of a value assigned to the name is the same one, unless a type
parameter in between has a name that the type mentions. -/
def Agrees (options : Options) (p out : Program) : Prop :=
  let cx := Setting.ofProgram options p
  ∃ body s, cx.visitUnit p.body .start = .ok body s ∧ out = { p with body := cx.enclose s body } ∧
    ListOf cx (eachAgree cx 0 (.ofUnit cx.environment p.body) [] p.body) body

theorem instrument_reassigns {options : Options} {p out : Program}
    (h : p.instrument options = .ok out) : p.Agrees options out := by
  simp only [Program.instrument] at h
  split at h
  · rename_i body s hvisit
    cases h
    have hunit := Setting.visitUnit_agrees (.ofProgram options p) p.body
    obtain ⟨-, hbody⟩ := hunit .start body s (VisitState.start_inRegion _) hvisit
    exact ⟨body, s, hvisit, rfl, hbody⟩
  · cases h

/-- The declarations `type T = number; let x: Array<T> = y;`. -/
def sharedDeclarations : List Stmt :=
  let elems : StaticType := .generic ⟨.simple "Array", some [.generic ⟨.simple "T", none⟩]⟩
  [.typeAlias ⟨"T", [], .primitive .number, false, .dummy⟩,
    .varDecl ⟨.let, [⟨.ident "x", some elems, some (.ident "y"), .dummy⟩], .dummy⟩]

/-- The unit
```
type T = number;
let x: Array<T> = y;
class A<U: string> { m<V: U>() { let x: V = y; x = y; } n<W>() { x = y; } }
```
-/
def genericMethods : Program :=
  let declareV : Stmt := .varDecl ⟨.let,
    [⟨.ident "x", some (.generic ⟨.simple "V", none⟩), some (.ident "y"), .dummy⟩], .dummy⟩
  let m : Function := { Function.anonymous [declareV, assignName "x" "y"] with
    typeParams := [⟨"V", some (.generic ⟨.simple "U", none⟩)⟩] }
  let n : Function := { Function.anonymous [assignName "x" "y"] with typeParams := [⟨"W", none⟩] }
  ⟨"genericMethods.js", sharedDeclarations ++ [.class ⟨some "A", none,
    [⟨"U", some (.primitive .string)⟩],
    [.method (.ident "m") .method false m, .method (.ident "n") .method false n], .dummy⟩]⟩

theorem genericMethods_agrees : ∃ out, genericMethods.instrument .default = .ok out ∧
    genericMethods.Agrees .default out :=
  have h : genericMethods.instrument .default = .ok _ := rfl
  ⟨_, h, instrument_reassigns h⟩

/-- The unit `type T = number; let x: Array<T> = y; function f<T: string>() { x = y; }`. -/
def capturedName : Program :=
  ⟨"capturedName.js", sharedDeclarations ++
    [.function { Function.declaration "f" [] [assignName "x" "y"] with
      typeParams := [⟨"T", some (.primitive .string)⟩] }]⟩

/-- The declared value is checked as a list of `T`, and the assigned one as a list of strings. -/
theorem capturedName_disagrees :
    let names : UnitNames := ⟨"_t", "_assert", "_extend"⟩
    let checked (elem : Combinator) : Expr :=
      Expr.asserted "_assert" (.ident "y") ((Combinator.list elem none).toExpr names.runtime) "x"
    capturedName.instrument .default = .ok ⟨"capturedName.js",
      [Support.libraryImport names "tcomb",
        .constDecl "T" ((Combinator.builtin .number).toExpr names.runtime) .dummy,
        .varDecl ⟨.let, [⟨.ident "x", none, some (checked (.ref ⟨["T"]⟩)), .dummy⟩], .dummy⟩,
        .function (.declaration "f" []
          [.expr (.assign "=" (.pattern (.ident "x")) (checked (.builtin .string)) .dummy)]),
        Support.assertHelper names false]⟩ :=
  rfl

end Program

end TypeGuard
