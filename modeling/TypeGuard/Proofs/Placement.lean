import TypeGuard.Proofs.Placement.Syntax

/-!
# Constructs bound to their function stay legal

An instrumented unit has `super`, `await` and `yield` in legal places if the unit itself has and the
bodies of the functions with a checked result can be moved: `Program.instrument_wellPlaced`. A
method that refers to `super` and whose result is checked is not of that kind, which
`Program.overridingMethod_not_wellPlaced` shows.
-/

namespace TypeGuard

open Visit Instrumentation

namespace Setting

variable (cx : Setting) {k : Contextual} {allowed : Bool}

theorem visitUnit_placed (stmts : List Stmt) (h : stmtsPlaced k allowed stmts = true)
    (hm : stmtsAll (.movable cx.options) stmts = true) :
    Keeps AnyState (cx.visitUnit stmts) (stmtsPlaced k allowed · = true) :=
  (keeps_modify _).bind fun _ _ =>
    statementList_placed (instrumentEach_placed cx cx.environment stmts h hm)

/-- What stands around the statements of a unit holds nothing that is bound to its function. -/
theorem enclose_placed (s : VisitState) (body : List Stmt) :
    stmtsPlaced k allowed (cx.enclose s body) = stmtsPlaced k allowed body := by
  have hif (b : Bool) {s : Stmt} (hs : s.placed k allowed = true) :
      stmtsPlaced k allowed (if b then [s] else []) = true := by
    cases b with
    | true => exact both hs rfl
    | false => rfl
  simp [enclose, hif _ (Support.libraryImport_placed _ _), hif _ (Support.assertHelper_placed _ _),
    hif _ (Support.extendHelper_placed _), Definition.flushSince_placed]

end Setting

namespace Program

/-- A unit with `super`, `await` and `yield` in legal places keeps them there, provided that no
ordinary function with a checked result refers to `super` in its body, and no async one awaits in
its parameters. -/
theorem instrument_wellPlaced {options : Options} {p out : Program} (hp : p.wellPlaced = true)
    (hmovable : p.all (.movable options) = true) (h : p.instrument options = .ok out) :
    out.wellPlaced = true := by
  rw [wellPlaced_iff] at hp ⊢
  intro k
  simp only [Program.instrument] at h
  split at h
  · rename_i body s hvisit
    cases h
    have hvisited := Setting.visitUnit_placed (.ofProgram options p) p.body (hp k) hmovable
    obtain ⟨-, hbody⟩ := hvisited .start body s trivial hvisit
    rw [placed, Setting.enclose_placed]
    exact hbody
  · cases h

/-- The expression `super.m()`. -/
def superCall : Expr := .callMember .super "m" []

/-- The class `A` with the base class `B` and the given members. -/
def derivedClass (members : List ClassMember) : Stmt :=
  .class ⟨some "A", some (.ident "B"), [], members, .dummy⟩

/-- The unit
```
class A extends B {
  m() { const f = (): number => super.m(); return f(); }
  async n(p): any { return await p; }
  *g(): any { yield 1; }
}
```
-/
def methodsOfAllKinds : Program :=
  let number : Option StaticType := some (.primitive .number)
  let any : Option StaticType := some (.primitive .any)
  let f : Function := { Function.arrow [] with body := .expr superCall, returnType := number }
  let m : Function := .anonymous
    [.constDecl "f" (.function f) .dummy, .ret (some (.callName "f" []))]
  let n : Function := { Function.anonymous [.ret (some (.await (.ident "p")))] with
    params := [.ofName "p"], returnType := any, isAsync := true }
  let g : Function := { Function.anonymous [.expr (.yield (some (.num "1")) false)] with
    returnType := any, isGenerator := true }
  ⟨"methods.js",
    [derivedClass [.method (.ident "m") .method false m, .method (.ident "n") .method false n,
      .method (.ident "g") .method false g]]⟩

theorem methodsOfAllKinds_wellPlaced :
    methodsOfAllKinds.wellPlaced = true ∧ methodsOfAllKinds.all (.movable .default) = true ∧
      ∃ out, methodsOfAllKinds.instrument .default = .ok out ∧ out.wellPlaced = true :=
  have h : methodsOfAllKinds.instrument .default = .ok _ := rfl
  ⟨rfl, rfl, _, h, instrument_wellPlaced rfl rfl h⟩

/-- The unit `class A extends B { m(): number { return super.m(); } }`. -/
def overridingMethod : Program :=
  let m : Function :=
    { Function.anonymous [.ret (some superCall)] with returnType := some (.primitive .number) }
  ⟨"overriding.js", [derivedClass [.method (.ident "m") .method false m]]⟩

/-- The body of the method moves into an ordinary function, where `super` is illegal. -/
theorem overridingMethod_not_wellPlaced : overridingMethod.wellPlaced = true ∧
    ∃ out, overridingMethod.instrument .default = .ok out ∧ out.wellPlaced = false :=
  ⟨rfl, _, rfl, rfl⟩

end Program

end TypeGuard
