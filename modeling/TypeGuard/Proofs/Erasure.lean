import TypeGuard.Proofs.Erasure.Syntax

/-!
# Erasure of static types

An instrumented unit is free of static types unless the check of a parameter repeats one from a
computed key of the parameter's pattern. `Program.instrument_untyped_iff` states this in both
directions, and `Program.typedKey_not_untyped` is a unit of the second kind.
-/

namespace TypeGuard

open Visit Instrumentation

namespace Setting

variable (cx : Setting)

theorem visitUnit_untyped (stmts : List Stmt) (h : Fits 0 (stmtsNesting stmts)) :
    Keeps (AtDepth 0) (cx.visitUnit stmts)
      (stmtsUntyped · = stmtsCheckUntyped cx cx.environment stmts) :=
  (keeps_recordNames 0 _).bind fun _ _ =>
    statementList_untyped (instrumentEach_untyped cx cx.environment 0 stmts h)

/-- What stands around the statements of a unit is free of static types. -/
theorem enclose_untyped (s : VisitState) (body : List Stmt) :
    stmtsUntyped (cx.enclose s body) = stmtsUntyped body := by
  have hif (b : Bool) {s : Stmt} (hs : s.untyped = true) :
      stmtsUntyped (if b then [s] else []) = true := by
    cases b <;> simp [hs]
  simp [enclose, hif _ (Support.libraryImport_untyped _ _),
    hif _ (Support.assertHelper_untyped _ _), hif _ (Support.extendHelper_untyped _)]

end Setting

namespace Program

/-- Whether the values that the checks of the unit's parameters look at are free of static types. -/
def checksUntyped (options : Options) (p : Program) : Bool :=
  stmtsCheckUntyped (.ofProgram options p) (Setting.ofProgram options p).environment p.body

/-- An instrumented unit that is not nested too deeply is free of static types exactly where the
checks of its parameters are. -/
theorem instrument_untyped_iff {options : Options} {p out : Program}
    (hdepth : p.nesting ≤ Limits.treeDepth) (h : p.instrument options = .ok out) :
    out.untyped = true ↔ p.checksUntyped options = true := by
  simp only [Program.instrument] at h
  split at h
  · rename_i body s hvisit
    cases h
    have hfits : Fits 0 p.nesting := by rwa [Fits, Nat.zero_add]
    obtain ⟨-, hbody⟩ :=
      Setting.visitUnit_untyped (.ofProgram options p) p.body hfits .start body s rfl hvisit
    rw [untyped, Setting.enclose_untyped, hbody, checksUntyped]
  · cases h

/-- The unit `function f<T>({ a: x }: T, y?: number): string { return ("a": string); }`. -/
def typedFunction : Program :=
  let pattern : Pattern := .object [.keyValue (.ident "a") (.ident "x") false]
  let params : List Param :=
    [⟨pattern, some (.generic ⟨.simple "T", none⟩), false⟩,
      ⟨.ident "y", some (.primitive .number), true⟩]
  let body : FunctionBody :=
    .block [.ret (some (.cast (.str "a") (.primitive .string) false .dummy))]
  ⟨"typedFunction.js",
    [.function ⟨some "f", params, body, some (.primitive .string), [⟨"T", none⟩], false, false,
      false, .dummy⟩]⟩

theorem typedFunction_untyped :
    ∃ out, typedFunction.instrument .default = .ok out ∧ out.untyped = true :=
  have h : typedFunction.instrument .default = .ok _ := rfl
  ⟨_, h, (instrument_untyped_iff (by decide) h).mpr rfl⟩

/-- The unit `function f({ [("a": string)]: x }: any) {}`. -/
def typedKey : Program :=
  let key : PropKey := .computed (.cast (.str "a") (.primitive .string) false .dummy)
  let param : Param := ⟨.object [.keyValue key (.ident "x") false], some (.primitive .any), false⟩
  ⟨"typedKey.js", [.function (.declaration "f" [param] [])]⟩

/-- The check of a parameter repeats the cast that stands in a computed key. -/
theorem typedKey_not_untyped : typedKey.nesting ≤ Limits.treeDepth ∧
    ∃ out, typedKey.instrument .default = .ok out ∧ out.untyped = false :=
  ⟨by decide, _, rfl, rfl⟩

end Program

end TypeGuard
