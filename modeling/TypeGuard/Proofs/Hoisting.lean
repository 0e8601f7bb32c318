import TypeGuard.Proofs.Emission.Names
import TypeGuard.Proofs.Emission.Unit
import TypeGuard.Syntax.Build

/-!
# Names that move with a body

The body of a function whose value is checked moves into a function within. The names that the body
hoists, those of its `var` and of the functions that it declares, belong to that inner function from
then on. A parameter with such a name is another variable than the one in the body; before, the two
were the same.
-/

namespace TypeGuard

open Visit Instrumentation

namespace FunctionBody

/-- The names that a body declares for the function that it is the body of, from its start on: those
of `var` at any depth, and those of the functions among its statements. -/
def hoistedNames (body : FunctionBody) : List String :=
  varNames body.stmts ++ body.stmts.flatMap Stmt.functionNames

/-- The parameters whose names belong to the body itself once it is that of a function within. -/
def captures (params : List Param) (body : FunctionBody) : List String :=
  body.hoistedNames.filter fun name => name ∈ params.flatMap (·.pattern.boundNames)

/-- A visited body hoists the names of the body. -/
theorem Becomes.hoistedNames_eq {cx : Setting} {R : Demands} {env : Environment} {d : Nat}
    {body out : FunctionBody} {log : List Inserted} (h : body.Becomes cx R env d out log) :
    out.hoistedNames = body.hoistedNames := by
  cases body with
  | block stmts =>
    obtain ⟨_, rfl, hlist⟩ := h
    have hvars := hlist.varNames_eq fun _ _ _ hvs => eachBecome_varNames hvs
    obtain ⟨vs, l, defs, hvs, rfl, -, -⟩ := hlist
    have hdefs : (defs.map (·.toStmt cx.names.runtime)).flatMap Stmt.functionNames = [] := by
      rw [List.flatMap_map]
      exact List.flatMap_eq_nil_iff.mpr fun _ _ => rfl
    have hfunctions := withDefinitions_read (fun _ _ => List.flatMap_append) hdefs vs
    exact congrArg₂ (· ++ ·) hvars (hfunctions.trans (eachBecome_functionNames hvs))
  | expr value =>
    obtain ⟨_, rfl, -⟩ := h
    rfl

end FunctionBody

/-- Of every function whose value is checked, the body that moves captures the parameters that the
body of the function declares. -/
def Demands.capturing : Demands :=
  ⟨fun _ _ _ => True, fun params body moved => moved.captures params = body.captures params⟩

theorem Demands.capturing_met (cx : Setting) : capturing.Met cx False where
  list _ _ := trivial
  wrapped h := by simp only [capturing, FunctionBody.captures, h.hoistedNames_eq]

namespace Program

/-- In an instrumented unit, a parameter of a function whose value is checked keeps its identity in
the body exactly where the body does not declare its name by `var` or as a function. -/
theorem instrument_captures {options : Options} {p out : Program}
    (h : p.instrument options = .ok out) : p.Becomes options .capturing out :=
  instrument_becomes (Demands.capturing_met _) nofun h

/-- The body of `function f(x) { var x; return x; }`. -/
def redeclaringBody : FunctionBody :=
  .block [.varDecl ⟨.var, [⟨.ident "x", none, none, .dummy⟩], .dummy⟩, .ret (some (.ident "x"))]

/-- The unit `function f(x): number { var x; return x; }`. -/
def redeclaredParam : Program :=
  ⟨"redeclaredParam.js",
    [.function { Function.declaration "f" [.ofName "x"] [] with
      body := redeclaringBody, returnType := some (.primitive .number) }]⟩

theorem redeclaredParam_becomes : ∃ out, redeclaredParam.instrument .default = .ok out ∧
    redeclaredParam.Becomes .default .capturing out :=
  have h : redeclaredParam.instrument .default = .ok _ := rfl
  ⟨_, h, instrument_captures h⟩

/-- The value of `f` is that of a function within that declares a variable of its own under the name
of the parameter. -/
theorem redeclaredParam_captured :
    redeclaringBody.captures [.ofName "x"] = ["x"] ∧
    redeclaredParam.instrument .default = .ok ⟨"redeclaredParam.js",
      [Support.libraryImport ⟨"_t", "_assert", "_extend"⟩ "tcomb",
        .function { Function.declaration "f" [.ofName "x"] [] with
          body := redeclaringBody.wrapped ⟨"_t", "_assert", "_extend"⟩ [] (.builtin .number) false
            false },
        Support.assertHelper ⟨"_t", "_assert", "_extend"⟩ false]⟩ :=
  ⟨by decide, rfl⟩

end Program

end TypeGuard
