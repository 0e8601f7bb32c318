import TypeGuard.Proofs.Closure
import TypeGuard.Proofs.Confinement.Syntax

/-!
# Visits are confined

What a visit does to the state for the trees around it: nothing if it is one of an expression, and
further names in the innermost scope if it is one of a statement. A diagnostic makes no difference
to the scopes and the depth.
-/

namespace TypeGuard

open Visit VisitState

variable {cx : Setting} {env : Environment} {s t : VisitState}

/-- All that the functions within an expression put off is written when it has been visited. -/
theorem Expr.instrument_pending {e out : Expr} (h : e.instrument cx env s = .ok out t) :
    t.pending = s.pending := by
  obtain ⟨log, _, hafter, rfl, -⟩ :=
    e.instrument_becomes cx (Demands.none_met cx) env s.depth nofun s out t rfl rfl h
  rw [hafter.pending, List.append_nil]

namespace Setting

/-- A visit of an expression leaves the scopes and the depth as they were, and the queue of
definitions too unless it ends in a diagnostic. A visit of a statement, however it ends, leaves all
scopes but the innermost and the depth as they were, and alters no entry of the innermost one. -/
theorem visits_confined (cx : Setting) (env : Environment) (s t : VisitState) :
    (∀ e : Expr,
      (∀ out, e.instrument cx env s = .ok out t →
        t.scopes = s.scopes ∧ t.pending = s.pending ∧ t.depth = s.depth) ∧
      ∀ d, e.instrument cx env s = .error d t → t.scopes = s.scopes ∧ t.depth = s.depth) ∧
    ∀ x : Stmt,
      (∀ out, x.instrument cx env s = .ok out t → s.Widens t) ∧
      ∀ d, x.instrument cx env s = .error d t → s.Widens t := by
  refine ⟨fun e => ⟨fun out h => ?_, fun d h => ?_⟩, fun x => ⟨fun out h => ?_, fun d h => ?_⟩⟩
  · have hrestores := (e.instrument_restores cx env).ok h
    exact ⟨hrestores.scopes, e.instrument_pending h, hrestores.depth⟩
  · have hrestores := (e.instrument_restores cx env).error h
    exact ⟨hrestores.scopes, hrestores.depth⟩
  · exact (x.instrument_widens cx env).ok h
  · exact (x.instrument_widens cx env).error h

/-- The function expression `function () { let y: number; type id = ?T; }`. -/
def nestedAlias (id : String) : Expr :=
  .function (.anonymous
    [.varDecl ⟨.let, [⟨.ident "y", some (.primitive .number), none, .dummy⟩], .dummy⟩,
      .typeAlias ⟨id, [], .nullable (.generic ⟨.simple "T", none⟩), true, .dummy⟩])

/-- A state within a function, in which a name is recorded and a definition pending. -/
def withinFunction : VisitState :=
  { VisitState.start with
    scopes := ⟨⟨[("x", none)]⟩, [.empty]⟩
    pending := [⟨"P", .builtin .any⟩]
    depth := 2 }

/-- The function is visited to its end where its alias may be declared, and up to the alias where
its name is reserved, by itself and as the initial value of a constant. -/
theorem nestedAlias_confined :
    let cx := Setting.ofProgram .default ⟨"confined.js", []⟩
    let s := withinFunction
    let constant (id : String) : Stmt := .constDecl "f" (nestedAlias id) .dummy
    (∃ out t, (nestedAlias "T").instrument cx cx.environment s = .ok out t ∧
      t.scopes = s.scopes ∧ t.pending = s.pending ∧ t.depth = s.depth) ∧
    (∃ d t, (nestedAlias "$Reify").instrument cx cx.environment s = .error d t ∧
      t.scopes = s.scopes ∧ t.depth = s.depth) ∧
    (∃ out t, (constant "T").instrument cx cx.environment s = .ok out t ∧ s.Widens t) ∧
    ∃ d t, (constant "$Reify").instrument cx cx.environment s = .error d t ∧ s.Widens t := by
  intro cx s constant
  refine ⟨⟨_, _, rfl, ?_⟩, ⟨_, _, rfl, ?_⟩, ⟨_, _, rfl, ?_⟩, ⟨_, _, rfl, ?_⟩⟩
  · exact ((visits_confined cx cx.environment s _).1 (nestedAlias "T")).1 _ rfl
  · exact ((visits_confined cx cx.environment s _).1 (nestedAlias "$Reify")).2 _ rfl
  · exact ((visits_confined cx cx.environment s _).2 (constant "T")).1 _ rfl
  · exact ((visits_confined cx cx.environment s _).2 (constant "$Reify")).2 _ rfl

end Setting

end TypeGuard
