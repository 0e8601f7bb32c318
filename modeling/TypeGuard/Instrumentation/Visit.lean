import TypeGuard.Definition
import TypeGuard.Diagnostic
import TypeGuard.Limits
import TypeGuard.Lowering.Error
import TypeGuard.Options
import TypeGuard.Scope
import TypeGuard.UnitNames

/-!
# Visits

What a visit of a tree carries along: the declared types in scope, the definitions that are still to
be written, the depth of the visit, and what the unit turned out to need. A visit ends in a result
or in the first diagnostic, and either way in a state.
-/

namespace TypeGuard

/-- What stays the same during the visit of a unit. -/
structure Setting where
  options : Options
  /-- The file that diagnostics name. -/
  file : String
  names : UnitNames
  deriving Inhabited

/-- What changes during the visit of a unit. -/
structure VisitState where
  scopes : ScopeStack
  /-- Recursive types that are declared and not yet defined. -/
  pending : List Definition
  /-- How many statements and expressions are being visited, one within the other. -/
  depth : Nat
  /-- Whether a type declaration was lowered. -/
  hasTypes : Bool
  /-- Whether an assertion was inserted. -/
  hasAsserts : Bool
  /-- Whether an extension was emitted. -/
  hasExtend : Bool
  deriving Inhabited

/-- The state in which the visit of a unit starts. -/
def VisitState.start : VisitState := ⟨.unit, [], 0, false, false, false⟩

abbrev Visit := EStateM Diagnostic VisitState

namespace Visit

variable {α : Type}

/-- A visit between two changes of the state, of which the second takes place even after a
diagnostic. -/
def between (enter leave : VisitState → VisitState) (visit : Visit α) : Visit α := fun s =>
  match visit (enter s) with
  | .ok a s => .ok a (leave s)
  | .error d s => .error d (leave s)

/-! ### Scopes and depth -/

/-- A visit in a scope of its own. -/
def inScope (visit : Visit α) : Visit α :=
  visit.between (fun s => { s with scopes := s.scopes.push })
    (fun s => { s with scopes := s.scopes.pop })

/-- A visit one level down; at the greatest depth the tree is left as it is. -/
def nested (unvisited : α) (visit : Visit α) : Visit α := fun s =>
  if Limits.treeDepth ≤ s.depth then .ok unvisited s
  else
    visit.between (fun s => { s with depth := s.depth + 1 })
      (fun s => { s with depth := s.depth - 1 }) s

/-- Records the names of a pattern with a type. -/
def recordTyped (p : Pattern) (type : StaticType) : Visit Unit :=
  modify fun s => { s with scopes := s.scopes.recordTyped p type }

/-- Records the names of a pattern without a type. -/
def recordUntyped (p : Pattern) : Visit Unit :=
  modify fun s => { s with scopes := s.scopes.recordUntyped p }

/-- Records names without a type. -/
def recordNames (names : List String) : Visit Unit :=
  modify fun s => { s with scopes := s.scopes.recordAll names none }

/-- The typed binding that a name resolves to. -/
def lookup (name : String) : Visit (Option TypedBinding) := return (← get).scopes.lookup name

/-! ### Pending definitions -/

def pendingCount : Visit Nat := return (← get).pending.length

/-- Defers the definition of a recursive type. -/
def defer (d : Definition) : Visit Unit := modify fun s => { s with pending := s.pending ++ [d] }

/-- Takes the definitions after the first `start` out of the queue, as statements. -/
def flushSince (names : RuntimeNames) (start : Nat) : Visit (List Stmt) :=
  modifyGet fun s =>
    let (stmts, pending) := Definition.flushSince names start s.pending
    (stmts, { s with pending })

/-! ### What the unit needs -/

def noteTypes : Visit Unit := modify fun s => { s with hasTypes := true }

def noteAsserts : Visit Unit := modify fun s => { s with hasAsserts := true }

def noteExtend : Visit Unit := modify fun s => { s with hasExtend := true }

end Visit

namespace Setting

/-- The result of lowering; an error becomes a diagnostic at the span. -/
def orFail {α : Type} (cx : Setting) (span : Span) : Except LoweringError α → Visit α
  | .ok a => return a
  | .error e => throw (e.toDiagnostic cx.file span)

end Setting

end TypeGuard
