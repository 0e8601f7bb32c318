import TypeGuard.Binding

/-!
# Scopes of declared types

A typed declaration records its type and pattern under every name that the pattern binds, so that an
assignment to the name can be checked. Other declarations are recorded as untyped, which shadows
outer typed ones. The first record of a name in a scope counts.
-/

namespace TypeGuard

/-- A declared type with the pattern that it was declared for. -/
structure TypedBinding where
  type : StaticType
  pattern : Pattern
  deriving Inhabited

/-- What is known of a name; an untyped name has no type. -/
abbrev ScopeEntry := Option TypedBinding

/-- One scope: the recorded names, the earliest record of a name first. -/
structure Scope where
  entries : List (String × ScopeEntry)
  deriving Inhabited

namespace Scope

def empty : Scope := ⟨[]⟩

def get? (s : Scope) (name : String) : Option ScopeEntry := s.entries.lookup name

def contains (s : Scope) (name : String) : Bool := (s.get? name).isSome

/-- Records a name unless the scope has it. -/
def record (s : Scope) (name : String) (entry : ScopeEntry) : Scope :=
  if s.contains name then s else ⟨s.entries ++ [(name, entry)]⟩

def size (s : Scope) : Nat := s.entries.length

end Scope

/-- The open scopes; there is always at least one, that of the unit. -/
structure ScopeStack where
  innermost : Scope
  outer : List Scope
  deriving Inhabited

namespace ScopeStack

/-- The stack with the scope of the unit only. -/
def unit : ScopeStack := ⟨.empty, []⟩

/-- The open scopes, innermost first. -/
def toList (s : ScopeStack) : List Scope := s.innermost :: s.outer

def push (s : ScopeStack) : ScopeStack := ⟨.empty, s.toList⟩

/-- Leaves the innermost scope, but never that of the unit. -/
def pop (s : ScopeStack) : ScopeStack :=
  match s.outer with
  | [] => s
  | scope :: scopes => ⟨scope, scopes⟩

/-- Whether only the scope of the unit is open. -/
def atTopLevel (s : ScopeStack) : Bool := s.outer.isEmpty

/-- Records a name in the innermost scope. -/
def record (s : ScopeStack) (name : String) (entry : ScopeEntry) : ScopeStack :=
  { s with innermost := s.innermost.record name entry }

/-- Records several names alike. -/
def recordAll (s : ScopeStack) (names : List String) (entry : ScopeEntry) : ScopeStack :=
  names.foldl (fun s name => s.record name entry) s

/-- Records the names of a pattern with a type. -/
def recordTyped (s : ScopeStack) (p : Pattern) (type : StaticType) : ScopeStack :=
  s.recordAll p.boundNames (some ⟨type, p⟩)

/-- Records the names of a pattern without a type. -/
def recordUntyped (s : ScopeStack) (p : Pattern) : ScopeStack := s.recordAll p.boundNames none

/-- What the innermost scope that has a name knows of it. -/
def find? (s : ScopeStack) (name : String) : Option ScopeEntry :=
  s.toList.findSome? fun scope => scope.get? name

/-- The typed binding that a name resolves to, if its nearest declaration is typed. -/
def lookup (s : ScopeStack) (name : String) : Option TypedBinding := (s.find? name).join

end ScopeStack

end TypeGuard
