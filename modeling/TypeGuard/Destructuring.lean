import TypeGuard.Binding
import TypeGuard.Limits

/-!
# Types of destructured bindings

An identifier in a binding pattern stands at a path, and the declared type of the pattern has a part
at that path. `Pattern.pathTo?` finds the path, `StaticType.at?` follows it through the type, and
where the two do not fit together the binding has no type of its own.
-/

namespace TypeGuard

/-- One step from a pattern to a part of it. -/
inductive PathStep where
  /-- The property with a key. -/
  | key (name : String)
  /-- The element at a position. -/
  | index (i : Nat)
  /-- The remaining elements. -/
  | rest
  deriving DecidableEq, Repr, Inhabited

namespace PropKey

/-- The name of a key that is no computed one. -/
def static? : PropKey → Option String
  | ident name => some name
  | str value => some value
  | num text => some text
  | computed _ => none

end PropKey

mutual
/-- The path to the first identifier `leaf` within `budget` levels. Rest properties and computed
keys have no counterpart in a type and are passed over. -/
def Pattern.pathWithin? (leaf : String) : Nat → Pattern → Option (List PathStep)
  | 0, _ => none
  | _ + 1, .ident name => if name = leaf then some [] else none
  | n + 1, .default left _ => left.pathWithin? leaf n
  | n + 1, .object props => propsPath? leaf n props
  | n + 1, .array elems => elemsPath? leaf n 0 elems
  | _ + 1, .rest _ => none

def propsPath? (leaf : String) (n : Nat) : List PatternProp → Option (List PathStep)
  | [] => none
  | .rest _ :: ps => propsPath? leaf n ps
  | .keyValue key value _ :: ps =>
    match key.static? with
    | none => propsPath? leaf n ps
    | some k =>
      match value.pathWithin? leaf n with
      | some path => some (.key k :: path)
      | none => propsPath? leaf n ps

/-- The path within the elements from the position `i` on. -/
def elemsPath? (leaf : String) (n i : Nat) : List (Option Pattern) → Option (List PathStep)
  | [] => none
  | none :: ps => elemsPath? leaf n (i + 1) ps
  | some (.rest inner) :: ps =>
    match inner.pathWithin? leaf n with
    | some path => some (.rest :: path)
    | none => elemsPath? leaf n (i + 1) ps
  | some p :: ps =>
    match p.pathWithin? leaf n with
    | some path => some (.index i :: path)
    | none => elemsPath? leaf n (i + 1) ps
end

/-- The path to the first identifier `leaf` of a pattern. -/
def Pattern.pathTo? (leaf : String) (p : Pattern) : Option (List PathStep) :=
  p.pathWithin? leaf (Limits.patternDepth + 1)

namespace StaticType

/-- The element type of a list type. -/
def listElem? : StaticType → Option StaticType
  | list elem => some elem
  | generic ref => if ref.name.is "Array" then
      match ref.args with
      | [elem] => some elem
      | _ => none
    else none
  | _ => none

/-- The part of a type that a step leads to. What remains of a list is a list of the same type. -/
def step? : PathStep → StaticType → Option StaticType
  | .key k, object shape => (shape.property? k).map (·.value)
  | .key _, _ => none
  | .index i, tuple elems => elems[i]?
  | .index _, t => t.listElem?
  | .rest, t => t.listElem?.map fun _ => t

/-- The part of a type at a path. -/
def at? (t : StaticType) (path : List PathStep) : Option StaticType :=
  path.foldlM (fun t s => t.step? s) t

end StaticType

/-- The type of the identifier `leaf` in a pattern of the type `declared`. -/
def Pattern.leafType? (p : Pattern) (declared : StaticType) (leaf : String) : Option StaticType :=
  (p.pathTo? leaf).bind declared.at?

end TypeGuard
