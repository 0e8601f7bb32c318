import TypeGuard.StaticType

/-!
# Runtime combinators

The checks that a static type turns into at run time: a closed tree over the primitives of the
runtime library. Constructed combinators may carry the name of the declaration that they come from.
-/

namespace TypeGuard

/-- The types that the runtime library provides ready-made. -/
inductive Builtin where
  | number
  | string
  | boolean
  | nil
  | any
  | function
  | object
  | promise
  deriving DecidableEq, Repr, Inhabited

namespace Builtin

/-- The member of the library that holds the type. -/
def libraryName : Builtin → String
  | number => "Number"
  | string => "String"
  | boolean => "Boolean"
  | nil => "Nil"
  | any => "Any"
  | function => "Function"
  | object => "Object"
  | promise => "Promise"

def all : List Builtin := [number, string, boolean, nil, any, function, object, promise]

end Builtin

/-- The predicate of a refinement. -/
inductive Predicate where
  /-- A predicate function of the program, by name. -/
  | ref (name : TypeName)
  /-- Equality with a literal. -/
  | equals (value : Literal)
  deriving DecidableEq, Repr, Inhabited

inductive Combinator where
  | builtin (type : Builtin)
  /-- A type declared elsewhere. -/
  | ref (name : TypeName)
  | list (elem : Combinator) (name : Option String)
  | maybe (inner : Combinator) (name : Option String)
  | tuple (elems : List Combinator) (name : Option String)
  | union (members : List Combinator) (name : Option String)
  | enum (values : List String) (name : Option String)
  | dict (key value : Combinator) (name : Option String)
  | refinement (base : Combinator) (predicate : Predicate) (name : Option String)
  | interface (props : List (String × Combinator)) (name : Option String) (exact : Bool)
  | intersection (members : List Combinator) (name : Option String)
  /-- The forward declaration of a recursive type. -/
  | declare (name : String)
  /-- Members joined by the extend helper of the unit. -/
  | extend (members : List Combinator) (name : Option String)
  /-- Bare properties, as a member of an extension. -/
  | props (props : List (String × Combinator))
  deriving Inhabited

namespace Combinator

/-- The check that everything passes. -/
def any : Combinator := builtin .any

def isAny : Combinator → Bool
  | builtin .any => true
  | _ => false

/-- Whether this is `any`, or `maybe` any number of times around it. -/
def isAnyLike : Combinator → Bool
  | builtin .any => true
  | maybe inner _ => inner.isAnyLike
  | _ => false

mutual
/-- Whether an extension occurs in the tree. -/
def usesExtend : Combinator → Bool
  | extend _ _ => true
  | builtin _ | ref _ | enum _ _ | declare _ => false
  | list elem _ => elem.usesExtend
  | maybe inner _ => inner.usesExtend
  | refinement base _ _ => base.usesExtend
  | dict key value _ => key.usesExtend || value.usesExtend
  | tuple elems _ => anyUsesExtend elems
  | union members _ => anyUsesExtend members
  | intersection members _ => anyUsesExtend members
  | interface ps _ _ => anyPropUsesExtend ps
  | props ps => anyPropUsesExtend ps

def anyUsesExtend : List Combinator → Bool
  | [] => false
  | c :: cs => c.usesExtend || anyUsesExtend cs

def anyPropUsesExtend : List (String × Combinator) → Bool
  | [] => false
  | (_, c) :: ps => c.usesExtend || anyPropUsesExtend ps
end

/-- The tree with the name at its root, if the root is constructed; builtin types and references are
shared and stay as they are. -/
def withName (name : String) : Combinator → Combinator
  | list elem _ => list elem name
  | maybe inner _ => maybe inner name
  | tuple elems _ => tuple elems name
  | union members _ => union members name
  | enum values _ => enum values name
  | dict key value _ => dict key value name
  | refinement base predicate _ => refinement base predicate name
  | interface ps _ exact => interface ps name exact
  | intersection members _ => intersection members name
  | extend members _ => extend members name
  | c => c

/-- The tree with the name at its root, if there is a name. -/
def named (c : Combinator) : Option String → Combinator
  | some name => c.withName name
  | none => c

/-- The tree under an anonymous `maybe`. -/
def orNil (c : Combinator) : Combinator := maybe c none

/-- The members of an extension that say something: all but `any` and `maybe` around it. -/
def informative (members : List Combinator) : List Combinator :=
  members.filter fun m => !m.isAnyLike

/-! ### Properties

Properties are listed in the order of their first insertion. -/

/-- Inserts a property; a known key keeps its place and takes the new value. -/
def insertProp (key : String) (value : Combinator) :
    List (String × Combinator) → List (String × Combinator)
  | [] => [(key, value)]
  | (k, v) :: ps => if k = key then (k, value) :: ps else (k, v) :: insertProp key value ps

/-- The properties inserted one after the other. -/
def propsOfList (ps : List (String × Combinator)) : List (String × Combinator) :=
  ps.foldl (fun acc (k, v) => insertProp k v acc) []

/-! ### Display names -/

mutual
/-- The name that failures show: the given one, or one made up from the parts. -/
def displayName : Combinator → String
  | builtin type => type.libraryName
  | ref name => name.dotted
  | declare name => name
  | list elem name => name.getD ("Array<" ++ elem.displayName ++ ">")
  | maybe inner name => name.getD ("?" ++ inner.displayName)
  | tuple elems name => name.getD ("[" ++ ", ".intercalate (displayNames elems) ++ "]")
  | union members name => name.getD (" | ".intercalate (displayNames members))
  | intersection members name => name.getD (" & ".intercalate (displayNames members))
  | extend members name => name.getD (" & ".intercalate (displayNames members))
  | enum values name =>
    name.getD (" | ".intercalate (values.map fun v => "\"" ++ v ++ "\""))
  | dict key value name =>
    name.getD ("\x7b[key: " ++ key.displayName ++ "]: " ++ value.displayName ++ "\x7d")
  | refinement base _ name => name.getD ("\x7b" ++ base.displayName ++ " | <predicate>\x7d")
  | interface ps name _ =>
    name.getD ("\x7b" ++ ", ".intercalate (propDisplayNames ps) ++ "\x7d")
  | props ps => "\x7b" ++ ", ".intercalate (propDisplayNames ps) ++ "\x7d"

def displayNames : List Combinator → List String
  | [] => []
  | c :: cs => c.displayName :: displayNames cs

def propDisplayNames : List (String × Combinator) → List String
  | [] => []
  | (key, c) :: ps => (key ++ ": " ++ c.displayName) :: propDisplayNames ps
end

end Combinator

end TypeGuard
