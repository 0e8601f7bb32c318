/-!
# Static types

The types that annotations are written in: primitives, containers, unions and intersections, object
and function types, references to named types, and literals. The set is closed; a kind of type that
has no meaning here is carried by its name in `StaticType.unsupported`.
-/

namespace TypeGuard

/-- The name of a type, a path of segments such as `User` or `React.Component`. -/
structure TypeName where
  parts : List String
  deriving DecidableEq, Repr, Inhabited

namespace TypeName

/-- The name with a single segment. -/
def simple (name : String) : TypeName := ⟨[name]⟩

/-- The segments of a path written with dots. -/
def ofDotted (path : String) : TypeName := ⟨path.splitOn "."⟩

/-- The segment of an unqualified name. -/
def simple? : TypeName → Option String
  | ⟨[name]⟩ => some name
  | _ => none

/-- The last segment, empty where there is none. -/
def last (n : TypeName) : String := n.parts.getLastD ""

/-- Whether this is the unqualified name `name`. -/
def is (n : TypeName) (name : String) : Bool := n.simple? == some name

/-- The path written with dots. -/
def dotted (n : TypeName) : String := ".".intercalate n.parts

end TypeName

/-- The types that are written as keywords. -/
inductive Primitive where
  | number
  | string
  | boolean
  | void
  | null
  | any
  | mixed
  deriving DecidableEq, Repr, Inhabited

def Primitive.keyword : Primitive → String
  | .number => "number"
  | .string => "string"
  | .boolean => "boolean"
  | .void => "void"
  | .null => "null"
  | .any => "any"
  | .mixed => "mixed"

/-- A type with one value. A number is kept as its source text. -/
inductive Literal where
  | string (value : String)
  | number (text : String)
  | boolean (value : Bool)
  deriving DecidableEq, Repr, Inhabited

mutual
inductive StaticType where
  | primitive (type : Primitive)
  /-- The type `*`. -/
  | existential
  /-- The type `typeof x`. -/
  | typeof (name : TypeName)
  /-- The type `T[]`. -/
  | list (elem : StaticType)
  /-- The type `[A, B]`. -/
  | tuple (elems : List StaticType)
  /-- The type `?T`. -/
  | nullable (inner : StaticType)
  | union (members : List StaticType)
  | intersection (members : List StaticType)
  | object (shape : ObjectShape)
  | function (shape : FunctionShape)
  | generic (ref : GenericRef)
  | literal (value : Literal)
  /-- A kind of type that has no meaning here. -/
  | unsupported (kind : String)

/-- A reference to a named type, with the type arguments that were written. -/
structure GenericRef where
  name : TypeName
  typeArgs : Option (List StaticType)

/-- A property `key: T` or `key?: T` of an object type. -/
structure ObjectProperty where
  key : String
  value : StaticType
  optional : Bool

/-- An indexer `[id: K]: V` of an object type. -/
structure ObjectIndexer where
  id : Option String
  key : StaticType
  value : StaticType

/-- An object type; it is exact where no other property is allowed. -/
structure ObjectShape where
  properties : List ObjectProperty
  indexers : List ObjectIndexer
  exact : Bool

/-- A parameter of a function type. -/
structure FunctionTypeParam where
  name : Option String
  type : StaticType
  optional : Bool

structure FunctionShape where
  params : List FunctionTypeParam
  rest : Option FunctionTypeParam
  returnType : StaticType
end

instance : Inhabited StaticType := ⟨.existential⟩

/-- The declaration `T` or `T: Bound` of a type parameter. -/
structure TypeParam where
  name : String
  bound : Option StaticType

/-- The type arguments, none where none were written. -/
def GenericRef.args (g : GenericRef) : List StaticType := g.typeArgs.getD []

/-- The object type without a property. -/
def ObjectShape.empty : ObjectShape := ⟨[], [], false⟩

/-- The first property with the given key. -/
def ObjectShape.property? (s : ObjectShape) (key : String) : Option ObjectProperty :=
  s.properties.find? (·.key == key)

namespace StaticType

/-- Whether this is the keyword `any`. -/
def isAnyKeyword : StaticType → Bool
  | .primitive .any => true
  | _ => false

/-- The string of a literal type that is a string. -/
def stringLiteral? : StaticType → Option String
  | .literal (.string s) => some s
  | _ => none

/-- The name of the kind of type, as diagnostics show it. -/
def kindName : StaticType → String
  | .primitive _ => "Primitive"
  | .existential => "Existential"
  | .typeof _ => "Typeof"
  | .list _ => "List"
  | .tuple _ => "Tuple"
  | .nullable _ => "Nullable"
  | .union _ => "Union"
  | .intersection _ => "Intersection"
  | .object _ => "Object"
  | .function _ => "Function"
  | .generic _ => "Generic"
  | .literal _ => "Literal"
  | .unsupported kind => kind

end StaticType

end TypeGuard
