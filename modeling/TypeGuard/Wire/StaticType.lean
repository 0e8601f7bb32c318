import TypeGuard.StaticType
import TypeGuard.Wire.Record

/-!
# Static types in JSON

`StaticType.toJson` and its companions write types, and `StaticType.ofJson?` reads them back.
-/

namespace TypeGuard

open Wire

/-! ### Writing -/

def TypeName.toJson (n : TypeName) : Json := .obj [("parts", ofStrings n.parts)]

namespace Primitive

/-- The name of the variant. -/
def tag : Primitive → String
  | .number => "Number"
  | .string => "String"
  | .boolean => "Boolean"
  | .void => "Void"
  | .null => "Null"
  | .any => "Any"
  | .mixed => "Mixed"

def all : List Primitive := [.number, .string, .boolean, .void, .null, .any, .mixed]

end Primitive

def Literal.toJson : Literal → Json
  | .string value => variant "String" (.str value)
  | .number text => variant "Number" (.str text)
  | .boolean value => variant "Boolean" (.bool value)

mutual
def StaticType.toJson : StaticType → Json
  | .primitive p => variant "Primitive" (.str p.tag)
  | .existential => .str "Existential"
  | .typeof name => variant "Typeof" name.toJson
  | .list elem => variant "List" elem.toJson
  | .tuple elems => variant "Tuple" (.arr (typesToJson elems))
  | .nullable inner => variant "Nullable" inner.toJson
  | .union members => variant "Union" (.arr (typesToJson members))
  | .intersection members => variant "Intersection" (.arr (typesToJson members))
  | .object shape => variant "Object" shape.toJson
  | .function shape => variant "Function" shape.toJson
  | .generic ref => variant "Generic" ref.toJson
  | .literal value => variant "Literal" value.toJson
  | .unsupported kind => variant "Unsupported" (.obj [("kind", .str kind)])

def typesToJson : List StaticType → List Json
  | [] => []
  | t :: ts => t.toJson :: typesToJson ts

def GenericRef.toJson : GenericRef → Json
  | ⟨name, typeArgs⟩ =>
    .obj [("name", name.toJson),
      ("type_args", match typeArgs with | some args => .arr (typesToJson args) | none => .null)]

def ObjectShape.toJson : ObjectShape → Json
  | ⟨properties, indexers, exact⟩ =>
    .obj [("properties", .arr (propertiesToJson properties)),
      ("indexers", .arr (indexersToJson indexers)), ("exact", .bool exact)]

def propertiesToJson : List ObjectProperty → List Json
  | [] => []
  | ⟨key, value, optional⟩ :: ps =>
    .obj [("key", .str key), ("value", value.toJson), ("optional", .bool optional)]
      :: propertiesToJson ps

def indexersToJson : List ObjectIndexer → List Json
  | [] => []
  | ⟨id, key, value⟩ :: is =>
    .obj [("id", ofString? id), ("key", key.toJson), ("value", value.toJson)] :: indexersToJson is

def FunctionShape.toJson : FunctionShape → Json
  | ⟨params, rest, returnType⟩ =>
    .obj [("params", .arr (typeParamsToJson params)),
      ("rest", match rest with | some param => param.toJson | none => .null),
      ("return_type", returnType.toJson)]

def FunctionTypeParam.toJson : FunctionTypeParam → Json
  | ⟨name, type, optional⟩ =>
    .obj [("name", ofString? name), ("annotation", type.toJson), ("optional", .bool optional)]

def typeParamsToJson : List FunctionTypeParam → List Json
  | [] => []
  | p :: ps => p.toJson :: typeParamsToJson ps
end

def optTypeToJson : Option StaticType → Json
  | some type => type.toJson
  | none => .null

def TypeParam.toJson (p : TypeParam) : Json :=
  .obj [("name", .str p.name), ("bound", optTypeToJson p.bound)]

def declaredParamsToJson (params : List TypeParam) : Json := .arr (params.map TypeParam.toJson)

/-! ### Reading -/

namespace Wire

def typeName? : Nat → Json → Option TypeName
  | 0, _ => none
  | n + 1, j => do
    let [parts] ← fields? ["parts"] j | none
    return ⟨← required (strings? n) parts⟩

def primitive? : Nat → Json → Option Primitive := unit? (Primitive.all.map fun p => (p.tag, p))

def literal? : Nat → Json → Option Literal
  | _ + 1, .obj [("String", j)] => (string? j).map .string
  | _ + 1, .obj [("Number", j)] => (string? j).map .number
  | _ + 1, .obj [("Boolean", j)] => (bool? j).map .boolean
  | _, _ => none

mutual
def staticType? : Nat → Json → Option StaticType
  | _, .str "Existential" => some .existential
  | n + 1, .obj [(tag, j)] =>
    match tag with
    | "Primitive" => (primitive? n j).map .primitive
    | "Existential" => match j with | .null => some .existential | _ => none
    | "Typeof" => (typeName? n j).map .typeof
    | "List" => (staticType? n j).map .list
    | "Tuple" => (staticTypes? n j).map .tuple
    | "Nullable" => (staticType? n j).map .nullable
    | "Union" => (staticTypes? n j).map .union
    | "Intersection" => (staticTypes? n j).map .intersection
    | "Object" => (objectShape? n j).map .object
    | "Function" => (functionShape? n j).map .function
    | "Generic" => (genericRef? n j).map .generic
    | "Literal" => (literal? n j).map .literal
    | "Unsupported" => (unsupported? n j).map .unsupported
    | _ => none
  | _, _ => none

def staticTypes? : Nat → Json → Option (List StaticType)
  | 0, _ => none
  | n + 1, j => elems? (staticType? n) j

def unsupported? : Nat → Json → Option String
  | 0, _ => none
  | _ + 1, j => do
    let [kind] ← fields? ["kind"] j | none
    required string? kind

def genericRef? : Nat → Json → Option GenericRef
  | 0, _ => none
  | n + 1, j => do
    let [name, typeArgs] ← fields? ["name", "type_args"] j | none
    return ⟨← required (typeName? n) name, ← omittable (staticTypes? n) typeArgs⟩

def objectShape? : Nat → Json → Option ObjectShape
  | 0, _ => none
  | n + 1, j => do
    let [properties, indexers, exact] ← fields? ["properties", "indexers", "exact"] j | none
    return ⟨← defaulted [] (objectProperties? n) properties,
      ← defaulted [] (objectIndexers? n) indexers, ← flag exact⟩

def objectProperties? : Nat → Json → Option (List ObjectProperty)
  | 0, _ => none
  | n + 1, j => elems? (objectProperty? n) j

def objectProperty? : Nat → Json → Option ObjectProperty
  | 0, _ => none
  | n + 1, j => do
    let [key, value, opt] ← fields? ["key", "value", "optional"] j | none
    return ⟨← required string? key, ← required (staticType? n) value, ← flag opt⟩

def objectIndexers? : Nat → Json → Option (List ObjectIndexer)
  | 0, _ => none
  | n + 1, j => elems? (objectIndexer? n) j

def objectIndexer? : Nat → Json → Option ObjectIndexer
  | 0, _ => none
  | n + 1, j => do
    let [id, key, value] ← fields? ["id", "key", "value"] j | none
    return ⟨← omittable string? id, ← required (staticType? n) key,
      ← required (staticType? n) value⟩

def functionShape? : Nat → Json → Option FunctionShape
  | 0, _ => none
  | n + 1, j => do
    let [params, rest, returnType] ← fields? ["params", "rest", "return_type"] j | none
    return ⟨← defaulted [] (functionTypeParams? n) params, ← omittable (functionTypeParam? n) rest,
      ← required (staticType? n) returnType⟩

def functionTypeParams? : Nat → Json → Option (List FunctionTypeParam)
  | 0, _ => none
  | n + 1, j => elems? (functionTypeParam? n) j

def functionTypeParam? : Nat → Json → Option FunctionTypeParam
  | 0, _ => none
  | n + 1, j => do
    let [name, type, opt] ← fields? ["name", "annotation", "optional"] j | none
    return ⟨← omittable string? name, ← required (staticType? n) type, ← flag opt⟩
end

def typeParam? : Nat → Json → Option TypeParam
  | 0, _ => none
  | n + 1, j => do
    let [name, bound] ← fields? ["name", "bound"] j | none
    return ⟨← required string? name, ← omittable (staticType? n) bound⟩

def declaredParams? : Nat → Json → Option (List TypeParam)
  | 0, _ => none
  | n + 1, j => elems? (typeParam? n) j

end Wire

/-- The type that a value denotes. -/
def StaticType.ofJson? (j : Json) : Option StaticType := staticType? j.depth j

def GenericRef.ofJson? (j : Json) : Option GenericRef := genericRef? j.depth j

def ObjectShape.ofJson? (j : Json) : Option ObjectShape := objectShape? j.depth j

def TypeParam.ofJson? (j : Json) : Option TypeParam := typeParam? j.depth j

end TypeGuard
