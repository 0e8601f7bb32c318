import TypeGuard.Proofs.Wire.Reading
import TypeGuard.Wire.StaticType

/-!
# Static types read back

Every static type is read back from the JSON value that is written for it. The induction follows the
type, with one statement for every kind of part.
-/

namespace TypeGuard

open Wire

theorem TypeName.reads (name : TypeName) : Reads typeName? name.toJson name :=
  .record typeName? <| .fields <| .bind (strings_reads name.parts) .pure

theorem Primitive.reads (p : Primitive) : Reads primitive? (.str p.tag) p :=
  unit?_reads (by cases p <;> rfl)

theorem Literal.reads (value : Literal) : Reads literal? value.toJson value := by
  cases value with
  | string value => exact .variant .pure
  | number text => exact .variant .pure
  | boolean value => exact .variant .pure

mutual
/-- A static type is read back as it was written. -/
theorem StaticType.reads (type : StaticType) : Reads staticType? type.toJson type := by
  match type with
  | .primitive p => exact .variant p.reads.map
  | .existential => exact ⟨trivial, fun n _ => by cases n <;> rfl⟩
  | .typeof name => exact .variant name.reads.map
  | .list elem => exact .variant elem.reads.map
  | .tuple elems => exact .variant (types_reads elems).map
  | .nullable inner => exact .variant inner.reads.map
  | .union members => exact .variant (types_reads members).map
  | .intersection members => exact .variant (types_reads members).map
  | .object shape => exact .variant shape.reads.map
  | .function shape => exact .variant shape.reads.map
  | .generic ref => exact .variant ref.reads.map
  | .literal value => exact .variant value.reads.map
  | .unsupported kind =>
    have hkind : Reads unsupported? (.obj [("kind", .str kind)]) kind :=
      .record unsupported? <| .fields <| .bind .pure .pure
    exact .variant hkind.map

theorem types_reads (types : List StaticType) :
    Reads staticTypes? (.arr (typesToJson types)) types :=
  (types_readEach types).array fun _ => rfl

theorem types_readEach (types : List StaticType) :
    ReadEach staticType? (typesToJson types) types := by
  match types with
  | [] => exact .nil
  | t :: ts => exact .cons t.reads (types_readEach ts)

theorem GenericRef.reads (ref : GenericRef) : Reads genericRef? ref.toJson ref := by
  match ref with
  | ⟨name, some args⟩ =>
    have hargs := (types_reads args).nullable fun n => by cases n <;> rfl
    exact .record genericRef? <| .fields <| .bind name.reads <| .bind hargs .pure
  | ⟨name, none⟩ => exact .record genericRef? <| .fields <| .bind name.reads <| .bind .pure .pure

theorem ObjectShape.reads (shape : ObjectShape) : Reads objectShape? shape.toJson shape := by
  match shape with
  | ⟨properties, indexers, exact⟩ =>
    have hproperties : Reads objectProperties? (.arr (propertiesToJson properties)) properties :=
      (properties_readEach properties).array fun _ => rfl
    have hindexers : Reads objectIndexers? (.arr (indexersToJson indexers)) indexers :=
      (indexers_readEach indexers).array fun _ => rfl
    exact .record objectShape? <| .fields <| .bind hproperties <| .bind hindexers <|
      .bind .pure .pure

theorem properties_readEach (ps : List ObjectProperty) :
    ReadEach objectProperty? (propertiesToJson ps) ps := by
  match ps with
  | [] => exact .nil
  | ⟨key, value, optional⟩ :: ps =>
    refine .cons ?_ (properties_readEach ps)
    exact .record objectProperty? <| .fields <| .bind .pure <| .bind value.reads <|
      .bind .pure .pure

theorem indexers_readEach (is : List ObjectIndexer) :
    ReadEach objectIndexer? (indexersToJson is) is := by
  match is with
  | [] => exact .nil
  | ⟨id, key, value⟩ :: is =>
    refine .cons ?_ (indexers_readEach is)
    exact .record objectIndexer? <| .fields <| .bind (optString_reads id) <| .bind key.reads <|
      .bind value.reads .pure

theorem FunctionShape.reads (shape : FunctionShape) :
    Reads functionShape? shape.toJson shape := by
  match shape with
  | ⟨params, some rest, returnType⟩ =>
    have hrest := rest.reads.nullable fun n => by cases n <;> rfl
    exact .record functionShape? <| .fields <| .bind (typeParams_reads params) <| .bind hrest <|
      .bind returnType.reads .pure
  | ⟨params, none, returnType⟩ =>
    exact .record functionShape? <| .fields <| .bind (typeParams_reads params) <| .bind .pure <|
      .bind returnType.reads .pure

theorem FunctionTypeParam.reads (param : FunctionTypeParam) :
    Reads functionTypeParam? param.toJson param := by
  match param with
  | ⟨name, type, optional⟩ =>
    exact .record functionTypeParam? <| .fields <| .bind (optString_reads name) <|
      .bind type.reads <| .bind .pure .pure

theorem typeParams_reads (params : List FunctionTypeParam) :
    Reads functionTypeParams? (.arr (typeParamsToJson params)) params :=
  (typeParams_readEach params).array fun _ => rfl

theorem typeParams_readEach (params : List FunctionTypeParam) :
    ReadEach functionTypeParam? (typeParamsToJson params) params := by
  match params with
  | [] => exact .nil
  | p :: ps => exact .cons p.reads (typeParams_readEach ps)
end

theorem optType_reads (type : Option StaticType) :
    Reads (fun n => nullable (staticType? n)) (optTypeToJson type) type := by
  cases type with
  | some type => exact type.reads.nullable fun n => by cases n <;> rfl
  | none => exact .null

theorem TypeParam.reads (param : TypeParam) : Reads typeParam? param.toJson param :=
  .record typeParam? <| .fields <| .bind .pure <| .bind (optType_reads param.bound) .pure

theorem declaredParams_reads (params : List TypeParam) :
    Reads declaredParams? (declaredParamsToJson params) params :=
  (ReadEach.map TypeParam.reads params).array fun _ => rfl

end TypeGuard
