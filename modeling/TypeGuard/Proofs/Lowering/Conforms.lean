import Mathlib.Data.List.Forall2
import TypeGuard.Conformance
import TypeGuard.Lowering

/-!
# Conformance to static types

When a value conforms to a static type, read off the type itself: no combinator is involved, and the
model only tells which values the predicates of refinements hold for. Values conform by derivations,
so a bound that leads back to its own type parameter is conformed to by none. No value conforms to a
function or a promise, and named types other than the special ones are left out.
-/

namespace TypeGuard

/-- Whether a value is of a keyword type. -/
def Primitive.admits : Primitive → Json → Bool
  | number, .int _ | number, .double _ => true
  | string, .str _ => true
  | boolean, .bool _ => true
  | void, .null | null, .null => true
  | any, _ | mixed, _ => true
  | _, _ => false

/-- The member of an object under a key; a missing one reads as `null`. -/
def Json.read (members : List (String × Json)) (key : String) : Json :=
  (members.lookup key).getD .null

namespace ObjectShape

/-- The last property with the given key, which is the one that counts. -/
def lastProperty? (s : ObjectShape) (key : String) : Option ObjectProperty :=
  s.properties.reverse.find? (·.key == key)

theorem exists_lastProperty?_iff {s : ObjectShape} {key : String} :
    (∃ p, s.lastProperty? key = some p) ↔ ∃ p ∈ s.properties, p.key = key := by
  rw [← Option.isSome_iff_exists, lastProperty?, List.find?_isSome]
  simp

/-- Whether every member of an object is declared. -/
def Declares (s : ObjectShape) (members : List (String × Json)) : Prop :=
  ∀ entry ∈ members, ∃ p ∈ s.properties, p.key = entry.1

end ObjectShape

mutual
inductive StaticType.Conforms (env : Environment) (m : Model) : StaticType → Json → Prop where
  | primitive {p v} : p.admits v = true → StaticType.Conforms env m (.primitive p) v
  | existential {v} : StaticType.Conforms env m .existential v
  | typeof {name v} : StaticType.Conforms env m (.typeof name) v
  | list {elem items} : (∀ v ∈ items, StaticType.Conforms env m elem v) →
      StaticType.Conforms env m (.list elem) (.arr items)
  | tuple {elems items} : List.Forall₂ (StaticType.Conforms env m) elems items →
      StaticType.Conforms env m (.tuple elems) (.arr items)
  | null {inner} : StaticType.Conforms env m (.nullable inner) .null
  | nullable {inner v} : StaticType.Conforms env m inner v →
      StaticType.Conforms env m (.nullable inner) v
  | union {member members v} : member ∈ members → StaticType.Conforms env m member v →
      StaticType.Conforms env m (.union members) v
  | intersection {members v} : (∀ member ∈ members, StaticType.Conforms env m member v) →
      StaticType.Conforms env m (.intersection members) v
  | object {shape members} : shape.indexers = [] → ObjectShape.Conforms env m shape members →
      (shape.exact = true → shape.Declares members) →
      StaticType.Conforms env m (.object shape) (.obj members)
  /-- The properties of an object type with an indexer do not count. -/
  | dict {shape indexer members} : shape.indexers = [indexer] →
      (∀ entry ∈ members, StaticType.Conforms env m indexer.key (.str entry.1)) →
      (∀ entry ∈ members, StaticType.Conforms env m indexer.value entry.2) →
      StaticType.Conforms env m (.object shape) (.obj members)
  | literal {value v} : value.matchesValue v = true → StaticType.Conforms env m (.literal value) v
  | array {ref elem items} : ref.classify env = .ok .list → ref.args = [elem] →
      (∀ v ∈ items, StaticType.Conforms env m elem v) →
      StaticType.Conforms env m (.generic ref) (.arr items)
  | anyObject {ref members} : ref.classify env = .ok .object →
      StaticType.Conforms env m (.generic ref) (.obj members)
  | exact {ref shape members} : ref.classify env = .ok .exact → ref.args = [.object shape] →
      ObjectShape.Conforms env m shape members → shape.Declares members →
      StaticType.Conforms env m (.generic ref) (.obj members)
  | erased {ref v} : ref.classify env = .ok .erased → StaticType.Conforms env m (.generic ref) v
  | reify {ref target v} : ref.classify env = .ok (.reify target) →
      StaticType.Conforms env m (.generic ref) v
  | unbounded {ref v} : ref.classify env = .ok (.typeParam none) →
      StaticType.Conforms env m (.generic ref) v
  | bounded {ref bound v} : ref.classify env = .ok (.typeParam (some bound)) →
      StaticType.Conforms env m bound v → StaticType.Conforms env m (.generic ref) v
  | refinement {ref predicate v} : ref.classify env = .ok (.refinement predicate) →
      m.holds predicate v = true → StaticType.Conforms env m (.generic ref) v

/-- A value under the key of a property. -/
inductive ObjectProperty.Conforms (env : Environment) (m : Model) :
    ObjectProperty → Json → Prop where
  | absent {p} : p.optional = true → ObjectProperty.Conforms env m p .null
  | present {p v} : StaticType.Conforms env m p.value v → ObjectProperty.Conforms env m p v

/-- The members of an object at the properties of an object type. -/
inductive ObjectShape.Conforms (env : Environment) (m : Model) :
    ObjectShape → List (String × Json) → Prop where
  | mk {shape members} : (∀ key p, shape.lastProperty? key = some p →
      ObjectProperty.Conforms env m p (Json.read members key)) →
      ObjectShape.Conforms env m shape members
end

variable {env : Environment} {m : Model} {v : Json}

namespace StaticType

theorem conforms_primitive_iff {p : Primitive} :
    (primitive p).Conforms env m v ↔ p.admits v = true :=
  ⟨fun | .primitive h => h, .primitive⟩

theorem conforms_list_iff {elem : StaticType} :
    (list elem).Conforms env m v ↔ ∃ items, v = .arr items ∧ ∀ x ∈ items, elem.Conforms env m x :=
  ⟨fun | .list h => ⟨_, rfl, h⟩, fun ⟨_, hv, h⟩ => hv ▸ .list h⟩

theorem conforms_tuple_iff {elems : List StaticType} :
    (tuple elems).Conforms env m v ↔
      ∃ items, v = .arr items ∧ List.Forall₂ (Conforms env m) elems items :=
  ⟨fun | .tuple h => ⟨_, rfl, h⟩, fun ⟨_, hv, h⟩ => hv ▸ .tuple h⟩

theorem conforms_nullable_iff {inner : StaticType} :
    (nullable inner).Conforms env m v ↔ v = .null ∨ inner.Conforms env m v :=
  ⟨fun | .null => .inl rfl | .nullable h => .inr h,
    fun | .inl hv => hv ▸ .null | .inr h => .nullable h⟩

theorem conforms_union_iff {members : List StaticType} :
    (union members).Conforms env m v ↔ ∃ member ∈ members, member.Conforms env m v :=
  ⟨fun | .union hmem h => ⟨_, hmem, h⟩, fun ⟨_, hmem, h⟩ => .union hmem h⟩

theorem conforms_intersection_iff {members : List StaticType} :
    (intersection members).Conforms env m v ↔ ∀ member ∈ members, member.Conforms env m v :=
  ⟨fun | .intersection h => h, .intersection⟩

theorem conforms_literal_iff {value : Literal} :
    (literal value).Conforms env m v ↔ value.matchesValue v = true :=
  ⟨fun | .literal h => h, .literal⟩

end StaticType

theorem ObjectProperty.conforms_iff {p : ObjectProperty} :
    p.Conforms env m v ↔ p.optional = true ∧ v = .null ∨ p.value.Conforms env m v :=
  ⟨fun | .absent h => .inl ⟨h, rfl⟩ | .present h => .inr h,
    fun | .inl ⟨h, hv⟩ => hv ▸ .absent h | .inr h => .present h⟩

theorem ObjectShape.conforms_iff {shape : ObjectShape} {members : List (String × Json)} :
    shape.Conforms env m members ↔ ∀ key p, shape.lastProperty? key = some p →
      p.Conforms env m (Json.read members key) :=
  ⟨fun | .mk h => h, .mk⟩

/-- When a value conforms to a reference with the given arguments, by the kind of the reference. -/
def ReferenceKind.Conforms (env : Environment) (m : Model) (args : List StaticType) (v : Json) :
    ReferenceKind → Prop
  | .list => ∃ elem items, args = [elem] ∧ v = .arr items ∧ ∀ x ∈ items, elem.Conforms env m x
  | .object => ∃ members, v = .obj members
  | .exact => ∃ shape members, args = [.object shape] ∧ v = .obj members ∧
      shape.Conforms env m members ∧ shape.Declares members
  | .erased | .reify _ | .typeParam none => True
  | .typeParam (some bound) => bound.Conforms env m v
  | .refinement predicate => m.holds predicate v = true
  | .function | .promise | .nominal => False

theorem StaticType.conforms_generic_iff {ref : GenericRef} {kind : ReferenceKind}
    (hkind : ref.classify env = .ok kind) :
    (generic ref).Conforms env m v ↔ kind.Conforms env m ref.args v := by
  constructor
  · intro h
    cases h with
    | array href hargs hitems =>
      cases hkind.symm.trans href
      exact ⟨_, _, hargs, rfl, hitems⟩
    | anyObject href =>
      cases hkind.symm.trans href
      exact ⟨_, rfl⟩
    | exact href hargs hshape hdeclares =>
      cases hkind.symm.trans href
      exact ⟨_, _, hargs, rfl, hshape, hdeclares⟩
    | erased href | reify href | unbounded href =>
      cases hkind.symm.trans href
      trivial
    | bounded href h | refinement href h =>
      cases hkind.symm.trans href
      exact h
  · intro h
    match kind, hkind, h with
    | .list, hkind, ⟨elem, items, hargs, hv, hitems⟩ =>
      rw [hv]
      exact .array hkind hargs hitems
    | .object, hkind, ⟨members, hv⟩ =>
      rw [hv]
      exact .anyObject hkind
    | .exact, hkind, ⟨shape, members, hargs, hv, hshape, hdeclares⟩ =>
      rw [hv]
      exact .exact hkind hargs hshape hdeclares
    | .erased, hkind, _ => exact .erased hkind
    | .reify target, hkind, _ => exact .reify hkind
    | .typeParam none, hkind, _ => exact .unbounded hkind
    | .typeParam (some bound), hkind, h => exact .bounded hkind h
    | .refinement predicate, hkind, h => exact .refinement hkind h

end TypeGuard
