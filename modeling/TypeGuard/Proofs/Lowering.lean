import TypeGuard.Proofs.Lowering.Decides
import TypeGuard.Proofs.Results

/-!
# Lowering preserves meaning

A type is lowered to a combinator that decides conformance to the type. One level of lowering is
treated at a time, under the assumption that the parts of the type are lowered well; the budget of
levels is then all that the induction is on, since it also bounds the steps from type parameters to
their bounds.
-/

namespace TypeGuard

open Results

variable {env : Environment} {m : Model}

/-- What a lowered type decides: the carrier alone decides it, or the predicate that is still to be
put on top of a carrier that everything passes. -/
inductive Lowered.Decides (m : Model) : Lowered → (Json → Prop) → Prop where
  | plain {c P} : c.Decides m P → Lowered.Decides m (.plain c) P
  | marked {predicate P} : (∀ v, P v ↔ m.holds predicate v = true) →
      Lowered.Decides m ⟨.any, some predicate⟩ P

namespace Lowered.Decides

variable {l : Lowered} {P Q : Json → Prop}

theorem congr (h : l.Decides m P) (hPQ : ∀ v, P v ↔ Q v) : l.Decides m Q := by
  cases h with
  | plain hc => exact .plain (hc.congr hPQ)
  | marked hpredicate => exact .marked fun v => by rw [← hPQ, hpredicate]

theorem close (h : l.Decides m P) (name : Option String) : (l.close name).Decides m P := by
  cases h with
  | plain hc => exact hc
  | @marked predicate _ hpredicate =>
    exact (Combinator.Decides.any.refinement predicate).congr fun v => by simp [hpredicate]

end Lowered.Decides

namespace Lowering

open Combinator (Decides)

/-! ### Leaves -/

theorem primitive_decides (p : Primitive) :
    (Combinator.builtin p.builtin).Decides m (p.admits · = true) :=
  (Decides.builtin p.builtin).congr fun v => by cases p <;> cases v <;> rfl

theorem literal_decides (value : Literal) (name : Option String) :
    (literal value name).Decides m (value.matchesValue · = true) := by
  cases value with
  | string s =>
    refine (Decides.enum [s]).congr fun v => ?_
    simp [Literal.matchesValue_string_iff]
  | number text =>
    refine ((Decides.builtin .number).refinement _).congr fun v => and_iff_right_of_imp ?_
    rw [Model.holds_equals, Literal.matchesValue_number_iff, Builtin.accepts_number_iff]
    rintro ⟨_, d, -, hd, -⟩
    exact ⟨d, hd⟩
  | boolean b =>
    refine ((Decides.builtin .boolean).refinement _).congr fun v => and_iff_right_of_imp ?_
    rw [Model.holds_equals, Literal.matchesValue_boolean_iff, Builtin.accepts_boolean_iff]
    exact fun hv => ⟨b, hv⟩

/-! ### Parts -/

/-- Parts are lowered to what decides conformance to them. -/
def Preserves (env : Environment) (m : Model) (sub : Sub) : Prop :=
  ∀ type l, sub type = .ok l → l.Decides m (type.Conforms env m)

namespace Preserves

variable {sub : Sub} (hsub : Preserves env m sub) {name : Option String}

include hsub

theorem part {type : StaticType} {c : Combinator} (h : Lowering.part sub type = .ok c) :
    c.Decides m (type.Conforms env m) := by
  obtain ⟨l, hl, rfl⟩ := map_eq_ok.mp h
  exact (hsub type l hl).close none

theorem parts {types : List StaticType} {cs : List Combinator}
    (h : Lowering.parts sub types = .ok cs) :
    List.Forall₂ (Decides m) cs (types.map (StaticType.Conforms env m)) := by
  rw [List.forall₂_map_right_iff]
  exact (mapM_eq_ok.mp h).flip.imp fun _ _ hc => hsub.part hc

theorem property {p : ObjectProperty} {entry : String × Combinator}
    (h : Lowering.property sub p = .ok entry) :
    entry.2.Decides m (p.Conforms env m) := by
  obtain ⟨c, hc, ⟨⟩⟩ := bind_eq_ok.mp h
  cases hoptional : p.optional with
  | true =>
    exact (hsub.part hc).maybe.congr fun v => by simp [ObjectProperty.conforms_iff, hoptional]
  | false => exact (hsub.part hc).congr fun v => by simp [ObjectProperty.conforms_iff, hoptional]

end Preserves

/-! ### Properties -/

/-- Searches through two lists that correspond find elements that correspond. -/
theorem find?_forall₂ {α β : Type} {R : α → β → Prop} {p : α → Bool} {q : β → Bool}
    (hpq : ∀ a b, R a b → p a = q b) {as : List α} {bs : List β} (h : List.Forall₂ R as bs) :
    Option.Rel R (as.find? p) (bs.find? q) := by
  induction h with
  | nil => exact .none
  | @cons a b as bs hab _ ih =>
    rw [List.find?_cons, List.find?_cons, hpq a b hab]
    cases q b with
    | true => exact .some hab
    | false => exact ih

variable {sub : Sub} {name : Option String}

theorem property_key {p : ObjectProperty} {entry : String × Combinator}
    (h : property sub p = .ok entry) : entry.1 = p.key := by
  obtain ⟨c, -, ⟨⟩⟩ := bind_eq_ok.mp h
  rfl

/-- The last property with a key has a check, and there is none where there is no such property. -/
theorem find?_entries {shape : ObjectShape} {entries : List (String × Combinator)}
    (h : shape.properties.mapM (property sub) = .ok entries) (key : String) :
    Option.Rel (fun p entry => property sub p = .ok entry) (shape.lastProperty? key)
      (entries.reverse.find? (·.1 == key)) :=
  find?_forall₂ (fun p entry hp => by rw [property_key hp])
    (List.forall₂_reverse_iff.mpr (mapM_eq_ok.mp h))

/-- The checks of the properties are those of the last properties with their keys. -/
theorem mem_properties_iff {shape : ObjectShape} {props : List (String × Combinator)}
    (h : properties sub shape.properties = .ok props) {key : String} {c : Combinator} :
    (key, c) ∈ props ↔
      ∃ p, shape.lastProperty? key = some p ∧ property sub p = .ok (key, c) := by
  obtain ⟨entries, hentries, rfl⟩ := map_eq_ok.mp h
  have hfind := find?_entries hentries key
  rw [Combinator.mem_propsOfList]
  constructor
  · intro hc
    rw [hc] at hfind
    cases hp : shape.lastProperty? key with
    | none =>
      rw [hp] at hfind
      cases hfind
    | some p =>
      rw [hp] at hfind
      cases hfind with
      | some hcheck => exact ⟨p, rfl, hcheck⟩
  · rintro ⟨p, hp, hcheck⟩
    rw [hp] at hfind
    cases hentry : entries.reverse.find? (·.1 == key) with
    | none =>
      rw [hentry] at hfind
      cases hfind
    | some entry =>
      rw [hentry] at hfind
      cases hfind with
      | some hsame => rw [Except.ok.inj (hsame.symm.trans hcheck)]

theorem exists_mem_properties {shape : ObjectShape} {props : List (String × Combinator)}
    (h : properties sub shape.properties = .ok props) {key : String} {p : ObjectProperty}
    (hp : shape.lastProperty? key = some p) : ∃ c, (key, c) ∈ props := by
  obtain ⟨entries, hentries, rfl⟩ := map_eq_ok.mp h
  have hfind := find?_entries hentries key
  rw [hp] at hfind
  cases hentry : entries.reverse.find? (·.1 == key) with
  | none =>
    rw [hentry] at hfind
    cases hfind
  | some entry =>
    have hkey : entry.1 = key := by simpa using List.find?_some hentry
    exact ⟨entry.2, Combinator.mem_propsOfList.mpr (by rw [← hkey] at hentry ⊢; exact hentry)⟩

theorem interface_decides {shape : ObjectShape} {props : List (String × Combinator)}
    (hsub : Preserves env m sub) (h : properties sub shape.properties = .ok props) (exact : Bool) :
    (Combinator.interface props name exact).Decides m fun v => ∃ members, v = .obj members ∧
      shape.Conforms env m members ∧ (exact = true → shape.Declares members) := by
  have hdecides : ∀ entry ∈ props, entry.2.Decides m fun v =>
      ∀ p, shape.lastProperty? entry.1 = some p → p.Conforms env m v := by
    rintro ⟨key, c⟩ hmem
    obtain ⟨p, hp, hcheck⟩ := (mem_properties_iff h).mp hmem
    exact (hsub.property hcheck).congr fun v => by simp [hp]
  have hkeys (key : String) : key ∈ props.map (·.1) ↔ ∃ p ∈ shape.properties, p.key = key := by
    rw [← ObjectShape.exists_lastProperty?_iff, List.mem_map]
    constructor
    · rintro ⟨⟨key, c⟩, hmem, rfl⟩
      obtain ⟨p, hp, -⟩ := (mem_properties_iff h).mp hmem
      exact ⟨p, hp⟩
    · rintro ⟨p, hp⟩
      obtain ⟨c, hc⟩ := exists_mem_properties h hp
      exact ⟨(key, c), hc, rfl⟩
  refine (Decides.interface (P := fun key v => ∀ p, shape.lastProperty? key = some p →
    p.Conforms env m v) hdecides).congr fun v => exists_congr fun members => ?_
  refine and_congr_right fun _ => and_congr ?_ (imp_congr_right fun _ => ?_)
  · rw [ObjectShape.conforms_iff]
    constructor
    · intro hall key p hp
      obtain ⟨c, hc⟩ := exists_mem_properties h hp
      exact hall (key, c) hc p hp
    · intro hall entry _ p hp
      exact hall entry.1 p hp
  · exact forall₂_congr fun entry _ => hkeys entry.1

/-! ### Unions and objects -/

theorem stringLiteral?_eq_some {type : StaticType} {s : String} :
    type.stringLiteral? = some s ↔ type = .literal (.string s) := by
  constructor
  · intro h
    unfold StaticType.stringLiteral? at h
    split at h
    · rw [Option.some.inj h]
    · cases h
  · rintro rfl
    rfl

theorem mapM_stringLiteral?_eq_some {members : List StaticType} {values : List String}
    (h : members.mapM StaticType.stringLiteral? = some values) :
    members = values.map fun s => .literal (.string s) := by
  induction members generalizing values with
  | nil =>
    cases h
    rfl
  | cons member members ih =>
    simp only [List.mapM_cons, Option.bind_eq_bind, Option.bind_eq_some_iff] at h
    obtain ⟨s, hs, rest, hrest, ⟨⟩⟩ := h
    rw [stringLiteral?_eq_some.mp hs, ih hrest]
    rfl

theorem union_decides {members : List StaticType} {c : Combinator} (hsub : Preserves env m sub)
    (h : union sub members name = .ok c) :
    c.Decides m ((StaticType.union members).Conforms env m) := by
  unfold union at h
  split at h
  · rename_i s ss hliterals
    cases h
    rw [mapM_stringLiteral?_eq_some hliterals]
    refine (Decides.enum (s :: ss)).congr fun v => ?_
    rw [StaticType.conforms_union_iff]
    simp only [List.mem_map, exists_exists_and_eq_and, StaticType.conforms_literal_iff]
    simp [Literal.matchesValue_string_iff]
  · obtain ⟨cs, hcs, rfl⟩ := map_eq_ok.mp h
    refine (Decides.union (hsub.parts hcs)).congr fun v => ?_
    simp [StaticType.conforms_union_iff]

theorem object_decides {shape : ObjectShape} {c : Combinator} (hsub : Preserves env m sub)
    (h : object sub shape name = .ok c) :
    c.Decides m ((StaticType.object shape).Conforms env m) := by
  unfold object at h
  split at h
  · rename_i hindexers
    obtain ⟨props, hprops, rfl⟩ := map_eq_ok.mp h
    refine (interface_decides hsub hprops shape.exact).congr fun v => ?_
    constructor
    · rintro ⟨members, rfl, hshape, hexact⟩
      exact .object hindexers hshape hexact
    · intro hv
      cases hv with
      | object _ hshape hexact => exact ⟨_, rfl, hshape, hexact⟩
      | dict hindexer => cases hindexers.symm.trans hindexer
  · rename_i indexer hindexers
    obtain ⟨key, hkey, h⟩ := bind_eq_ok.mp h
    obtain ⟨value, hvalue, ⟨⟩⟩ := bind_eq_ok.mp h
    refine (Decides.dict (hsub.part hkey) (hsub.part hvalue)).congr fun v => ?_
    constructor
    · rintro ⟨entries, rfl, hkeys, hvalues⟩
      exact .dict hindexers hkeys hvalues
    · intro hv
      cases hv with
      | object hnone => cases hindexers.symm.trans hnone
      | dict hindexer hkeys hvalues =>
        cases hindexers.symm.trans hindexer
        exact ⟨_, rfl, hkeys, hvalues⟩
  · cases h

/-! ### Intersections -/

theorem stack_decides {c : Combinator} {P : Json → Prop} (h : c.Decides m P) (name : Option String)
    (ps : List Predicate) :
    (stack c name ps).Decides m fun v => P v ∧ ∀ p ∈ ps, m.holds p v = true := by
  induction ps generalizing c P with
  | nil => exact h.congr fun v => by simp
  | cons p ps ih =>
    cases ps with
    | nil => exact (h.refinement p).congr fun v => by simp
    | cons q ps => exact (ih (h.refinement p)).congr fun v => by simp [and_assoc]

theorem meet_decides {cs : List Combinator} {Ps : List (Json → Prop)} (name : Option String)
    (h : List.Forall₂ (Decides m) cs Ps) : (meet name cs).Decides m fun v => ∀ P ∈ Ps, P v := by
  match cs, Ps, h with
  | [], [], .nil => exact Decides.any.congr fun v => by simp
  | [c], [P], .cons hc .nil => exact hc.congr fun v => by simp
  | c :: d :: cs, _, h => exact Decides.intersection h

/-- The plain members of an intersection and the predicates of the others decide it together. -/
theorem members_decide {ls : List Lowered} {Ps : List (Json → Prop)}
    (h : List.Forall₂ (Lowered.Decides m) ls Ps) :
    ∃ Qs, List.Forall₂ (Decides m) ((ls.filter (·.predicate.isNone)).map (·.carrier)) Qs ∧
      ∀ v, (∀ P ∈ Ps, P v) ↔
        (∀ Q ∈ Qs, Q v) ∧ ∀ p ∈ ls.filterMap (·.predicate), m.holds p v = true := by
  induction h with
  | nil => exact ⟨[], .nil, by simp⟩
  | @cons l P ls Ps hl _ ih =>
    obtain ⟨Qs, hQs, hiff⟩ := ih
    cases hl with
    | plain hc =>
      refine ⟨P :: Qs, .cons hc hQs, fun v => ?_⟩
      simp [hiff v, Lowered.plain, and_assoc]
    | marked hpredicate =>
      refine ⟨Qs, hQs, fun v => ?_⟩
      simp [hiff v, hpredicate v, and_left_comm]

theorem intersection_decides {members : List StaticType} {c : Combinator}
    (hsub : Preserves env m sub) (h : intersection sub members name = .ok c) :
    c.Decides m ((StaticType.intersection members).Conforms env m) := by
  obtain ⟨ls, hls, ⟨⟩⟩ := bind_eq_ok.mp h
  have hmembers :
      List.Forall₂ (Lowered.Decides m) ls (members.map (StaticType.Conforms env m)) := by
    rw [List.forall₂_map_right_iff]
    exact (mapM_eq_ok.mp hls).flip.imp fun _ _ hl => hsub _ _ hl
  obtain ⟨Qs, hQs, hiff⟩ := members_decide hmembers
  refine (stack_decides (meet_decides _ hQs) name _).congr fun v => ?_
  rw [StaticType.conforms_intersection_iff, ← hiff]
  simp

/-! ### References and levels -/

theorem function_decides : (Combinator.builtin .function).Decides m fun _ => False :=
  (Decides.builtin .function).congr fun v => by simp

theorem promise_decides : (Combinator.builtin .promise).Decides m fun _ => False :=
  (Decides.builtin .promise).congr fun v => by simp

theorem anyObject_decides :
    (Combinator.builtin .object).Decides m fun v => ∃ members, v = .obj members :=
  (Decides.builtin .object).congr fun _ => Builtin.accepts_object_iff

/-- A reference to a type by its name is not closed. -/
theorem nominal_decides (n : TypeName) (P : Json → Prop) : (Combinator.ref n).Decides m P := nofun

theorem generic_decides {ref : GenericRef} {l : Lowered} (hsub : Preserves env m sub)
    (h : generic env sub ref name = .ok l) :
    l.Decides m ((StaticType.generic ref).Conforms env m) := by
  obtain ⟨kind, hkind, h⟩ := bind_eq_ok.mp h
  have hiff (v : Json) := StaticType.conforms_generic_iff (m := m) (v := v) hkind
  suffices l.Decides m fun v => kind.Conforms env m ref.args v from
    this.congr fun v => (hiff v).symm
  clear hiff hkind
  match kind, h with
  | .list, h =>
    simp only at h
    split at h
    · rename_i elem hargs
      obtain ⟨c, hc, ⟨⟩⟩ := bind_eq_ok.mp h
      exact .plain ((hsub.part hc).list.congr fun v => by simp [ReferenceKind.Conforms, hargs])
    · cases h
  | .function, rfl => exact .plain function_decides
  | .object, rfl => exact .plain anyObject_decides
  | .promise, rfl => exact .plain promise_decides
  | .exact, h =>
    simp only at h
    split at h
    · rename_i shape hargs
      obtain ⟨props, hprops, ⟨⟩⟩ := bind_eq_ok.mp h
      refine .plain ((interface_decides hsub hprops true).congr fun v => ?_)
      simp [ReferenceKind.Conforms, hargs]
    · cases h
  | .erased, rfl | .reify _, rfl | .typeParam none, rfl => exact .plain Decides.any
  | .typeParam (some bound), h => exact hsub bound l h
  | .refinement predicate, rfl => exact .marked fun _ => Iff.rfl
  | .nominal, rfl => exact .plain (nominal_decides ref.name _)

theorem level_decides {type : StaticType} {l : Lowered} (hsub : Preserves env m sub)
    (h : level env sub name type = .ok l) : l.Decides m (type.Conforms env m) := by
  cases type with
  | primitive p =>
    cases h
    exact .plain ((primitive_decides p).congr fun v => StaticType.conforms_primitive_iff.symm)
  | existential =>
    cases h
    exact .plain (Decides.any.congr fun v => iff_of_true trivial .existential)
  | typeof x =>
    cases h
    exact .plain (Decides.any.congr fun v => iff_of_true trivial .typeof)
  | list elem =>
    obtain ⟨c, hc, rfl⟩ := map_eq_ok.mp h
    exact .plain ((hsub.part hc).list.congr fun v => StaticType.conforms_list_iff.symm)
  | tuple elems =>
    obtain ⟨cs, hcs, rfl⟩ := map_eq_ok.mp h
    refine .plain ((Decides.tuple (hsub.parts hcs)).congr fun v => ?_)
    simp only [StaticType.conforms_tuple_iff, List.forall₂_map_left_iff]
  | nullable inner =>
    obtain ⟨c, hc, rfl⟩ := map_eq_ok.mp h
    exact .plain ((hsub.part hc).maybe.congr fun v => StaticType.conforms_nullable_iff.symm)
  | union members =>
    obtain ⟨c, hc, rfl⟩ := map_eq_ok.mp h
    exact .plain (union_decides hsub hc)
  | intersection members =>
    obtain ⟨c, hc, rfl⟩ := map_eq_ok.mp h
    exact .plain (intersection_decides hsub hc)
  | object shape =>
    obtain ⟨c, hc, rfl⟩ := map_eq_ok.mp h
    exact .plain (object_decides hsub hc)
  | function shape =>
    cases h
    exact .plain (function_decides.congr fun v => iff_of_false id nofun)
  | generic ref => exact generic_decides hsub h
  | literal value =>
    cases h
    exact .plain ((literal_decides value name).congr fun v => StaticType.conforms_literal_iff.symm)
  | unsupported kind => cases h

/-- By induction on the budget of levels. -/
theorem within_preserves (env : Environment) (m : Model) (budget : Nat) (name : Option String) :
    Preserves env m (within env budget name) := by
  induction budget generalizing name with
  | zero => exact fun _ _ h => by cases h
  | succ budget ih => exact fun _ _ h => level_decides (ih none) h

end Lowering

namespace StaticType

/-- A type is lowered to what decides conformance to it. -/
theorem lower_decides {name : Option String} {type : StaticType} {c : Combinator}
    (h : type.lower env name = .ok c) : c.Decides m (type.Conforms env m) := by
  obtain ⟨l, hl, rfl⟩ := map_eq_ok.mp h
  exact (Lowering.within_preserves env m Limits.typeDepth name type l hl).close name

/-- A value passes the check of a type exactly where it conforms to the type, if the check refers to
no type by name and is not higher than the evaluation follows it. -/
theorem accepts_lower_iff {env : Environment} {name : Option String} {type : StaticType}
    {c : Combinator} (m : Model) (v : Json) (h : type.lower env name = .ok c)
    (hclosed : c.isClosed = true) (hheight : c.height ≤ Limits.typeDepth) :
    m.accepts c v = true ↔ type.Conforms env m v :=
  lower_decides h hclosed (Limits.typeDepth + 1) (by omega) v

/-- The type `{| id: number, tag?: "a" | "b" |} & $Refinement<typeof p>`. -/
def taggedShape : StaticType :=
  let tag : StaticType := .union [.literal (.string "a"), .literal (.string "b")]
  let properties : List ObjectProperty := [⟨"id", .primitive .number, false⟩, ⟨"tag", tag, true⟩]
  .intersection [.object ⟨properties, [], true⟩,
    .generic ⟨.simple "$Refinement", some [.typeof (.simple "p")]⟩]

theorem taggedShape_conforms :
    taggedShape.Conforms (.root [] []) (Model.empty.definePredicate "p" fun v => 0 < v.depth)
      (.obj [("id", .int 1)]) :=
  have h : taggedShape.lower (.root [] []) none = .ok _ := rfl
  (accepts_lower_iff _ _ h rfl (by decide)).mp rfl

end StaticType

end TypeGuard
