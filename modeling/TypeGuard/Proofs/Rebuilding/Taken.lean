import TypeGuard.Proofs.Lowering.Decides
import TypeGuard.Proofs.Rebuilding.Value

/-!
# What patterns take

Which part of a value a check looks at, and whether a plain pattern takes it. What a pattern leaves
of a value that passes a check does itself pass if and only if the pattern takes all that the check
looks at: `Pattern.passes_rebuild_iff`. One direction follows the rules of `Pattern.Takes`, the
other one goes through the levels of the check.
-/

namespace TypeGuard

open Model

/-- A pattern takes from a value all that a check looks at within `n` levels. What it rebuilds from
`null` is what it makes of a part that the value lacks. -/
inductive Pattern.Takes (m : Model) : Nat → Pattern → Combinator → Json → Prop where
  /-- An identifier takes the whole value. -/
  | ident {n name c v} : Pattern.Takes m n (.ident name) c v
  | any {n p v} : Pattern.Takes m n p (.builtin .any) v
  /-- Any object will do. -/
  | anyObject {n props v} : Pattern.Takes m n (.object props) (.builtin .object) v
  | ref {n p name target v} : m.type? name.dotted = some target → Pattern.Takes m n p target v →
      Pattern.Takes m (n + 1) p (.ref name) v
  | declare {n p name target v} : m.type? name = some target → Pattern.Takes m n p target v →
      Pattern.Takes m (n + 1) p (.declare name) v
  | maybe {n p inner name v} : v ≠ .null → Pattern.Takes m n p inner v →
      Pattern.Takes m (n + 1) p (.maybe inner name) v
  | maybeNull {n p inner name} : passes (m.checkWithin n inner (p.rebuild .null)) = true →
      Pattern.Takes m (n + 1) p (.maybe inner name) .null
  | union {n p member members name v} : member ∈ members →
      passes (m.checkWithin n member v) = true → Pattern.Takes m n p member v →
      Pattern.Takes m (n + 1) p (.union members name) v
  /-- What is left of the value may be of a member that the value itself is not of. -/
  | unionOther {n p member members name v} : member ∈ members →
      passes (m.checkWithin n member v) = false →
      passes (m.checkWithin n member (p.rebuild v)) = true →
      Pattern.Takes m (n + 1) p (.union members name) v
  | intersection {n p members name v} : (∀ c ∈ members, Pattern.Takes m n p c v) →
      Pattern.Takes m (n + 1) p (.intersection members name) v
  | extend {n p members name v} :
      (∀ c ∈ Combinator.informative members, Pattern.Takes m n p c v) →
      Pattern.Takes m (n + 1) p (.extend members name) v
  /-- A predicate looks at the whole value. -/
  | refinement {n p base predicate name v} : Pattern.Takes m n p base v →
      m.holds predicate (p.rebuild v) = true →
      Pattern.Takes m (n + 1) p (.refinement base predicate name) v
  /-- The pattern may have more elements than the value, and holes, where `null` stands then. -/
  | list {n} {elems : List (Option Pattern)} {elem name} {items : List Json} :
      (∀ (i : Nat) (p : Pattern) (x : Json), elems[i]? = some (some p) → items[i]? = some x →
        Pattern.Takes m n p elem x) →
      (∀ (i : Nat) (p : Pattern), elems[i]? = some (some p) → items[i]? = none →
        passes (m.checkWithin n elem (p.rebuild .null)) = true) →
      (∀ i : Nat, elems[i]? = some none → passes (m.checkWithin n elem .null) = true) →
      Pattern.Takes m (n + 1) (.array elems) (.list elem name) (.arr items)
  | tuple {n} {elems : List (Option Pattern)} {cs name v} : elems.length = cs.length →
      (∀ (i : Nat) (p : Pattern) (c : Combinator), elems[i]? = some (some p) → cs[i]? = some c →
        Pattern.Takes m n p c (v.element i)) →
      (∀ (i : Nat) (c : Combinator), elems[i]? = some none → cs[i]? = some c →
        passes (m.checkWithin n c .null) = true) →
      Pattern.Takes m (n + 1) (.array elems) (.tuple cs name) v
  /-- The pattern may have properties that the value lacks. -/
  | dict {n props key value name} {members : List (String × Json)} :
      (∀ k p x, patternFor? k props = some p → members.lookup k = some x →
        Pattern.Takes m n p value x) →
      (∀ k p, patternFor? k props = some p → members.lookup k = none →
        passes (m.checkWithin n key (.str k)) = true ∧
          passes (m.checkWithin n value (p.rebuild .null)) = true) →
      Pattern.Takes m (n + 1) (.object props) (.dict key value name) (.obj members)
  /-- What the pattern leaves out of an object type must be allowed to be `null`, and an exact one
  admits no further properties. -/
  | interface {n props decls name exact v} :
      (∀ d ∈ decls, ∀ p, patternFor? d.1 props = some p →
        Pattern.Takes m n p d.2 (v.property d.1)) →
      (∀ d ∈ decls, patternFor? d.1 props = none → passes (m.checkWithin n d.2 .null) = true) →
      (exact = true → ∀ k p, patternFor? k props = some p → k ∈ decls.map (·.1)) →
      Pattern.Takes m (n + 1) (.object props) (.interface decls name exact) v
  | props {n props decls v} :
      (∀ d ∈ decls, ∀ p, patternFor? d.1 props = some p →
        Pattern.Takes m n p d.2 (v.property d.1)) →
      (∀ d ∈ decls, patternFor? d.1 props = none → passes (m.checkWithin n d.2 .null) = true) →
      Pattern.Takes m (n + 1) (.object props) (.props decls) v

variable {m : Model} {n : Nat} {v : Json}

namespace Pattern

/-! ### Rebuilt parts -/

/-- The members of a tuple pass the checks at their positions. -/
theorem passes_checkTuple_iff {cs : List Combinator} {items : List Json}
    (hlen : items.length = cs.length) :
    passes (checkTuple (m.checkWithin n) 0 cs items) = true ↔
      ∀ (i : Nat) (x : Json), items[i]? = some x → ∀ c, cs[i]? = some c →
        passes (m.checkWithin n c x) = true := by
  rw [passes_checkTuple hlen, List.forall₂_iff_get]
  constructor
  · rintro ⟨-, hget⟩ i x hx c hc
    obtain ⟨hi, rfl⟩ := List.getElem?_eq_some_iff.mp hc
    obtain ⟨hi', rfl⟩ := List.getElem?_eq_some_iff.mp hx
    exact hget i hi hi'
  · intro hpasses
    exact ⟨hlen.symm, fun i hi hi' =>
      hpasses i _ (List.getElem?_eq_getElem hi') _ (List.getElem?_eq_getElem hi)⟩

/-- What holds of the elements of a rebuilt array: the pattern has an element there, or a hole. -/
theorem forall_rebuildElems {elems : List (Option Pattern)} {P : Nat → Json → Prop} :
    (∀ (i : Nat) (x : Json), (rebuildElems v 0 elems)[i]? = some x → P i x) ↔
      (∀ (i : Nat) (p : Pattern), elems[i]? = some (some p) → P i (p.rebuild (v.element i))) ∧
        ∀ i : Nat, elems[i]? = some none → P i .null := by
  simp only [getElem?_rebuildElems, Nat.zero_add]
  constructor
  · intro h
    exact ⟨fun i p hp => h i _ (by rw [hp]; rfl), fun i hi => h i _ (by rw [hi]; rfl)⟩
  · rintro ⟨hpattern, hhole⟩ i x hx
    obtain ⟨p, hp, rfl⟩ := Option.map_eq_some_iff.mp hx
    cases p with
    | none => exact hhole i hp
    | some p => exact hpattern i p hp

theorem passes_list_rebuild_iff {elems : List (Option Pattern)} {c : Combinator}
    {name : Option String} :
    passes (m.checkWithin (n + 1) (.list c name) (rebuild v (.array elems))) = true ↔
      (∀ (i : Nat) (p : Pattern), elems[i]? = some (some p) →
        passes (m.checkWithin n c (p.rebuild (v.element i))) = true) ∧
      ∀ i : Nat, elems[i]? = some none → passes (m.checkWithin n c .null) = true := by
  rw [rebuild_array, checkWithin, level, passes_checkElems,
    ← forall_rebuildElems (P := fun _ x => passes (m.checkWithin n c x) = true)]
  constructor
  · intro hitems i x hx
    exact hitems x (List.mem_of_getElem? hx)
  · intro hitems x hx
    obtain ⟨i, hi⟩ := List.mem_iff_getElem?.mp hx
    exact hitems i x hi

theorem passes_tuple_rebuild_iff {elems : List (Option Pattern)} {cs : List Combinator}
    {name : Option String} :
    passes (m.checkWithin (n + 1) (.tuple cs name) (rebuild v (.array elems))) = true ↔
      elems.length = cs.length ∧
      (∀ (i : Nat) (p : Pattern), elems[i]? = some (some p) → ∀ c, cs[i]? = some c →
        passes (m.checkWithin n c (p.rebuild (v.element i))) = true) ∧
      ∀ i : Nat, elems[i]? = some none → ∀ c, cs[i]? = some c →
        passes (m.checkWithin n c .null) = true := by
  rw [rebuild_array, checkWithin, level, length_rebuildElems,
    ← forall_rebuildElems
      (P := fun i x => ∀ c, cs[i]? = some c → passes (m.checkWithin n c x) = true)]
  split
  · rename_i hlen
    rw [passes_checkTuple_iff (by rw [length_rebuildElems, hlen])]
    exact (and_iff_right hlen).symm
  · rename_i hlen
    exact ⟨nofun, fun h => absurd h.1 hlen⟩

/-- The declared properties of a rebuilt object are those that the pattern has, and `null` for the
others. -/
theorem forall_read_rebuildProps {props : List PatternProp} {decls : List (String × Combinator)}
    {P : Combinator → Json → Prop} :
    (∀ d ∈ decls, P d.2 (Json.read (Json.literalMembers (rebuildProps v props)) d.1)) ↔
      (∀ d ∈ decls, ∀ p, patternFor? d.1 props = some p → P d.2 (p.rebuild (v.property d.1))) ∧
        ∀ d ∈ decls, patternFor? d.1 props = none → P d.2 .null := by
  simp only [read_rebuildProps]
  constructor
  · intro h
    refine ⟨fun d hd p hp => ?_, fun d hd hnone => ?_⟩
    · simpa [hp] using h d hd
    · simpa [hnone] using h d hd
  · rintro ⟨hpattern, hnone⟩ d hd
    cases hfor : patternFor? d.1 props with
    | none => exact hnone d hd hfor
    | some p => exact hpattern d hd p hfor

/-- What holds of the members of a rebuilt object, one for each key of the pattern. -/
theorem forall_mem_rebuildProps {props : List PatternProp} {P : String × Json → Prop} :
    (∀ entry ∈ Json.literalMembers (rebuildProps v props), P entry) ↔
      ∀ k p, patternFor? k props = some p → P (k, p.rebuild (v.property k)) := by
  constructor
  · intro h k p hp
    exact h _ (mem_rebuildProps_iff.mpr ⟨p, hp, rfl⟩)
  · rintro h ⟨k, x⟩ hentry
    obtain ⟨p, hp, hx⟩ := mem_rebuildProps_iff.mp hentry
    rw [show x = p.rebuild (v.property k) from hx]
    exact h k p hp

theorem passes_props_rebuild_iff {props : List PatternProp} {decls : List (String × Combinator)} :
    passes (m.checkWithin (n + 1) (.props decls) (rebuild v (.object props))) = true ↔
      (∀ d ∈ decls, ∀ p, patternFor? d.1 props = some p →
        passes (m.checkWithin n d.2 (p.rebuild (v.property d.1))) = true) ∧
      ∀ d ∈ decls, patternFor? d.1 props = none → passes (m.checkWithin n d.2 .null) = true := by
  rw [rebuild_object, checkWithin, level, passes_checkProps]
  exact forall_read_rebuildProps (P := fun c x => passes (m.checkWithin n c x) = true)

theorem passes_interface_rebuild_iff {props : List PatternProp}
    {decls : List (String × Combinator)} {name : Option String} {exact : Bool} :
    passes (m.checkWithin (n + 1) (.interface decls name exact) (rebuild v (.object props))) =
        true ↔
      ((∀ d ∈ decls, ∀ p, patternFor? d.1 props = some p →
        passes (m.checkWithin n d.2 (p.rebuild (v.property d.1))) = true) ∧
      ∀ d ∈ decls, patternFor? d.1 props = none → passes (m.checkWithin n d.2 .null) = true) ∧
      (exact = true → ∀ k p, patternFor? k props = some p → k ∈ decls.map (·.1)) := by
  rw [rebuild_object, checkWithin, passes_level_interface,
    forall_read_rebuildProps (P := fun c x => passes (m.checkWithin n c x) = true),
    forall_mem_rebuildProps]

theorem passes_dict_rebuild_iff {props : List PatternProp} {key value : Combinator}
    {name : Option String} :
    passes (m.checkWithin (n + 1) (.dict key value name) (rebuild v (.object props))) = true ↔
      (∀ k p, patternFor? k props = some p → passes (m.checkWithin n key (.str k)) = true) ∧
      ∀ k p, patternFor? k props = some p →
        passes (m.checkWithin n value (p.rebuild (v.property k))) = true := by
  rw [rebuild_object, checkWithin, level, passes_checkEntries, forall_mem_rebuildProps,
    forall_mem_rebuildProps]

/-! ### Parts of values that pass -/

theorem passes_element {cs : List Combinator} {c : Combinator} {name : Option String} {i : Nat}
    (hv : passes (m.checkWithin (n + 1) (.tuple cs name) v) = true) (hc : cs[i]? = some c) :
    passes (m.checkWithin n c (v.element i)) = true := by
  cases v with
  | arr items =>
    rw [checkWithin, level] at hv
    split at hv
    · rename_i hlen
      obtain ⟨hi, -⟩ := List.getElem?_eq_some_iff.mp hc
      have hx : items[i]? = some items[i] := List.getElem?_eq_getElem (by omega)
      rw [Json.element, List.getD_eq_getElem?_getD, hx]
      exact (passes_checkTuple_iff hlen).mp hv i _ hx c hc
    · cases hv
  | _ => cases hv

variable {decls : List (String × Combinator)} {d : String × Combinator}

theorem passes_property_interface {name : Option String} {exact : Bool}
    (hv : passes (m.checkWithin (n + 1) (.interface decls name exact) v) = true)
    (hd : d ∈ decls) : passes (m.checkWithin n d.2 (v.property d.1)) = true := by
  cases v with
  | obj members =>
    rw [checkWithin, passes_level_interface] at hv
    exact hv.1 d hd
  | _ => cases hv

theorem passes_property_props (hv : passes (m.checkWithin (n + 1) (.props decls) v) = true)
    (hd : d ∈ decls) : passes (m.checkWithin n d.2 (v.property d.1)) = true := by
  cases v with
  | obj members =>
    rw [checkWithin, level, passes_checkProps] at hv
    exact hv d hd
  | _ => cases hv

theorem mem_of_lookup {members : List (String × Json)} {k : String} {x : Json}
    (h : members.lookup k = some x) : (k, x) ∈ members := by
  obtain ⟨before, after, rfl, -⟩ := List.lookup_eq_some_iff.mp h
  simp

/-! ### Rebuilt values -/

/-- Where the pattern takes all that a check looks at, a value that passes still does so after it
was taken apart and put together again. -/
theorem Takes.passes_rebuild {p : Pattern} {c : Combinator} (h : p.Takes m n c v)
    (hv : passes (m.checkWithin n c v) = true) :
    passes (m.checkWithin n c (p.rebuild v)) = true := by
  induction h with
  | ident => exact hv
  | @any n p v =>
    cases n with
    | zero => cases hv
    | succ n =>
      rw [checkWithin, level, passes_orHere]
      exact Builtin.accepts_any _
  | @anyObject n props v =>
    cases n with
    | zero => cases hv
    | succ n =>
      rw [checkWithin, level, passes_orHere]
      exact Builtin.accepts_object_iff.mpr ⟨_, rfl⟩
  | ref hname _ ih | declare hname _ ih =>
    simp only [checkWithin, level, hname] at hv ⊢
    exact ih hv
  | maybe hnull _ ih =>
    rw [checkWithin, passes_level_maybe] at hv ⊢
    exact .inr (ih (hv.resolve_left hnull))
  | maybeNull hrebuilt =>
    rw [checkWithin, passes_level_maybe]
    exact .inr hrebuilt
  | union hmem hpasses _ ih =>
    rw [checkWithin, passes_level_union]
    exact ⟨_, hmem, ih hpasses⟩
  | unionOther hmem _ hrebuilt =>
    rw [checkWithin, passes_level_union]
    exact ⟨_, hmem, hrebuilt⟩
  | intersection _ ih | extend _ ih =>
    simp only [checkWithin, level, passes_checkAll] at hv ⊢
    intro c hc
    exact ih c hc (hv c hc)
  | refinement _ hholds ih =>
    rw [checkWithin, passes_level_refinement] at hv ⊢
    exact ⟨ih hv.1, hholds⟩
  | @list n elems elem name items _ habsent hhole ih =>
    rw [checkWithin, level, passes_checkElems] at hv
    refine passes_list_rebuild_iff.mpr ⟨fun i p hp => ?_, hhole⟩
    rw [Json.element, List.getD_eq_getElem?_getD]
    cases hx : items[i]? with
    | none => exact habsent i p hp hx
    | some x => exact ih i p x hp hx (hv x (List.mem_of_getElem? hx))
  | @tuple n elems cs name v hlen _ hhole ih =>
    refine passes_tuple_rebuild_iff.mpr ⟨hlen, fun i p hp c hc => ?_, fun i hi c => hhole i c hi⟩
    exact ih i p c hp hc (passes_element hv hc)
  | @dict n props key value name members _ habsent ih =>
    rw [checkWithin, level, passes_checkEntries] at hv
    refine passes_dict_rebuild_iff.mpr ⟨fun k p hp => ?_, fun k p hp => ?_⟩
    · cases hx : members.lookup k with
      | none => exact (habsent k p hp hx).1
      | some x => exact hv.1 _ (mem_of_lookup hx)
    · rw [Json.property, Json.read]
      cases hx : members.lookup k with
      | none => exact (habsent k p hp hx).2
      | some x => exact ih k p x hp hx (hv.2 _ (mem_of_lookup hx))
  | @interface n props decls name exact v _ hnone hexact ih =>
    refine passes_interface_rebuild_iff.mpr ⟨⟨fun d hd p hp => ?_, hnone⟩, hexact⟩
    exact ih d hd p hp (passes_property_interface hv hd)
  | @props n props decls v _ hnone ih =>
    refine passes_props_rebuild_iff.mpr ⟨fun d hd p hp => ?_, hnone⟩
    exact ih d hd p hp (passes_property_props hv hd)

/-- No object or array is of a builtin type other than these. -/
theorem takes_builtin {p : Pattern} {type : Builtin} (hplain : p.isPlain = true)
    (hrebuilt : type.accepts (p.rebuild v) = true) : p.Takes m n (.builtin type) v := by
  cases p with
  | ident name => exact .ident
  | object props =>
    cases type with
    | any => exact .any
    | object => exact .anyObject
    | _ => cases hrebuilt
  | array elems =>
    cases type with
    | any => exact .any
    | _ => cases hrebuilt
  | default | rest => cases hplain

section

-- the parts of a value, one level below
variable (ih : ∀ {p : Pattern} {c : Combinator} {v : Json}, p.isPlain = true →
  passes (m.checkWithin n c v) = true → passes (m.checkWithin n c (p.rebuild v)) = true →
    p.Takes m n c v)

include ih

theorem takes_maybe {p : Pattern} {inner : Combinator} {name : Option String}
    (hplain : p.isPlain = true) (hv : passes (m.checkWithin (n + 1) (.maybe inner name) v) = true)
    (hrebuilt : passes (m.checkWithin (n + 1) (.maybe inner name) (p.rebuild v)) = true) :
    p.Takes m (n + 1) (.maybe inner name) v := by
  rw [checkWithin, passes_level_maybe] at hv hrebuilt
  by_cases hident : ∃ x, p = .ident x
  · obtain ⟨x, rfl⟩ := hident
    exact .ident
  -- what any other pattern rebuilds is an object or an array
  have hinner : passes (m.checkWithin n inner (p.rebuild v)) = true := by
    refine hrebuilt.resolve_left fun hnull => ?_
    cases p with
    | ident x => exact hident ⟨x, rfl⟩
    | object | array => cases hnull
    | default | rest => cases hplain
  by_cases hnull : v = .null
  · subst hnull
    exact .maybeNull hinner
  · exact .maybe hnull (ih hplain (hv.resolve_left hnull) hinner)

theorem takes_list {elems : List (Option Pattern)} {elem : Combinator} {name : Option String}
    (hplain : elemsPlain elems = true)
    (hv : passes (m.checkWithin (n + 1) (.list elem name) v) = true)
    (hrebuilt :
      passes (m.checkWithin (n + 1) (.list elem name) (rebuild v (.array elems))) = true) :
    Takes m (n + 1) (.array elems) (.list elem name) v := by
  obtain ⟨hpattern, hhole⟩ := passes_list_rebuild_iff.mp hrebuilt
  cases v with
  | arr items =>
    rw [checkWithin, level, passes_checkElems] at hv
    simp only [Json.element, List.getD_eq_getElem?_getD] at hpattern
    refine .list (fun i p x hp hx => ?_) (fun i p hp hx => ?_) hhole
    · have hpart := hpattern i p hp
      rw [hx] at hpart
      exact ih (isPlain_of_getElem? hplain hp) (hv x (List.mem_of_getElem? hx)) hpart
    · have hpart := hpattern i p hp
      rwa [hx] at hpart
  | _ => cases hv

theorem takes_tuple {elems : List (Option Pattern)} {cs : List Combinator} {name : Option String}
    (hplain : elemsPlain elems = true)
    (hv : passes (m.checkWithin (n + 1) (.tuple cs name) v) = true)
    (hrebuilt : passes (m.checkWithin (n + 1) (.tuple cs name) (rebuild v (.array elems))) = true) :
    Takes m (n + 1) (.array elems) (.tuple cs name) v := by
  obtain ⟨hlen, hpattern, hhole⟩ := passes_tuple_rebuild_iff.mp hrebuilt
  refine .tuple hlen (fun i p c hp hc => ?_) fun i c hi => hhole i hi c
  exact ih (isPlain_of_getElem? hplain hp) (passes_element hv hc) (hpattern i p hp c hc)

theorem takes_dict {props : List PatternProp} {key value : Combinator} {name : Option String}
    (hplain : propsPlain props = true)
    (hv : passes (m.checkWithin (n + 1) (.dict key value name) v) = true)
    (hrebuilt :
      passes (m.checkWithin (n + 1) (.dict key value name) (rebuild v (.object props))) = true) :
    Takes m (n + 1) (.object props) (.dict key value name) v := by
  obtain ⟨hkey, hvalue⟩ := passes_dict_rebuild_iff.mp hrebuilt
  cases v with
  | obj members =>
    rw [checkWithin, level, passes_checkEntries] at hv
    simp only [Json.property, Json.read] at hvalue
    refine .dict (fun k p x hp hx => ?_) (fun k p hp hx => ⟨hkey k p hp, ?_⟩)
    · have hpart := hvalue k p hp
      rw [hx] at hpart
      exact ih (isPlain_of_patternFor? hplain hp) (hv.2 _ (mem_of_lookup hx)) hpart
    · have hpart := hvalue k p hp
      rwa [hx] at hpart
  | _ => cases hv

theorem takes_interface {props : List PatternProp} {decls : List (String × Combinator)}
    {name : Option String} {exact : Bool} (hplain : propsPlain props = true)
    (hv : passes (m.checkWithin (n + 1) (.interface decls name exact) v) = true)
    (hrebuilt :
      passes (m.checkWithin (n + 1) (.interface decls name exact) (rebuild v (.object props))) =
        true) :
    Takes m (n + 1) (.object props) (.interface decls name exact) v := by
  obtain ⟨⟨hpattern, hnone⟩, hexact⟩ := passes_interface_rebuild_iff.mp hrebuilt
  refine .interface (fun d hd p hp => ?_) hnone hexact
  exact ih (isPlain_of_patternFor? hplain hp) (passes_property_interface hv hd)
    (hpattern d hd p hp)

theorem takes_props {props : List PatternProp} {decls : List (String × Combinator)}
    (hplain : propsPlain props = true)
    (hv : passes (m.checkWithin (n + 1) (.props decls) v) = true)
    (hrebuilt : passes (m.checkWithin (n + 1) (.props decls) (rebuild v (.object props))) = true) :
    Takes m (n + 1) (.object props) (.props decls) v := by
  obtain ⟨hpattern, hnone⟩ := passes_props_rebuild_iff.mp hrebuilt
  refine .props (fun d hd p hp => ?_) hnone
  exact ih (isPlain_of_patternFor? hplain hp) (passes_property_props hv hd) (hpattern d hd p hp)

end

/-- Where a value that passes still does so after it was taken apart and put together again, the
pattern takes all that the check looks at. -/
theorem takes_of_passes_rebuild {p : Pattern} {c : Combinator} (hplain : p.isPlain = true)
    (hv : passes (m.checkWithin n c v) = true)
    (hrebuilt : passes (m.checkWithin n c (p.rebuild v)) = true) : p.Takes m n c v := by
  induction n generalizing p c v with
  | zero => cases hv
  | succ n ih =>
    cases c with
    | builtin type =>
      rw [checkWithin, level, passes_orHere] at hrebuilt
      exact takes_builtin hplain hrebuilt
    | ref name =>
      rw [checkWithin, level] at hv hrebuilt
      split at hv
      · rename_i target htarget
        simp only [htarget] at hrebuilt
        exact .ref htarget (ih hplain hv hrebuilt)
      · cases hv
    | declare name =>
      rw [checkWithin, level] at hv hrebuilt
      split at hv
      · rename_i target htarget
        simp only [htarget] at hrebuilt
        exact .declare htarget (ih hplain hv hrebuilt)
      · cases hv
    | maybe inner name => exact takes_maybe ih hplain hv hrebuilt
    | union members name =>
      rw [checkWithin, passes_level_union] at hrebuilt
      obtain ⟨member, hmem, hmember⟩ := hrebuilt
      cases hpasses : passes (m.checkWithin n member v) with
      | true => exact .union hmem hpasses (ih hplain hpasses hmember)
      | false => exact .unionOther hmem hpasses hmember
    | intersection members name =>
      rw [checkWithin, level, passes_checkAll] at hv hrebuilt
      exact .intersection fun c hc => ih hplain (hv c hc) (hrebuilt c hc)
    | extend members name =>
      rw [checkWithin, level, passes_checkAll] at hv hrebuilt
      exact .extend fun c hc => ih hplain (hv c hc) (hrebuilt c hc)
    | refinement base predicate name =>
      rw [checkWithin, passes_level_refinement] at hv hrebuilt
      exact .refinement (ih hplain hv.1 hrebuilt.1) hrebuilt.2
    | list =>
      cases p with
      | ident => exact .ident
      | array => exact takes_list ih hplain hv hrebuilt
      | object => cases hrebuilt
      | default | rest => cases hplain
    | tuple =>
      cases p with
      | ident => exact .ident
      | array => exact takes_tuple ih hplain hv hrebuilt
      | object => cases hrebuilt
      | default | rest => cases hplain
    | dict =>
      cases p with
      | ident => exact .ident
      | object => exact takes_dict ih hplain hv hrebuilt
      | array => cases hrebuilt
      | default | rest => cases hplain
    | interface =>
      cases p with
      | ident => exact .ident
      | object => exact takes_interface ih hplain hv hrebuilt
      | array => cases hrebuilt
      | default | rest => cases hplain
    | props =>
      cases p with
      | ident => exact .ident
      | object => exact takes_props ih hplain hv hrebuilt
      | array => cases hrebuilt
      | default | rest => cases hplain
    | enum =>
      cases p with
      | ident => exact .ident
      | object | array => cases hrebuilt
      | default | rest => cases hplain

theorem passes_rebuild_iff {p : Pattern} {c : Combinator} (hplain : p.isPlain = true)
    (hv : passes (m.checkWithin n c v) = true) :
    passes (m.checkWithin n c (p.rebuild v)) = true ↔ p.Takes m n c v :=
  ⟨takes_of_passes_rebuild hplain hv, fun h => h.passes_rebuild hv⟩

end Pattern

end TypeGuard
