import TypeGuard.Destructuring
import TypeGuard.Proofs.Acceptance
import TypeGuard.Proofs.Lowering
import TypeGuard.Proofs.Lowering.Part
import TypeGuard.Syntax.Build

/-!
# Checks of destructured bindings

A binding that a pattern takes out of a value has the part of the declared type at its path, and an
assignment to it is checked against that part. Where the path reads the declared type as it is
lowered, the part of a conforming value at the path passes that check: `Pattern.accepts_leafType`.
The two readings differ where a property is optional or declared several times and where an object
type has an indexer; `Pattern.propertyPattern_misreads` shows what follows.
-/

namespace TypeGuard

open Model Results

/-! ### Parts of values -/

namespace Json

/-- A step leads to an existing part of a value. What remains of an array may start anywhere: the
step does not tell. -/
inductive StepsTo : Json → PathStep → Json → Prop where
  | key {members k x} : members.lookup k = some x → StepsTo (.obj members) (.key k) x
  | index {items i x} : items[i]? = some x → StepsTo (.arr items) (.index i) x
  | rest {items} (n : Nat) : StepsTo (.arr items) .rest (.arr (items.drop n))

/-- A path leads to an existing part of a value. -/
inductive LeadsTo : Json → List PathStep → Json → Prop where
  | here {v} : LeadsTo v [] v
  | step {v s x path w} : v.StepsTo s x → LeadsTo x path w → LeadsTo v (s :: path) w

end Json

/-! ### Readings of types -/

namespace StaticType

/-- A step takes an object type as it is lowered: the first property with the key is the last one
or, where an indexer takes the place of all properties, has the type of the indexer. -/
def ReadAsLowered : StaticType → PathStep → Prop
  | object shape, .key k =>
    (shape.indexers = [] → shape.property? k = shape.lastProperty? k) ∧
      ∀ ix ∈ shape.indexers, ∀ p, shape.property? k = some p → p.value = ix.value
  | _, _ => True

/-- Every step of a path takes the type that it has come to as it is lowered. -/
def ReadAsLoweredAlong : StaticType → List PathStep → Prop
  | _, [] => True
  | t, s :: path => t.ReadAsLowered s ∧ ∀ u, t.step? s = some u → u.ReadAsLoweredAlong path

/-- Whether a step leads to an optional property. -/
def isOptionalStep : StaticType → PathStep → Bool
  | object shape, .key k => (shape.property? k).any (·.optional)
  | _, _ => false

/-- Whether the last step of a path leads to an optional property. -/
def endsOptional : StaticType → List PathStep → Bool
  | _, [] => false
  | t, [s] => t.isOptionalStep s
  | t, s :: path => (t.step? s).any (·.endsOptional path)

variable {env : Environment} {m : Model} {t u : StaticType} {c : Combinator} {v x : Json}
  {s : PathStep}

/-! ### Single steps -/

theorem lower_of_part {n : Nat} (hn : n ≤ Limits.typeDepth)
    (h : Lowering.part (Lowering.within env n none) t = .ok c) : t.lower env none = .ok c :=
  Lowering.part_follows (Lowering.within_mono hn t) h

/-- The parts of a type are lowered to the parts of its check. -/
theorem exists_level_of_lower (h : t.lower env none = .ok c) : ∃ n ≤ Limits.typeDepth, ∃ l,
    Lowering.level env (Lowering.within env n none) none t = .ok l ∧ l.close none = c := by
  obtain ⟨l, hl, hclose⟩ := map_eq_ok.mp h
  exact ⟨Limits.typeDepth - 1, Nat.sub_le .., l, hl, hclose⟩

theorem lower_list (h : t.listElem? = some u) (hc : t.lower env none = .ok c) :
    ∃ elem, c = .list elem none ∧ u.lower env none = .ok elem := by
  obtain ⟨n, hn, l, hl, rfl⟩ := exists_level_of_lower hc
  cases t with
  | list elem =>
    cases h
    obtain ⟨check, hcheck, rfl⟩ := map_eq_ok.mp hl
    exact ⟨check, rfl, lower_of_part hn hcheck⟩
  | generic ref =>
    rw [listElem?] at h
    split at h
    · rename_i harray
      split at h
      · rename_i elem hargs
        cases h
        have hclassify : ref.classify env = .ok .list := by
          have hname : ref.name.simple? = some "Array" := by
            simpa [TypeName.is] using harray
          simp [GenericRef.classify, hname, GenericRef.classifySimple]
        obtain ⟨kind, hkind, hl⟩ := bind_eq_ok.mp hl
        cases hclassify.symm.trans hkind
        simp only [hargs] at hl
        obtain ⟨check, hcheck, ⟨⟩⟩ := bind_eq_ok.mp hl
        exact ⟨check, rfl, lower_of_part hn hcheck⟩
      · cases h
    · cases h
  | _ => cases h

theorem lower_tuple {elems : List StaticType} {i : Nat} (h : elems[i]? = some u)
    (hc : (tuple elems).lower env none = .ok c) :
    ∃ cs check, c = .tuple cs none ∧ cs[i]? = some check ∧ u.lower env none = .ok check := by
  obtain ⟨n, hn, l, hl, rfl⟩ := exists_level_of_lower hc
  obtain ⟨cs, hcs, rfl⟩ := map_eq_ok.mp hl
  have hparts := mapM_eq_ok.mp hcs
  obtain ⟨hi, rfl⟩ := List.getElem?_eq_some_iff.mp h
  have hi' : i < cs.length := hparts.length_eq ▸ hi
  have hpart := hparts.get hi hi'
  exact ⟨cs, cs[i], rfl, List.getElem?_eq_getElem hi', lower_of_part hn hpart⟩

theorem lower_property {shape : ObjectShape} {k : String} {p : ObjectProperty}
    (hindexers : shape.indexers = []) (hp : shape.lastProperty? k = some p)
    (hc : (object shape).lower env none = .ok c) :
    ∃ props check, c = .interface props none shape.exact ∧ p.value.lower env none = .ok check ∧
      (k, if p.optional then check.orNil else check) ∈ props := by
  obtain ⟨n, hn, l, hl, rfl⟩ := exists_level_of_lower hc
  obtain ⟨d, hd, rfl⟩ := map_eq_ok.mp hl
  rw [Lowering.object, hindexers] at hd
  obtain ⟨props, hprops, rfl⟩ := map_eq_ok.mp hd
  obtain ⟨entry, hmem⟩ := Lowering.exists_mem_properties hprops hp
  obtain ⟨q, hq, hcheck⟩ := (Lowering.mem_properties_iff hprops).mp hmem
  cases hp.symm.trans hq
  obtain ⟨check, hvalue, hentry⟩ := bind_eq_ok.mp hcheck
  cases hentry
  exact ⟨props, check, rfl, lower_of_part hn hvalue, hmem⟩

theorem lower_indexed {shape : ObjectShape} {ix : ObjectIndexer} (hix : ix ∈ shape.indexers)
    (hc : (object shape).lower env none = .ok c) :
    ∃ key value, c = .dict key value none ∧ ix.value.lower env none = .ok value := by
  obtain ⟨n, hn, l, hl, rfl⟩ := exists_level_of_lower hc
  obtain ⟨d, hd, rfl⟩ := map_eq_ok.mp hl
  rw [Lowering.object] at hd
  match hindexers : shape.indexers with
  | [] =>
    rw [hindexers] at hix
    cases hix
  | [indexer] =>
    rw [hindexers] at hd hix
    cases List.mem_singleton.mp hix
    obtain ⟨key, -, hd⟩ := bind_eq_ok.mp hd
    obtain ⟨value, hvalue, ⟨⟩⟩ := bind_eq_ok.mp hd
    exact ⟨key, value, rfl, lower_of_part hn hvalue⟩
  | _ :: _ :: _ =>
    rw [hindexers] at hd
    cases hd

/-- An element of an accepted list is accepted. -/
theorem accepts_elem {items : List Json} (hv : m.accepts (.list c none) (.arr items) = true)
    (hx : x ∈ items) : m.accepts c x = true := by
  obtain ⟨_, hrule, hpremises⟩ := exists_rule_of_accepts hv
  cases hrule with
  | list => exact hpremises (c, x) (List.mem_map.mpr ⟨x, hx, rfl⟩)

theorem accepts_drop {items : List Json} (n : Nat)
    (hv : m.accepts (.list c none) (.arr items) = true) :
    m.accepts (.list c none) (.arr (items.drop n)) = true := by
  rw [accepts, check, checkWithin, level, passes_checkElems] at hv ⊢
  exact fun x hx => hv x (List.mem_of_mem_drop hx)

/-- A component of an accepted tuple is accepted at its position. -/
theorem accepts_component {cs : List Combinator} {items : List Json} {i : Nat}
    (hv : m.accepts (.tuple cs none) (.arr items) = true) (hc : cs[i]? = some c)
    (hx : items[i]? = some x) : m.accepts c x = true := by
  obtain ⟨_, hrule, hpremises⟩ := exists_rule_of_accepts hv
  cases hrule with
  | tuple =>
    refine hpremises (c, x) (List.mem_of_getElem? (i := i) ?_)
    rw [List.getElem?_zip_eq_some]
    exact ⟨hc, hx⟩

/-- What stands under a key in an accepted dictionary is accepted. -/
theorem accepts_entry {key : Combinator} {members : List (String × Json)} {k : String}
    (hv : m.accepts (.dict key c none) (.obj members) = true) (hx : members.lookup k = some x) :
    m.accepts c x = true := by
  obtain ⟨_, hrule, hpremises⟩ := exists_rule_of_accepts hv
  cases hrule with
  | dict =>
    obtain ⟨before, after, rfl, -⟩ := List.lookup_eq_some_iff.mp hx
    have hentry : (k, x) ∈ before ++ (k, x) :: after := List.mem_append_right _ List.mem_cons_self
    exact hpremises (c, x) (List.mem_append_right _ (List.mem_map.mpr ⟨_, hentry, rfl⟩))

theorem accepts_orNil (hv : m.accepts c.orNil v = true) : v = .null ∨ m.accepts c v = true := by
  obtain ⟨_, hrule, hpremises⟩ := exists_rule_of_accepts hv
  cases hrule with
  | null => exact .inl rfl
  | maybe => exact .inr (hpremises _ (List.mem_singleton.mpr rfl))

/-- What stands under the key of a property in an accepted object is accepted, or it is the `null`
of an optional property. -/
theorem accepts_member {props : List (String × Combinator)} {members : List (String × Json)}
    {k : String} {optional exact : Bool}
    (hv : m.accepts (.interface props none exact) (.obj members) = true)
    (hmem : (k, if optional then c.orNil else c) ∈ props) (hx : members.lookup k = some x) :
    m.accepts c x = true ∨ x = .null ∧ optional = true := by
  obtain ⟨_, hrule, hpremises⟩ := exists_rule_of_accepts hv
  cases hrule with
  | interface =>
    have hread : Json.read members k = x := by rw [Json.read, hx, Option.getD_some]
    have haccepts := hpremises _ (List.mem_map.mpr ⟨_, hmem, rfl⟩)
    rw [hread] at haccepts
    cases optional with
    | true => exact (accepts_orNil haccepts).symm.imp id fun hnull => ⟨hnull, rfl⟩
    | false => exact .inl haccepts

/-- What a step leads to in an accepted value is accepted by the check of what it leads to in the
type, or it is the `null` of an optional property. -/
theorem accepts_step (hstep : t.step? s = some u) (hreads : t.ReadAsLowered s)
    (hx : v.StepsTo s x) (hc : t.lower env none = .ok c) (hv : m.accepts c v = true) :
    ∃ check, u.lower env none = .ok check ∧
      (m.accepts check x = true ∨ x = .null ∧ t.isOptionalStep s = true) := by
  cases hx with
  | @key members k x hlookup =>
    cases t with
    | object shape =>
      obtain ⟨p, hp, rfl⟩ := Option.map_eq_some_iff.mp hstep
      obtain ⟨hlast, hindexed⟩ := hreads
      by_cases hindexers : shape.indexers = []
      · obtain ⟨props, check, rfl, hvalue, hmem⟩ :=
          lower_property hindexers ((hlast hindexers).symm.trans hp) hc
        refine ⟨check, hvalue, (accepts_member hv hmem hlookup).imp id fun h => ⟨h.1, ?_⟩⟩
        rw [isOptionalStep, hp]
        exact h.2
      · obtain ⟨ix, hix⟩ := List.exists_mem_of_ne_nil _ hindexers
        obtain ⟨key, check, rfl, hvalue⟩ := lower_indexed hix hc
        exact ⟨check, hindexed ix hix p hp ▸ hvalue, .inl (accepts_entry hv hlookup)⟩
    | _ => cases hstep
  | @index items i x hitem =>
    by_cases htuple : ∃ elems, t = .tuple elems
    · obtain ⟨elems, rfl⟩ := htuple
      obtain ⟨cs, check, rfl, hcheck, hu⟩ := lower_tuple hstep hc
      exact ⟨check, hu, .inl (accepts_component hv hcheck hitem)⟩
    · have helem : t.listElem? = some u := by
        cases t with
        | tuple elems => exact absurd ⟨elems, rfl⟩ htuple
        | _ => exact hstep
      obtain ⟨elem, rfl, hu⟩ := lower_list helem hc
      exact ⟨elem, hu, .inl (accepts_elem hv (List.mem_of_getElem? hitem))⟩
  | @rest items n =>
    obtain ⟨elem, helem, rfl⟩ :=
      Option.map_eq_some_iff.mp (show t.listElem?.map _ = some u from hstep)
    obtain ⟨check, rfl, -⟩ := lower_list helem hc
    exact ⟨_, hc, .inl (accepts_drop n hv)⟩

/-! ### Paths -/

/-- By induction on the path. -/
theorem accepts_along {path : List PathStep} {w : Json} (hw : v.LeadsTo path w)
    (hpath : t.at? path = some u) (hreads : t.ReadAsLoweredAlong path)
    (hc : t.lower env none = .ok c) (hv : m.accepts c v = true) :
    ∃ check, u.lower env none = .ok check ∧
      (m.accepts check w = true ∨ w = .null ∧ t.endsOptional path = true) := by
  induction hw generalizing t c with
  | here =>
    cases hpath
    exact ⟨c, hc, .inl hv⟩
  | @step v s x path w hx hw ih =>
    obtain ⟨t', hstep, hrest⟩ := Option.bind_eq_some_iff.mp hpath
    obtain ⟨check, hcheck, hx | ⟨rfl, hoptional⟩⟩ := accepts_step hstep hreads.1 hx hc hv
    · obtain ⟨check', hcheck', hw'⟩ := ih hrest (hreads.2 t' hstep) hcheck hx
      refine ⟨check', hcheck', hw'.imp id fun hnull => ⟨hnull.1, ?_⟩⟩
      cases path with
      | nil => cases hnull.2
      | cons s' path =>
        have hstep : t.step? s = some t' := hstep
        rw [endsOptional, hstep]
        · exact hnull.2
        · exact nofun
    · -- nothing stands below the missing property, so the path ends here
      cases hw with
      | here =>
        cases hrest
        exact ⟨check, hcheck, .inr ⟨rfl, hoptional⟩⟩
      | step hnext => cases hnext

end StaticType

/-! ### Bindings -/

namespace Pattern

/-- The part of a conforming value at the path of a binding passes the check of the type that the
binding has, if the path reads the declared type as it is lowered and the part is no missing
optional property. -/
theorem accepts_leafType {p : Pattern} {declared leaf : StaticType} {x : String}
    {path : List PathStep} {env : Environment} {c check : Combinator} {m : Model} {v w : Json}
    (hpath : p.pathTo? x = some path) (hleaf : p.leafType? declared x = some leaf)
    (hreads : declared.ReadAsLoweredAlong path)
    (hc : declared.lower env none = .ok c) (hcheck : leaf.lower env none = .ok check)
    (hv : m.accepts c v = true) (hw : v.LeadsTo path w)
    (hnull : declared.endsOptional path = true → w ≠ .null) : m.accepts check w = true := by
  rw [leafType?, hpath, Option.bind_some] at hleaf
  obtain ⟨check', hcheck', haccepts | ⟨hw', hoptional⟩⟩ :=
    StaticType.accepts_along hw hleaf hreads hc hv
  · cases hcheck.symm.trans hcheck'
    exact haccepts
  · exact absurd hw' (hnull hoptional)

/-- The pattern `{ "rows": [{ id }, ...others] }`. -/
def rowsPattern : Pattern :=
  .object [.keyValue (.str "rows")
    (.array [some (.object [.keyValue (.ident "id") (.ident "id") true]),
      some (.rest (.ident "others"))]) false]

/-- The type `Array<{| id: ?number |}>`. -/
def rowsList : StaticType :=
  .generic ⟨.simple "Array",
    some [.object ⟨[⟨"id", .nullable (.primitive .number), false⟩], [], true⟩]⟩

/-- The type `{ rows?: Array<{| id: ?number |}>, total: number }`. -/
def rowsType : StaticType :=
  .object ⟨[⟨"rows", rowsList, true⟩, ⟨"total", .primitive .number, false⟩], [], false⟩

theorem rowsPattern_others :
    let v := Json.obj [("total", .int 2),
      ("rows", .arr [.obj [("id", .int 1)], .obj [("id", .null)]])]
    ∃ c check, rowsPattern.leafType? rowsType "others" = some rowsList ∧
      rowsType.lower (.root [] []) none = .ok c ∧ rowsList.lower (.root [] []) none = .ok check ∧
      Model.empty.accepts c v = true ∧
      Model.empty.accepts check (.arr [.obj [("id", .null)]]) = true := by
  intro v
  have hleaf : rowsPattern.leafType? rowsType "others" = some rowsList := rfl
  have hcheck : rowsList.lower (.root [] []) none = .ok _ := rfl
  have hpath : rowsPattern.pathTo? "others" = some [.key "rows", .rest] := rfl
  refine ⟨_, _, hleaf, rfl, hcheck, rfl, accepts_leafType hpath hleaf
    ⟨⟨fun _ => rfl, nofun⟩, fun _ hrows => ?_⟩ rfl hcheck (v := v) rfl
    (.step (.key rfl) (.step (.rest 1) .here)) nofun⟩
  cases hrows
  exact ⟨trivial, fun _ _ => trivial⟩

/-- Some value conforms to the declared type of a pattern, and its part at the path of the binding
`x` does not pass the check of the type that `x` has. -/
def Misreads (p : Pattern) (declared : StaticType) (x : String) : Prop :=
  ∃ path leaf c check v w, p.pathTo? x = some path ∧ p.leafType? declared x = some leaf ∧
    declared.lower (.root [] []) none = .ok c ∧ leaf.lower (.root [] []) none = .ok check ∧
    Model.empty.accepts c v = true ∧ v.LeadsTo path w ∧ Model.empty.accepts check w = false

/-- The pattern `{ a }`. -/
def propertyPattern : Pattern := .object [.keyValue (.ident "a") (.ident "a") true]

/-- The property of `{ a?: number }` may be `null`, that of `{ a: number, a: string }` is a string,
and so is that of `{ a: number, [k: string]: string }`. The binding is a number in all of them. -/
theorem propertyPattern_misreads :
    propertyPattern.Misreads (.object ⟨[⟨"a", .primitive .number, true⟩], [], false⟩) "a" ∧
    propertyPattern.Misreads (.object ⟨[⟨"a", .primitive .number, false⟩,
      ⟨"a", .primitive .string, false⟩], [], false⟩) "a" ∧
    propertyPattern.Misreads (.object ⟨[⟨"a", .primitive .number, false⟩],
      [⟨some "k", .primitive .string, .primitive .string⟩], false⟩) "a" :=
  ⟨⟨_, _, _, _, .obj [("a", .null)], _, rfl, rfl, rfl, rfl, rfl, .step (.key rfl) .here, rfl⟩,
    ⟨_, _, _, _, .obj [("a", .str "s")], _, rfl, rfl, rfl, rfl, rfl, .step (.key rfl) .here, rfl⟩,
    ⟨_, _, _, _, .obj [("a", .str "s")], _, rfl, rfl, rfl, rfl, rfl, .step (.key rfl) .here, rfl⟩⟩

end Pattern

end TypeGuard
