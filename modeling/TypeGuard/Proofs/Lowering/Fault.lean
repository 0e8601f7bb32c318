import TypeGuard.Proofs.Lowering.Part

/-!
# Faults of types

What can be wrong with a type itself, and which types its lowering goes on to: its parts, and the
bound where it is a type parameter. A level of a type fails by the fault of the type or else as the
first of its parts that fails, `Lowering.failure?_level`. So a type has the same outcome, a check or
an error, in all environments that agree on the names that its lowering comes to.
-/

namespace TypeGuard

open Results

/-! ### Parts and faults -/

namespace GenericRef

/-- The names that mean the same in every environment. -/
def fixedNames : List String := ["Array", "Function", "Object", "$Exact", "Promise"]

/-- The bound of the type parameter that is referred to. -/
def bound? (env : Environment) (ref : GenericRef) : Option StaticType :=
  match ref.name.simple? with
  | some name =>
    if name ∈ fixedNames ∨ env.isErased name then none else (env.param? name).join
  | none => none

/-- Whether the reference has the name, which is neither erased nor that of a type parameter. -/
def isFree (env : Environment) (ref : GenericRef) (name : String) : Bool :=
  ref.name.is name && !env.isErased name && (env.param? name).isNone

/-- The types that the lowering of a reference goes on to. -/
def parts (env : Environment) (ref : GenericRef) : List StaticType :=
  if ref.name.is "Array" then
    match ref.args with
    | [elem] => [elem]
    | _ => []
  else if ref.name.is "$Exact" then
    match ref.args with
    | [.object shape] => shape.properties.map (·.value)
    | _ => []
  else (ref.bound? env).toList

/-- What is wrong with a reference itself: the number or the kind of its arguments. -/
def fault? (env : Environment) (ref : GenericRef) : Option LoweringError :=
  if ref.name.is "Array" then
    if ref.args.length = 1 then none else some (.arity "Array" ref.args.length)
  else if ref.name.is "$Exact" then
    match ref.args with
    | [.object _] => none
    | _ => some .invalidExact
  else if ref.isFree env "$Refinement" then
    match ref.args with
    | [.typeof _] => none
    | _ => some .invalidRefinement
  else if ref.isFree env "$Reify" then
    match ref.args with
    | [.generic _] => none
    | _ => some .invalidReify
  else none

variable {env : Environment} {ref : GenericRef}

theorem classify_of_is {name : String} (h : ref.name.is name = true) :
    ref.classify env = ref.classifySimple env name := by
  have hname : ref.name.simple? = some name := by simpa [TypeName.is] using h
  rw [classify, hname]

theorem classify_of_bound {bound : StaticType} (h : ref.bound? env = some bound) :
    ref.classify env = .ok (.typeParam (some bound)) := by
  unfold bound? at h
  split at h
  · rename_i name hname
    split at h
    · cases h
    · rename_i hopen
      have hparam : env.param? name = some (some bound) := Option.join_eq_some_iff.mp h
      simp only [fixedNames, List.mem_cons, List.not_mem_nil, or_false, not_or] at hopen
      simp [classify, hname, classifySimple, hopen, hparam]
  · cases h

theorem parts_of_bound {bound : StaticType} (h : ref.bound? env = some bound) :
    ref.parts env = [bound] := by
  have hfixed {name : String} (hname : name ∈ fixedNames) : ref.name.is name = false := by
    refine Bool.eq_false_iff.mpr fun his => ?_
    have hsimple : ref.name.simple? = some name := by simpa [TypeName.is] using his
    rw [bound?, hsimple] at h
    simp [hname] at h
  simp [parts, hfixed (show "Array" ∈ fixedNames by decide),
    hfixed (show "$Exact" ∈ fixedNames by decide), h]

theorem classify_of_isFree {name : String} (hname : name ∉ fixedNames)
    (h : ref.isFree env name = true) : ref.classify env = ref.classifyFree name := by
  simp only [isFree, Bool.and_eq_true, Bool.not_eq_true', Option.isNone_iff_eq_none] at h
  obtain ⟨⟨his, herased⟩, hparam⟩ := h
  simp only [fixedNames, List.mem_cons, List.not_mem_nil, or_false, not_or] at hname
  simp [classify_of_is his, classifySimple, hname, herased, hparam]

theorem bound?_of_isFree {name : String} (h : ref.isFree env name = true) :
    ref.bound? env = none := by
  simp only [isFree, TypeName.is, Bool.and_eq_true, beq_iff_eq, Option.isNone_iff_eq_none] at h
  simp [bound?, h]

/-- What all other references mean. -/
theorem classify_other (harray : ref.name.is "Array" = false)
    (hexact : ref.name.is "$Exact" = false) (hbound : ref.bound? env = none)
    (hrefinement : ref.isFree env "$Refinement" = false)
    (hreify : ref.isFree env "$Reify" = false) :
    ∃ kind ∈ [.function, .object, .promise, .erased, .typeParam none, .nominal],
      ref.classify env = .ok kind := by
  unfold classify
  cases hname : ref.name.simple? with
  | none => exact ⟨.nominal, by simp, rfl⟩
  | some n =>
    have hn (name : String) : ref.name.is name = decide (n = name) := by
      rw [TypeName.is, hname, Option.some_beq_some, beq_eq_decide]
    simp only [hn, decide_eq_false_iff_not] at harray hexact
    simp only [classifySimple, if_neg harray, if_neg hexact]
    split_ifs with hfunction hobject hpromise herased
    · exact ⟨.function, by simp, rfl⟩
    · exact ⟨.object, by simp, rfl⟩
    · exact ⟨.promise, by simp, rfl⟩
    · exact ⟨.erased, by simp, rfl⟩
    · cases hparam : env.param? n with
      | some bound =>
        cases bound with
        | none => exact ⟨.typeParam none, by simp, rfl⟩
        | some bound =>
          have hsome : ref.bound? env = some bound := by
            simp [bound?, hname, fixedNames, harray, hexact, hfunction, hobject, hpromise, herased,
              hparam]
          cases hbound.symm.trans hsome
      | none =>
        have hfree (name : String) (hfree : ref.isFree env name = false) : n ≠ name := by
          rintro rfl
          simp [isFree, hn, herased, hparam] at hfree
        refine ⟨.nominal, by simp, ?_⟩
        simp only [classifyFree, if_neg (hfree _ hrefinement), if_neg (hfree _ hreify)]

end GenericRef

namespace StaticType

/-- Whether the members of a union are string literals, of which there is one at least. -/
def isEnumeration (members : List StaticType) : Bool :=
  !members.isEmpty && members.all fun member => member.stringLiteral?.isSome

/-- The types that the lowering of a type goes on to, in their order. -/
def parts (env : Environment) : StaticType → List StaticType
  | .list elem => [elem]
  | .nullable inner => [inner]
  | .tuple elems => elems
  | .union members => if isEnumeration members then [] else members
  | .intersection members => members
  | .object shape =>
    match shape.indexers with
    | [] => shape.properties.map (·.value)
    | [indexer] => [indexer.key, indexer.value]
    | _ => []
  | .generic ref => ref.parts env
  | .primitive _ | .existential | .typeof _ | .function _ | .literal _ | .unsupported _ => []

/-- What is wrong with a type itself, whatever its parts are. -/
def fault? (env : Environment) : StaticType → Option LoweringError
  | .object shape =>
    if 2 ≤ shape.indexers.length then some (.ambiguousIndexer shape.indexers.length) else none
  | .generic ref => ref.fault? env
  | .unsupported kind => some (.unsupported kind)
  | _ => none

end StaticType

/-! ### Levels -/

namespace Lowering

variable {env env' : Environment} {sub sub' : Sub} {name : Option String} {t u : StaticType}

/-- The first failure among the parts, from left to right. -/
def firstFailure? (sub : Sub) (types : List StaticType) : Option LoweringError :=
  types.findSome? fun type => failure? (sub type)

@[simp] theorem firstFailure?_nil (sub : Sub) : firstFailure? sub [] = none := rfl

@[simp] theorem firstFailure?_cons (sub : Sub) (type : StaticType) (types : List StaticType) :
    firstFailure? sub (type :: types) = (failure? (sub type)).or (firstFailure? sub types) := by
  rw [firstFailure?, List.findSome?_cons]
  cases failure? (sub type) <;> rfl

theorem firstFailure?_congr {types : List StaticType}
    (h : ∀ type ∈ types, sub' type = sub type) :
    firstFailure? sub' types = firstFailure? sub types := by
  induction types with
  | nil => rfl
  | cons type types ih =>
    rw [List.forall_mem_cons] at h
    rw [firstFailure?_cons, firstFailure?_cons, h.1, ih h.2]

theorem failure?_part (sub : Sub) (type : StaticType) :
    failure? (part sub type) = failure? (sub type) :=
  failure?_map ..

theorem failure?_parts (sub : Sub) (types : List StaticType) :
    failure? (parts sub types) = firstFailure? sub types := by
  simp only [parts, failure?_mapM, failure?_part, firstFailure?]

theorem failure?_property (sub : Sub) (p : ObjectProperty) :
    failure? (property sub p) = failure? (sub p.value) :=
  (failure?_bind_pure ..).trans (failure?_part ..)

theorem failure?_properties (sub : Sub) (ps : List ObjectProperty) :
    failure? (properties sub ps) = firstFailure? sub (ps.map (·.value)) := by
  simp only [properties, failure?_map, failure?_mapM, failure?_property, firstFailure?,
    List.findSome?_map, Function.comp_def]

theorem isSome_mapM_stringLiteral? (members : List StaticType) :
    (members.mapM StaticType.stringLiteral?).isSome =
      members.all fun member => member.stringLiteral?.isSome := by
  induction members with
  | nil => rfl
  | cons member members ih =>
    rw [List.mapM_cons, List.all_cons, ← ih]
    cases member.stringLiteral? with
    | none => rfl
    | some s => cases members.mapM StaticType.stringLiteral? <;> rfl

theorem isEnumeration_iff {members : List StaticType} :
    StaticType.isEnumeration members = true ↔
      ∃ s ss, members.mapM StaticType.stringLiteral? = some (s :: ss) := by
  rw [StaticType.isEnumeration, ← isSome_mapM_stringLiteral?]
  cases members with
  | nil => simp
  | cons member members =>
    rw [List.mapM_cons]
    cases member.stringLiteral? with
    | none => simp
    | some s => cases members.mapM StaticType.stringLiteral? <;> simp

theorem failure?_union (sub : Sub) (members : List StaticType) (name : Option String) :
    failure? (union sub members name) =
      firstFailure? sub (if StaticType.isEnumeration members then [] else members) := by
  unfold union
  split
  · rename_i s ss h
    rw [if_pos (isEnumeration_iff.mpr ⟨s, ss, h⟩)]
    rfl
  · rename_i h
    rw [if_neg fun he => (isEnumeration_iff.mp he).elim fun s hs => hs.elim fun ss => h s ss,
      failure?_map, failure?_parts]

theorem failure?_object (sub : Sub) (shape : ObjectShape) (name : Option String) :
    failure? (object sub shape name) = ((StaticType.object shape).fault? env).or
      (firstFailure? sub ((StaticType.object shape).parts env)) := by
  obtain ⟨ps, indexers, exact⟩ := shape
  match indexers with
  | [] => exact (failure?_map ..).trans (failure?_properties ..)
  | [indexer] =>
    change _ = firstFailure? sub [indexer.key, indexer.value]
    simp only [object, firstFailure?_cons, firstFailure?_nil, ← failure?_part]
    cases part sub indexer.key with
    | error e => rfl
    | ok key => cases part sub indexer.value <;> rfl
  | _ :: _ :: _ => simp [object, StaticType.fault?, failure?]

theorem failure?_intersection (sub : Sub) (members : List StaticType) (name : Option String) :
    failure? (intersection sub members name) = firstFailure? sub members :=
  (failure?_bind_pure ..).trans (failure?_mapM ..)

theorem failure?_array (sub : Sub) {ref : GenericRef} (name : Option String)
    (h : ref.name.is "Array" = true) : failure? (generic env sub ref name) =
      (ref.fault? env).or (firstFailure? sub (ref.parts env)) := by
  have hkind : ref.classify env = .ok .list := GenericRef.classify_of_is h
  simp only [generic, GenericRef.fault?, GenericRef.parts, h, hkind, if_true, ok_bind]
  rcases ref.args with _ | ⟨elem, _ | ⟨_, _⟩⟩
  · rfl
  · simp only [List.length_singleton, if_true, Option.none_or, firstFailure?_cons,
      firstFailure?_nil, Option.or_none]
    exact (failure?_bind_pure ..).trans (failure?_part ..)
  · simp [failure?]

theorem failure?_exact (sub : Sub) {ref : GenericRef} (name : Option String)
    (harray : ref.name.is "Array" = false) (h : ref.name.is "$Exact" = true) :
    failure? (generic env sub ref name) =
      (ref.fault? env).or (firstFailure? sub (ref.parts env)) := by
  have hkind : ref.classify env = .ok .exact := GenericRef.classify_of_is h
  simp only [generic, GenericRef.fault?, GenericRef.parts, h, harray, hkind, Bool.false_eq_true,
    if_true, if_false, ok_bind]
  rcases ref.args with _ | ⟨arg, _ | ⟨_, _⟩⟩
  · rfl
  · cases arg with
    | object shape => exact (failure?_bind_pure ..).trans (failure?_properties ..)
    | _ => rfl
  · cases arg <;> rfl

theorem failure?_refinement (sub : Sub) {ref : GenericRef} (name : Option String)
    (harray : ref.name.is "Array" = false) (hexact : ref.name.is "$Exact" = false)
    (h : ref.isFree env "$Refinement" = true) : failure? (generic env sub ref name) =
      (ref.fault? env).or (firstFailure? sub (ref.parts env)) := by
  have hkind : ref.classify env = ref.refinementPredicate.map .refinement :=
    (GenericRef.classify_of_isFree (by decide) h).trans (if_pos rfl)
  simp only [generic, GenericRef.fault?, GenericRef.parts, harray, hexact, h, hkind,
    GenericRef.bound?_of_isFree h, GenericRef.refinementPredicate, Bool.false_eq_true, if_true,
    if_false]
  rcases ref.args with _ | ⟨arg, _ | ⟨_, _⟩⟩
  · rfl
  · cases arg <;> rfl
  · cases arg <;> rfl

theorem failure?_reify (sub : Sub) {ref : GenericRef} (name : Option String)
    (harray : ref.name.is "Array" = false) (hexact : ref.name.is "$Exact" = false)
    (hrefinement : ref.isFree env "$Refinement" = false) (h : ref.isFree env "$Reify" = true) :
    failure? (generic env sub ref name) =
      (ref.fault? env).or (firstFailure? sub (ref.parts env)) := by
  have hkind : ref.classify env = ref.reifyTarget.map .reify :=
    (GenericRef.classify_of_isFree (by decide) h).trans <| (if_neg (by decide)).trans (if_pos rfl)
  simp only [generic, GenericRef.fault?, GenericRef.parts, harray, hexact, hrefinement, h, hkind,
    GenericRef.bound?_of_isFree h, GenericRef.reifyTarget, Bool.false_eq_true, if_true, if_false]
  rcases ref.args with _ | ⟨arg, _ | ⟨_, _⟩⟩
  · rfl
  · cases arg <;> rfl
  · cases arg <;> rfl

theorem failure?_generic (sub : Sub) (ref : GenericRef) (name : Option String) :
    failure? (generic env sub ref name) =
      (ref.fault? env).or (firstFailure? sub (ref.parts env)) := by
  cases harray : ref.name.is "Array" with
  | true => exact failure?_array sub name harray
  | false =>
  cases hexact : ref.name.is "$Exact" with
  | true => exact failure?_exact sub name harray hexact
  | false =>
  cases hrefinement : ref.isFree env "$Refinement" with
  | true => exact failure?_refinement sub name harray hexact hrefinement
  | false =>
  cases hreify : ref.isFree env "$Reify" with
  | true => exact failure?_reify sub name harray hexact hrefinement hreify
  | false =>
  simp only [generic, GenericRef.fault?, GenericRef.parts, harray, hexact, hrefinement, hreify,
    Bool.false_eq_true, if_false, Option.none_or]
  cases hbound : ref.bound? env with
  | some bound =>
    rw [GenericRef.classify_of_bound hbound, ok_bind]
    simp
  | none =>
    obtain ⟨kind, hmem, hkind⟩ :=
      GenericRef.classify_other harray hexact hbound hrefinement hreify
    rw [hkind, ok_bind]
    simp only [List.mem_cons, List.not_mem_nil, or_false] at hmem
    rcases hmem with rfl | rfl | rfl | rfl | rfl | rfl <;> rfl

/-- A level fails by its own fault, or else as the first of its parts that fails. -/
theorem failure?_level (sub : Sub) (name : Option String) (type : StaticType) :
    failure? (level env sub name type) =
      (type.fault? env).or (firstFailure? sub (type.parts env)) := by
  cases type with
  | primitive | existential | typeof | function | literal | unsupported => rfl
  | list elem =>
    refine (failure?_map ..).trans ((failure?_part ..).trans ?_)
    simp [StaticType.fault?, StaticType.parts]
  | nullable inner =>
    refine (failure?_map ..).trans ((failure?_part ..).trans ?_)
    simp [StaticType.fault?, StaticType.parts]
  | tuple elems => exact (failure?_map ..).trans (failure?_parts ..)
  | union members => exact (failure?_map ..).trans (failure?_union ..)
  | intersection members => exact (failure?_map ..).trans (failure?_intersection ..)
  | object shape => exact (failure?_map ..).trans (failure?_object ..)
  | generic ref => exact failure?_generic ..

theorem failure?_within_succ (n : Nat) (name : Option String) (type : StaticType) :
    failure? (within env (n + 1) name type) =
      (type.fault? env).or (firstFailure? (within env n none) (type.parts env)) :=
  failure?_level ..

/-! ### Other environments -/

theorem hasPart_of_mem_parts (h : u ∈ t.parts env) : t.HasPart env u := by
  cases t with
  | list elem =>
    cases List.mem_singleton.mp h
    exact .elem
  | nullable inner =>
    cases List.mem_singleton.mp h
    exact .inner
  | tuple elems => exact .component h
  | intersection members => exact .conjunct h
  | union members =>
    rw [StaticType.parts] at h
    split at h
    · cases h
    · exact .alternative h
  | object shape =>
    rw [StaticType.parts] at h
    split at h
    · rename_i hindexers
      obtain ⟨p, hp, rfl⟩ := List.mem_map.mp h
      exact .property hindexers hp
    · rename_i indexer hindexers
      simp only [List.mem_cons, List.not_mem_nil, or_false] at h
      obtain rfl | rfl := h
      · exact .indexerKey hindexers
      · exact .indexerValue hindexers
    · cases h
  | generic ref =>
    rw [StaticType.parts, GenericRef.parts] at h
    split at h
    · rename_i harray
      split at h
      · rename_i elem hargs
        cases List.mem_singleton.mp h
        exact .argument (GenericRef.classify_of_is harray) hargs
      · cases h
    · split at h
      · rename_i hexact
        split at h
        · rename_i shape hargs
          obtain ⟨p, hp, rfl⟩ := List.mem_map.mp h
          exact .exactProperty (GenericRef.classify_of_is hexact) hargs hp
        · cases h
      · exact .bound (GenericRef.classify_of_bound (Option.mem_toList.mp h))
  | primitive | existential | typeof | function | literal | unsupported => cases h

/-- A level depends on the environment by what its own name means, and on the parts. -/
theorem level_congr (hclassify : ∀ ref, t = .generic ref → ref.classify env' = ref.classify env)
    (hsub : ∀ u, t.HasPart env u → sub' u = sub u) :
    level env' sub' name t = level env sub name t := by
  have henv : level env' sub' name t = level env sub' name t := by
    cases t with
    | generic ref => simp only [level, generic, hclassify ref rfl]
    | _ => rfl
  have hparts : firstFailure? sub' (t.parts env) = firstFailure? sub (t.parts env) :=
    firstFailure?_congr fun u hu => hsub u (hasPart_of_mem_parts hu)
  rw [henv]
  refine eq_of_failure?_eq ?_ fun l hl => ?_
  · rw [failure?_level, failure?_level, hparts]
  · exact level_follows (fun u hu l hl => (hsub u hu).trans hl) hl

/-- In an environment that tells the same of all references on the way, the outcome is the same. -/
theorem within_eq_within {n : Nat}
    (h : ∀ ref, Relation.ReflTransGen (StaticType.HasPart env) t (.generic ref) →
      ref.classify env' = ref.classify env) :
    within env' n name t = within env n name t := by
  induction n generalizing name t with
  | zero => rfl
  | succ n ih =>
    refine level_congr (fun ref href => ?_) fun u hu => ih fun ref hreach => h ref (.head hu hreach)
    subst href
    exact h ref .refl

end Lowering

theorem StaticType.failure?_lower (env : Environment) (name : Option String) (t : StaticType) :
    failure? (t.lower env name) = failure? (Lowering.within env Limits.typeDepth name t) :=
  failure?_map ..

end TypeGuard
