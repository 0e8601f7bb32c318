import TypeGuard.Proofs.Agreement.Frame
import TypeGuard.Proofs.Lowering

/-!
# Shadowed names in bounds

The bound of a type parameter is kept as it was written and lowered where the parameter is used,
with the type parameters in scope there. So what a parameter means can change within a function or a
class that has type parameters of its own: `StaticType.lower_reference_child` says that it stays the
same exactly if its bound comes to no other name that a type parameter can take.
-/

namespace TypeGuard

open Results

/-- What a type goes on to depends on what its own name means only. -/
theorem StaticType.HasPart.congr {env env' : Environment} {t u : StaticType}
    (hclassify : ∀ ref, t = .generic ref → ref.classify env' = ref.classify env)
    (h : t.HasPart env' u) : t.HasPart env u := by
  cases h with
  | elem => exact .elem
  | inner => exact .inner
  | component hmem => exact .component hmem
  | alternative hmem => exact .alternative hmem
  | conjunct hmem => exact .conjunct hmem
  | property hindexers hmem => exact .property hindexers hmem
  | indexerKey hindexers => exact .indexerKey hindexers
  | indexerValue hindexers => exact .indexerValue hindexers
  | argument hkind hargs => exact .argument (hclassify _ rfl ▸ hkind) hargs
  | exactProperty hkind hargs hmem => exact .exactProperty (hclassify _ rfl ▸ hkind) hargs hmem
  | bound hkind => exact .bound (hclassify _ rfl ▸ hkind)

namespace Lowering

variable {env : Environment} {sub : Sub} {name : Option String} {t u : StaticType}

/-- A type fails with each part that its lowering goes on to, the members of an enumeration
apart. -/
theorem isSome_failure?_of_hasPart (h : t.HasPart env u) (hu : (failure? (sub u)).isSome)
    (hliteral : ∀ s, u ≠ .literal (.string s)) : (failure? (level env sub name t)).isSome := by
  have hfirst {types : List StaticType} (hmem : u ∈ types) : (firstFailure? sub types).isSome :=
    List.findSome?_isSome_iff.mpr ⟨u, hmem, hu⟩
  have hparts (hmem : u ∈ t.parts env) : (failure? (level env sub name t)).isSome := by
    rw [failure?_level, Option.isSome_or, hfirst hmem, Bool.or_true]
  cases h with
  | elem | inner => exact hparts List.mem_cons_self
  | component hmem | conjunct hmem => exact hparts hmem
  | @alternative members _ hmem =>
    have hmixed : StaticType.isEnumeration members = false := by
      refine Bool.eq_false_iff.mpr fun henum => ?_
      rw [StaticType.isEnumeration, Bool.and_eq_true, List.all_eq_true] at henum
      obtain ⟨s, hs⟩ := Option.isSome_iff_exists.mp (henum.2 u hmem)
      exact hliteral s (stringLiteral?_eq_some.mp hs)
    refine hparts ?_
    rwa [StaticType.parts, hmixed]
  | property hindexers hp =>
    refine hparts ?_
    rw [StaticType.parts, hindexers]
    exact List.mem_map.mpr ⟨_, hp, rfl⟩
  | indexerKey hindexers =>
    refine hparts ?_
    rw [StaticType.parts, hindexers]
    exact List.mem_cons_self
  | indexerValue hindexers =>
    refine hparts ?_
    rw [StaticType.parts, hindexers]
    exact List.mem_cons_of_mem _ List.mem_cons_self
  | argument hkind hargs =>
    simp only [level, generic, hkind, ok_bind, hargs]
    rw [failure?_bind_pure, failure?_part]
    exact hu
  | exactProperty hkind hargs hp =>
    simp only [level, generic, hkind, ok_bind, hargs]
    rw [failure?_bind_pure, failure?_properties]
    exact hfirst (List.mem_map.mpr ⟨_, hp, rfl⟩)
  | bound hkind =>
    simp only [level, generic, hkind, ok_bind]
    exact hu

/-- The environment in which a type parameter with the name has a bound that has no check. -/
def capturing (env : Environment) (name : String) : Environment :=
  env.child [⟨name, some (.unsupported "")⟩]

theorem isSome_failure?_of_names {ref : GenericRef} {x : String} (hopen : env.IsOpen x)
    (hname : ref.name.simple? = some x) (n : Nat) (name : Option String) :
    (failure? (within (capturing env x) n name (.generic ref))).isSome := by
  have hparam : (capturing env x).param? x = some (some (.unsupported "")) := by
    simp [capturing, Environment.child, Environment.param?]
  have herased : (capturing env x).isErased x = false := hopen.2
  have hbound : ref.bound? (capturing env x) = some (.unsupported "") := by
    simp [GenericRef.bound?, hname, hopen.1, herased, hparam]
  cases n with
  | zero => rfl
  | succ n =>
    refine isSome_failure?_of_hasPart (.bound (GenericRef.classify_of_bound hbound)) ?_ ?_
    · cases n <;> rfl
    · rintro s ⟨⟩

/-- A type parameter that takes a name changes what is lowered by way of the name. -/
theorem isSome_failure?_of_mentions {x : String} (hopen : env.IsOpen x) (h : t.Mentions env x)
    (n : Nat) (name : Option String) :
    (failure? (within (capturing env x) n name t)).isSome := by
  obtain ⟨ref, hreach, hname⟩ := h
  induction hreach using Relation.ReflTransGen.head_induction_on generalizing n name with
  | refl => exact isSome_failure?_of_names hopen hname n name
  | @head t u hpart _ ih =>
    by_cases hcaptured : ∃ ref', t = .generic ref' ∧ ref'.name.simple? = some x
    · obtain ⟨ref', rfl, hname'⟩ := hcaptured
      exact isSome_failure?_of_names hopen hname' n name
    · cases n with
      | zero => rfl
      | succ n =>
        refine isSome_failure?_of_hasPart (hpart.congr fun ref' href => ?_) (ih n none) ?_
        · refine (ref'.classify_child fun p hp hname' => ?_).symm
          cases List.mem_singleton.mp hp
          exact hcaptured ⟨ref', href, hname'⟩
        · rintro s rfl
          cases ih 1 none

end Lowering

namespace StaticType

variable {env : Environment} {t : StaticType}

theorem Mentions.inv {x : String} (h : t.Mentions env x) :
    (∃ ref, t = generic ref ∧ ref.name.simple? = some x) ∨
      ∃ u, t.HasPart env u ∧ u.Mentions env x := by
  obtain ⟨ref, hreach, hname⟩ := h
  obtain rfl | ⟨u, hpart, hrest⟩ := hreach.cases_head
  · exact .inl ⟨ref, rfl, hname⟩
  · exact .inr ⟨u, hpart, ref, hrest, hname⟩

theorem lower_capturing_ne_ok {x : String} {c : Combinator} (hopen : env.IsOpen x)
    (h : t.Mentions env x) (name : Option String) :
    t.lower (Lowering.capturing env x) name ≠ .ok c := by
  intro hok
  have hfails := Lowering.isSome_failure?_of_mentions hopen h Limits.typeDepth name
  rw [← failure?_lower, hok] at hfails
  cases hfails

/-- What a type parameter means is the same in all environments within, unless one of their type
parameters takes a name that the bound comes to. If the bound has a check at all then these names
matter: whatever further type parameters there are, of other names than its own, the check is the
same exactly if the bound comes to no name but its own that a type parameter can take. -/
theorem lower_reference_child (outer : Environment) (ps : List TypeParam) (x : String)
    (args : Option (List StaticType)) :
    let env := outer.child ps
    let T := generic ⟨.simple x, args⟩
    (∀ qs name, (∀ q ∈ qs, env.IsOpen q.name → ¬ T.Mentions env q.name) →
      T.lower (env.child qs) name = T.lower env name) ∧
    ∀ c, T.lower env none = .ok c →
      ((∀ qs : List TypeParam, (∀ q ∈ qs, q.name ≠ x) → T.lower (env.child qs) none = .ok c) ↔
        ∀ y, env.IsOpen y → T.Mentions env y → y = x) := by
  intro env T
  refine ⟨fun qs name h => lower_child_eq name h, fun c hc => ⟨fun h y hopen hy => ?_, ?_⟩⟩
  · by_contra hne
    refine lower_capturing_ne_ok hopen hy none (h _ fun q hq => ?_)
    cases List.mem_singleton.mp hq
    exact hne
  · intro h qs hqs
    rw [lower_child_eq none fun q hq hopen hmentions => hqs q hq (h q.name hopen hmentions), hc]

/-- The environment within `<U: number, T: Array<number>>`. -/
def numbersParam : Environment :=
  (Environment.root [] []).child [⟨"U", some (.primitive .number)⟩,
    ⟨"T", some (.generic ⟨.simple "Array", some [.primitive .number]⟩)⟩]

/-- The type `T` is a list of numbers within `<U: string, Array>` also, with a name or without: its
bound does not come to `U`, and no type parameter can take the name `Array`. -/
theorem numbersParam_lower_eq :
    let T := generic ⟨.simple "T", none⟩
    let env := numbersParam.child [⟨"U", some (.primitive .string)⟩, ⟨"Array", none⟩]
    T.lower env (some "L") = T.lower numbersParam (some "L") ∧
    T.lower env none = .ok (.list (.builtin .number) none) := by
  have harray : ¬ numbersParam.IsOpen "Array" := fun h => h.1 List.mem_cons_self
  have hlist {y}
      (h : (generic ⟨.simple "Array", some [.primitive .number]⟩).Mentions numbersParam y) :
      y = "Array" := by
    obtain ⟨_, ⟨⟩, hname⟩ | ⟨u, hpart, hu⟩ := h.inv
    · exact (Option.some.inj hname).symm
    · cases hpart with
      | argument _ hargs =>
        cases hargs
        obtain ⟨_, ⟨⟩, _⟩ | ⟨_, ⟨⟩, _⟩ := hu.inv
      | exactProperty hkind => cases hkind
      | bound hkind => cases hkind
  have hmentions {y} (h : (generic ⟨.simple "T", none⟩).Mentions numbersParam y) :
      y = "T" ∨ y = "Array" := by
    obtain ⟨_, ⟨⟩, hname⟩ | ⟨u, hpart, hu⟩ := h.inv
    · exact .inl (Option.some.inj hname).symm
    · cases hpart with
      | argument hkind => cases hkind
      | exactProperty hkind => cases hkind
      | bound hkind =>
        cases hkind
        exact .inr (hlist hu)
  have hlaw := lower_reference_child (.root [] []) [⟨"U", some (.primitive .number)⟩,
    ⟨"T", some (.generic ⟨.simple "Array", some [.primitive .number]⟩)⟩] "T" none
  refine ⟨hlaw.1 _ _ fun q hq hopen hq' => ?_, (hlaw.2 _ rfl).mpr (fun y hopen hy => ?_) _ ?_⟩
  · simp only [List.mem_cons, List.not_mem_nil, or_false] at hq
    rcases hq with rfl | rfl
    · simpa using hmentions hq'
    · exact harray hopen
  · exact (hmentions hy).resolve_right fun heq => harray (heq ▸ hopen)
  · simp

/-- The environment within `<U: number, T: U>`. -/
def chainedParam : Environment :=
  (Environment.root [] []).child [⟨"U", some (.primitive .number)⟩,
    ⟨"T", some (.generic ⟨.simple "U", none⟩)⟩]

/-- The type `T` is a number, and within `<U: string>` a string. -/
theorem chainedParam_lower_ne :
    let T := generic ⟨.simple "T", none⟩
    T.lower chainedParam none = .ok (.builtin .number) ∧
    T.lower (chainedParam.child [⟨"U", some (.primitive .string)⟩]) none =
      .ok (.builtin .string) :=
  ⟨rfl, rfl⟩

end StaticType

end TypeGuard
