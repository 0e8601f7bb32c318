import TypeGuard.Proofs.Lowering.Conforms
import TypeGuard.Proofs.Lowering.Fault

/-!
# Values of special types

What conforms to a reference, by its name: to the types whose names mean the same in every
environment, to erased types and type parameters, to the types whose names an environment may take
for something else, and nothing to all others.
-/

namespace TypeGuard.StaticType

variable {env : Environment} {m : Model} {ref : GenericRef} {name : String} {v : Json}

/-- Nothing conforms to a reference without a meaning. -/
theorem exists_kind_of_conforms (h : (generic ref).Conforms env m v) :
    ∃ kind, ref.classify env = .ok kind := by
  cases h with
  | array hkind | anyObject hkind | exact hkind | erased hkind | reify hkind | unbounded hkind
  | bounded hkind | refinement hkind => exact ⟨_, hkind⟩

/-! ### Names that mean the same everywhere -/

theorem conforms_array_iff (h : ref.name.is "Array" = true) :
    (generic ref).Conforms env m v ↔
      ∃ elem items, ref.args = [elem] ∧ v = .arr items ∧ ∀ x ∈ items, elem.Conforms env m x := by
  have hkind : ref.classify env = .ok .list := GenericRef.classify_of_is h
  exact conforms_generic_iff hkind

theorem conforms_anyObject_iff (h : ref.name.is "Object" = true) :
    (generic ref).Conforms env m v ↔ ∃ members, v = .obj members := by
  have hkind : ref.classify env = .ok .object := GenericRef.classify_of_is h
  exact conforms_generic_iff hkind

theorem conforms_exact_iff (h : ref.name.is "$Exact" = true) :
    (generic ref).Conforms env m v ↔ ∃ shape members, ref.args = [.object shape] ∧
      v = .obj members ∧ shape.Conforms env m members ∧ shape.Declares members := by
  have hkind : ref.classify env = .ok .exact := GenericRef.classify_of_is h
  exact conforms_generic_iff hkind

theorem not_conforms_function (h : ref.name.is "Function" = true) :
    ¬ (generic ref).Conforms env m v := by
  have hkind : ref.classify env = .ok .function := GenericRef.classify_of_is h
  exact (conforms_generic_iff hkind).mp

theorem not_conforms_promise (h : ref.name.is "Promise" = true) :
    ¬ (generic ref).Conforms env m v := by
  have hkind : ref.classify env = .ok .promise := GenericRef.classify_of_is h
  exact (conforms_generic_iff hkind).mp

/-! ### Erased types and type parameters -/

/-- Everything conforms to an erased type. -/
theorem conforms_of_isErased (h : ref.name.is name = true) (hname : name ∉ GenericRef.fixedNames)
    (herased : env.isErased name = true) : (generic ref).Conforms env m v := by
  refine .erased ?_
  simp only [GenericRef.fixedNames, List.mem_cons, List.not_mem_nil, or_false, not_or] at hname
  simp [GenericRef.classify_of_is h, GenericRef.classifySimple, hname, herased]

/-- What conforms to a type parameter with a bound is what conforms to the bound. -/
theorem conforms_bounded_iff {bound : StaticType} (h : ref.name.is name = true)
    (hname : name ∉ GenericRef.fixedNames) (herased : env.isErased name = false)
    (hparam : env.param? name = some (some bound)) :
    (generic ref).Conforms env m v ↔ bound.Conforms env m v := by
  have hsimple : ref.name.simple? = some name := by simpa [TypeName.is] using h
  have hbound : ref.bound? env = some bound := by
    simp [GenericRef.bound?, hsimple, hname, herased, hparam]
  exact conforms_generic_iff (GenericRef.classify_of_bound hbound)

/-- Everything conforms to a type parameter without a bound. -/
theorem conforms_of_param (h : ref.name.is name = true) (hname : name ∉ GenericRef.fixedNames)
    (hparam : env.param? name = some none) : (generic ref).Conforms env m v := by
  cases herased : env.isErased name with
  | true => exact conforms_of_isErased h hname herased
  | false =>
    refine .unbounded ?_
    simp only [GenericRef.fixedNames, List.mem_cons, List.not_mem_nil, or_false, not_or] at hname
    simp [GenericRef.classify_of_is h, GenericRef.classifySimple, hname, herased, hparam]

/-! ### Names that an environment may take -/

/-- What conforms to a refinement is what its predicate holds for. -/
theorem conforms_refinement_iff (h : ref.isFree env "$Refinement" = true) :
    (generic ref).Conforms env m v ↔
      ∃ predicate, ref.args = [.typeof predicate] ∧ m.holds (.ref predicate) v = true := by
  have hfree := GenericRef.classify_of_isFree (by decide) h
  constructor
  · intro hv
    obtain ⟨kind, hkind⟩ := exists_kind_of_conforms hv
    have hpredicate : ref.refinementPredicate.map .refinement = .ok kind := hfree.symm.trans hkind
    obtain ⟨p, hp, rfl⟩ := Results.map_eq_ok.mp hpredicate
    unfold GenericRef.refinementPredicate at hp
    split at hp
    · next predicate hargs =>
      cases hp
      exact ⟨predicate, hargs, (conforms_generic_iff hkind).mp hv⟩
    · cases hp
  · rintro ⟨predicate, hargs, hholds⟩
    refine .refinement ?_ hholds
    simp [hfree, GenericRef.classifyFree, GenericRef.refinementPredicate, hargs, Except.map]

/-- Everything conforms to a reified type, if there is one. -/
theorem conforms_reify_iff (h : ref.isFree env "$Reify" = true) :
    (generic ref).Conforms env m v ↔ ∃ target, ref.args = [.generic target] := by
  have hfree := GenericRef.classify_of_isFree (by decide) h
  constructor
  · intro hv
    obtain ⟨kind, hkind⟩ := exists_kind_of_conforms hv
    have htarget : ref.reifyTarget.map .reify = .ok kind := hfree.symm.trans hkind
    obtain ⟨name, hname, -⟩ := Results.map_eq_ok.mp htarget
    unfold GenericRef.reifyTarget at hname
    split at hname
    · next target hargs => exact ⟨target, hargs⟩
    · cases hname
  · rintro ⟨target, hargs⟩
    have hkind : ref.classify env = .ok (.reify target.name) := by
      simp [hfree, GenericRef.classifyFree, GenericRef.reifyTarget, hargs, Except.map]
    exact .reify hkind

/-- Nothing conforms to any other type by its name. -/
theorem not_conforms_of_isFree (h : ref.isFree env name = true)
    (hfixed : name ∉ GenericRef.fixedNames) (hrefinement : name ≠ "$Refinement")
    (hreify : name ≠ "$Reify") : ¬ (generic ref).Conforms env m v := by
  have hkind : ref.classify env = .ok .nominal := by
    rw [GenericRef.classify_of_isFree hfixed h, GenericRef.classifyFree, if_neg hrefinement,
      if_neg hreify]
  exact (conforms_generic_iff hkind).mp

theorem not_conforms_of_qualified (h : ref.name.simple? = none) :
    ¬ (generic ref).Conforms env m v := by
  have hkind : ref.classify env = .ok .nominal := by rw [GenericRef.classify, h]
  exact (conforms_generic_iff hkind).mp

end TypeGuard.StaticType
