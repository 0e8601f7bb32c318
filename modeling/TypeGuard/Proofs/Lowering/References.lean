import TypeGuard.Lowering.Extension
import TypeGuard.Proofs.Lowering.Name

/-!
# What lowered types refer to

A lowered type never refers to the extend helper. The check of an interface with parents always
does.

A name that is erased has no value at run time, and a lowered type never refers to such a name. The
check of an interface refers to those that stand among the parents, which are taken by their names
as they are, and to no others: `Lowering.contains_erased_iff`.
-/

namespace TypeGuard

open Results

/-! ### The extend helper -/

theorem Lowering.Made.usesExtend_named {env : Environment} {c : Combinator} (h : Made env c)
    (name : Option String) : (c.named name).usesExtend = false := by
  rw [Combinator.usesExtend_named]
  exact Combinator.usesExtend_of_everywhere (h.imp fun _ => Node.isExtension_eq_false)

theorem StaticType.usesExtend_lower {env : Environment} {name : Option String} {type : StaticType}
    {c : Combinator} (h : type.lower env name = .ok c) : c.usesExtend = false := by
  obtain ⟨d, label, hd, rfl⟩ := exists_made h
  exact hd.usesExtend_named label

theorem ObjectShape.usesExtend_lower {env : Environment} {name : Option String}
    {shape : ObjectShape} {c : Combinator} (h : shape.lower env name = .ok c) :
    c.usesExtend = false := by
  obtain ⟨d, label, hd, rfl⟩ := exists_made h
  exact hd.usesExtend_named label

theorem ObjectShape.usesExtend_lowerExtending {env : Environment} {parents : List GenericRef}
    {name : Option String} {body : ObjectShape} {c : Combinator}
    (h : body.lowerExtending env parents name = .ok c) : c.usesExtend = true := by
  obtain ⟨predicates, -, h⟩ := bind_eq_ok.mp h
  obtain ⟨props, -, ⟨⟩⟩ := bind_eq_ok.mp h
  rfl

/-! ### Erased names -/

namespace Lowering

variable {env : Environment} {c : Combinator} {x : String}

/-- A nominal reference is not to an erased name. -/
theorem ne_simple_of_nominal {ref : GenericRef} (h : ref.classify env = .ok .nominal)
    (hx : env.isErased x = true) : ref.name ≠ .simple x := by
  intro hname
  rw [GenericRef.classify, hname] at h
  simp only [TypeName.simple, TypeName.simple?, GenericRef.classifySimple, hx] at h
  split_ifs at h <;> cases h

theorem Made.not_contains (h : Made env c) (hx : env.isErased x = true) :
    ¬ c.Contains (.ref (.simple x)) := by
  intro hcontains
  generalize hname : TypeName.simple x = n at hcontains
  cases h _ hcontains with
  | ref hnominal => exact ne_simple_of_nominal hnominal hx hname.symm

theorem Made.foldl_refinement (h : Made env c) (predicates : List Predicate) :
    Made env (predicates.foldl (.refinement · · none) c) := by
  induction predicates generalizing c with
  | nil => exact h
  | cons p ps ih => exact ih (h.refinement p)

/-- The own properties of an interface refer to no erased name. -/
theorem not_contains_ownMember {props : List (String × Combinator)}
    (hprops : ∀ c ∈ props.map (·.2), Made env c) (predicates : List Predicate)
    (hx : env.isErased x = true) : ¬ (ownMember props predicates).Contains (.ref (.simple x)) := by
  cases predicates with
  | nil =>
    rw [ownMember, Combinator.contains_iff_of_ne (by nofun)]
    rintro ⟨a, ha, hcontains⟩
    exact (hprops a ha).not_contains hx hcontains
  | cons p ps =>
    have hbase : Made env (.interface props none false) := .of_children .interface hprops
    exact (hbase.foldl_refinement (p :: ps)).not_contains hx

end Lowering

theorem StaticType.not_contains_lower {env : Environment} {t : StaticType} {name : Option String}
    {c : Combinator} {x : String} (h : t.lower env name = .ok c) (hx : env.isErased x = true) :
    ¬ c.Contains (.ref (.simple x)) := by
  obtain ⟨d, label, hd, rfl⟩ := exists_made h
  rw [Combinator.contains_ref_named]
  exact hd.not_contains hx

theorem ObjectShape.contains_lowerExtending_iff {env : Environment} {parents : List GenericRef}
    {name : Option String} {body : ObjectShape} {c : Combinator} {x : String}
    (h : body.lowerExtending env parents name = .ok c) (hx : env.isErased x = true) :
    c.Contains (.ref (.simple x)) ↔
      ∃ p ∈ parents, p.name = .simple x ∧ p.isRefinement = false := by
  obtain ⟨predicates, -, h⟩ := bind_eq_ok.mp h
  obtain ⟨props, hprops, ⟨⟩⟩ := bind_eq_ok.mp h
  have hown := Lowering.not_contains_ownMember
    ((Lowering.within_makes env Limits.typeDepth).properties hprops) predicates hx
  rw [Combinator.contains_iff_of_ne (by nofun)]
  constructor
  · rintro ⟨a, ha, hcontains⟩
    obtain ha | ha := List.mem_append.mp ha
    · obtain ⟨p, hp, rfl⟩ := List.mem_map.mp ha
      obtain ⟨hp, hplain⟩ := List.mem_filter.mp hp
      obtain heq | ⟨_, hnone, -⟩ := Combinator.contains_iff.mp hcontains
      · exact ⟨p, hp, Combinator.ref.inj heq, by simpa using hplain⟩
      · cases hnone
    · rw [List.mem_singleton.mp ha] at hcontains
      exact absurd hcontains hown
  · rintro ⟨p, hp, hname, hplain⟩
    refine ⟨.ref (.simple x), List.mem_append_left _ (List.mem_map.mpr ⟨p, ?_, by rw [hname]⟩),
      .refl⟩
    exact List.mem_filter.mpr ⟨hp, by simp [hplain]⟩

namespace Lowering

/-- No lowered type refers to an erased name. The check of an interface refers to an erased name
exactly if this stands among its parents, other than as a refinement. -/
theorem contains_erased_iff (env : Environment) (x : String) (hx : env.isErased x = true) :
    (∀ t name c, StaticType.lower env name t = .ok c → ¬ c.Contains (.ref (.simple x))) ∧
    ∀ body parents name c, ObjectShape.lowerExtending env parents name body = .ok c →
      (c.Contains (.ref (.simple x)) ↔
        ∃ p ∈ parents, p.name = .simple x ∧ p.isRefinement = false) := by
  constructor
  · intro t name c h
    exact StaticType.not_contains_lower h hx
  · intro body parents name c h
    exact ObjectShape.contains_lowerExtending_iff h hx

/-- The environment in which `Buffer` is a global. -/
def bufferGlobal : Environment := .root ["Buffer"] []

/-- The interface `I extends Base, Buffer { data: Array<Buffer> }`. -/
theorem bufferGlobal_contains :
    let buffer : GenericRef := ⟨.simple "Buffer", none⟩
    let base : GenericRef := ⟨.simple "Base", none⟩
    let data : StaticType := .generic ⟨.simple "Array", some [.generic buffer]⟩
    let body : ObjectShape := ⟨[⟨"data", data, false⟩], [], false⟩
    let c : Combinator :=
      .extend [.ref base.name, .ref buffer.name, .props [("data", .list .any none)]] (some "I")
    bufferGlobal.isErased "Buffer" = true ∧ data.lower bufferGlobal none = .ok (.list .any none) ∧
    ¬ (Combinator.list .any none).Contains (.ref buffer.name) ∧
    body.lowerExtending bufferGlobal [base, buffer] (some "I") = .ok c ∧
    c.Contains (.ref buffer.name) := by
  intro buffer base data body c
  have hbuffer : bufferGlobal.isErased "Buffer" = true := by decide
  have hdata : data.lower bufferGlobal none = .ok (.list .any none) := rfl
  have hc : body.lowerExtending bufferGlobal [base, buffer] (some "I") = .ok c := rfl
  obtain ⟨htypes, hinterfaces⟩ := contains_erased_iff bufferGlobal "Buffer" hbuffer
  refine ⟨hbuffer, hdata, htypes _ _ _ hdata, hc, (hinterfaces _ _ _ _ hc).mpr ?_⟩
  exact ⟨buffer, by simp, rfl, rfl⟩

/-- The interface without properties that extends `Buffer` refers to this name, although the name is
erased and the type `Buffer` is lowered to `any`. -/
theorem erasedParent_contained :
    let buffer : GenericRef := ⟨.simple "Buffer", none⟩
    let c : Combinator := .extend [.ref buffer.name, .props []] none
    bufferGlobal.isErased "Buffer" = true ∧
    (StaticType.generic buffer).lower bufferGlobal none = .ok .any ∧
    ObjectShape.empty.lowerExtending bufferGlobal [buffer] none = .ok c ∧
    c.Contains (.ref (.simple "Buffer")) :=
  ⟨by decide, rfl, rfl, .single List.mem_cons_self⟩

end Lowering

end TypeGuard
