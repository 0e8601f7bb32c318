import TypeGuard.Environment
import TypeGuard.Proofs.Lowering.Fault
import TypeGuard.Proofs.Resolution.Region

/-!
# Frames

A frame is a region together with the type parameters in scope where it begins, which all
declarations of the region are read with. The frames around a tree are nested: each adds type
parameters to those of the frames around it. A type is lowered alike in a frame and further in
unless a type parameter in between has a name that the type mentions.
-/

namespace TypeGuard

/-! ### Further type parameters -/

namespace Environment

variable {env : Environment} {ps qs : List TypeParam} {name : String}

@[simp] theorem child_nil (env : Environment) : env.child [] = env := rfl

theorem child_child (env : Environment) (ps qs : List TypeParam) :
    (env.child ps).child qs = env.child (ps ++ qs) := by
  simp [child]

theorem param?_child (h : ∀ p ∈ ps, p.name ≠ name) :
    (env.child ps).param? name = env.param? name := by
  have hnone : (ps.map fun p => (p.name, p.bound)).reverse.lookup name = none := by
    rw [List.lookup_eq_none_iff]
    intro x hx
    obtain ⟨p, hp, rfl⟩ := List.mem_map.mp (List.mem_reverse.mp hx)
    simpa using (h p hp).symm
  rw [param?, child, List.lookup_append, hnone, Option.none_or]
  rfl

/-- Whether a type parameter can take the name: no environment changes the fixed names, and a name
that is erased stays so. -/
def IsOpen (env : Environment) (name : String) : Prop :=
  name ∉ GenericRef.fixedNames ∧ env.isErased name = false

end Environment

/-- The lowering of the type comes to a reference with the name. -/
def StaticType.Mentions (env : Environment) (t : StaticType) (name : String) : Prop :=
  ∃ ref : GenericRef, Relation.ReflTransGen (StaticType.HasPart env) t (.generic ref) ∧
    ref.name.simple? = some name

theorem GenericRef.classify_child_of_isOpen {env : Environment} {ps : List TypeParam}
    {ref : GenericRef} (h : ∀ p ∈ ps, env.IsOpen p.name → ref.name.simple? ≠ some p.name) :
    ref.classify (env.child ps) = ref.classify env := by
  unfold classify
  cases hname : ref.name.simple? with
  | none => rfl
  | some name =>
    have herased : (env.child ps).isErased name = env.isErased name := rfl
    by_cases hopen : env.IsOpen name
    · have hparam : (env.child ps).param? name = env.param? name := by
        refine Environment.param?_child fun p hp heq => ?_
        exact h p hp (heq ▸ hopen) (hname.trans (congrArg some heq.symm))
      simp only [classifySimple, hparam, herased]
    · have hclosed : name ∈ fixedNames ∨ env.isErased name = true := by
        by_contra! hboth
        exact hopen ⟨hboth.1, Bool.eq_false_iff.mpr hboth.2⟩
      obtain hfixed | herased' := hclosed
      · simp only [fixedNames, List.mem_cons, List.not_mem_nil, or_false] at hfixed
        rcases hfixed with rfl | rfl | rfl | rfl | rfl <;> rfl
      · simp only [classifySimple, herased, herased', if_true]

theorem GenericRef.classify_child {env : Environment} {ps : List TypeParam} {ref : GenericRef}
    (h : ∀ p ∈ ps, ref.name.simple? ≠ some p.name) :
    ref.classify (env.child ps) = ref.classify env :=
  classify_child_of_isOpen fun p hp _ => h p hp

namespace StaticType

variable {env : Environment} {t : StaticType} {c : Combinator}

/-- Further type parameters make no difference to a type that mentions none of their names, those
apart that no type parameter can take. -/
theorem lower_child_eq {ps : List TypeParam} (name : Option String)
    (h : ∀ p ∈ ps, env.IsOpen p.name → ¬ t.Mentions env p.name) :
    t.lower (env.child ps) name = t.lower env name := by
  have hwithin : Lowering.within (env.child ps) Limits.typeDepth name t =
      Lowering.within env Limits.typeDepth name t := by
    refine Lowering.within_eq_within fun ref hreach => ?_
    exact ref.classify_child_of_isOpen fun p hp hopen hname => h p hp hopen ⟨ref, hreach, hname⟩
  rw [lower, lowerMarked, hwithin]
  rfl

theorem lower_child {ps : List TypeParam} (hps : ∀ p ∈ ps, ¬ t.Mentions env p.name)
    (h : t.lower (env.child ps) none = .ok c) : t.lower env none = .ok c :=
  (lower_child_eq none fun p hp _ => hps p hp).symm.trans h

end StaticType

/-! ### Frames -/

/-- A region, and the environment that it begins in. -/
structure Frame where
  region : Region
  env : Environment

namespace Frame

def record (F : Frame) (names : List String) : Frame := { F with region := F.region.record names }

/-- The frame of a region within. -/
def inner (F : Frame) (r : Region) : Frame := ⟨r, F.env⟩

/-- The frame of a region within that has type parameters of its own. -/
def generic (F : Frame) (r : Region) (ps : List TypeParam) : Frame := ⟨r, F.env.child ps⟩

/-- The frame adds type parameters to those of each of the frames around it. -/
def Within (F : Frame) (Γ : List Frame) : Prop := ∀ G ∈ Γ, ∃ ps, F.env = G.env.child ps

/-- One of the frames declares the name with the type, and none of those further in has recorded the
name so far. -/
inductive SeenFrom (name : String) (type : StaticType) (G : Frame) : List Frame → Prop where
  | here {Γ} : (name, some type) ∈ G.region.declared → SeenFrom name type G (G :: Γ)
  | outer {H Γ} : name ∉ H.region.recorded → SeenFrom name type G Γ → SeenFrom name type G (H :: Γ)

/-- The innermost of the frames that bind the name. -/
inductive BoundIn (name : String) (G : Frame) : List Frame → Prop where
  | here {Γ} : G.region.Binds name → BoundIn name G (G :: Γ)
  | outer {H Γ} : ¬ H.region.Binds name → BoundIn name G Γ → BoundIn name G (H :: Γ)

variable {F G H : Frame} {Γ : List Frame} {name : String} {type : StaticType}

theorem Within.nil : F.Within [] := nofun

theorem Within.generic (h : F.Within Γ) (r : Region) (ps : List TypeParam) :
    (F.generic r ps).Within (F :: Γ) := by
  intro G hG
  obtain rfl | hG := List.mem_cons.mp hG
  · exact ⟨ps, rfl⟩
  · obtain ⟨qs, hqs⟩ := h G hG
    refine ⟨qs ++ ps, ?_⟩
    rw [← Environment.child_child, ← hqs]
    rfl

theorem Within.inner (h : F.Within Γ) (r : Region) : (F.inner r).Within (F :: Γ) := h.generic r []

theorem Within.record (h : F.Within Γ) (names : List String) : (F.record names).Within Γ := h

theorem SeenFrom.mem (h : SeenFrom name type G Γ) : G ∈ Γ := by
  induction h with
  | here _ => exact List.mem_cons_self ..
  | outer _ _ ih => exact List.mem_cons_of_mem _ ih

theorem exists_seenFrom (h : SeenAs name type (Γ.map region)) : ∃ G, SeenFrom name type G Γ := by
  induction Γ with
  | nil => cases h
  | cons G Γ ih =>
    cases h with
    | here hdeclared => exact ⟨G, .here hdeclared⟩
    | outer hname hrest =>
      obtain ⟨H, hH⟩ := ih hrest
      exact ⟨H, .outer hname hH⟩

/-- A name that was recorded where it is bound is seen from there. -/
theorem SeenFrom.eq_of_boundIn (h : SeenFrom name type G Γ) (hbound : BoundIn name H Γ)
    (hrecorded : name ∈ H.region.recorded) : H = G := by
  induction h with
  | here hdeclared =>
    cases hbound with
    | here _ => rfl
    | outer hbinds _ => exact absurd ⟨_, hdeclared⟩ hbinds
  | outer hname _ ih =>
    cases hbound with
    | here _ => exact absurd hrecorded hname
    | outer _ hrest => exact ih hrest

end Frame

end TypeGuard
