import TypeGuard.Proofs.Lowering
import TypeGuard.Proofs.Lowering.Fault

/-!
# Heights of checks

One limit bounds the levels of a type and the levels of checks that an evaluation follows. Most
types put one level on top of the checks of their parts. But an optional property puts two, and an
intersection one for each predicate of its members, so that the check of a type may be higher than
an evaluation follows it. How high it is tells `StaticType.lower_height`.
-/

namespace TypeGuard

open Results

/-- How many levels a property puts on top of the check of its type. -/
def ObjectProperty.levels (p : ObjectProperty) : Nat := if p.optional then 2 else 1

/-- How many levels a reference of a kind puts on top of the check of another type. -/
def ReferenceKind.PartUnder (args : List StaticType) : ReferenceKind → Nat → StaticType → Prop
  | .list, n, u => n = 1 ∧ args = [u]
  | .exact, n, u => ∃ shape key p, args = [.object shape] ∧ shape.lastProperty? key = some p ∧
      n = p.levels ∧ u = p.value
  | .typeParam (some bound), n, u => n = 0 ∧ u = bound
  | _, _, _ => False

/-- The levels of a reference of a kind that is lowered without another type. -/
def ReferenceKind.ownLevels : ReferenceKind → Nat
  | .refinement _ => 1
  | _ => 0

namespace StaticType

/-- Whether a type is lowered to a predicate that is still to be put on top of a carrier. -/
def isRefinement (env : Environment) (t : StaticType) : Bool :=
  match t.lowerMarked env none with
  | .ok l => l.predicate.isSome
  | .error _ => false

/-- How many levels an intersection puts on top of the check of a member. The check of a refinement
has the level of its own predicate already. -/
def conjunctLevels (env : Environment) (members : List StaticType) (member : StaticType) : Nat :=
  let predicates := members.countP (·.isRefinement env)
  let plain := members.countP (!·.isRefinement env)
  if member.isRefinement env then predicates - 1
  else predicates + if plain ≤ 1 then 0 else 1

/-- The lowering of the first type goes on to the second one and puts a number of levels on top of
its check. -/
inductive PartUnder (env : Environment) : StaticType → Nat → StaticType → Prop where
  | elem {elem} : PartUnder env (.list elem) 1 elem
  | inner {inner} : PartUnder env (.nullable inner) 1 inner
  | component {elems elem} : elem ∈ elems → PartUnder env (.tuple elems) 1 elem
  | alternative {members member} : isEnumeration members = false → member ∈ members →
      PartUnder env (.union members) 1 member
  | conjunct {members member} : member ∈ members →
      PartUnder env (.intersection members) (conjunctLevels env members member) member
  | property {shape key p} : shape.indexers = [] → shape.lastProperty? key = some p →
      PartUnder env (.object shape) p.levels p.value
  | indexerKey {shape indexer} : shape.indexers = [indexer] →
      PartUnder env (.object shape) 1 indexer.key
  | indexerValue {shape indexer} : shape.indexers = [indexer] →
      PartUnder env (.object shape) 1 indexer.value
  | reference {ref kind n u} : ref.classify env = .ok kind → kind.PartUnder ref.args n u →
      PartUnder env (.generic ref) n u

/-- The levels of a check that has no parts. -/
def ownLevels (env : Environment) : StaticType → Nat
  | .literal (.number _) | .literal (.boolean _) => 1
  | .generic ref =>
    match ref.classify env with
    | .ok kind => kind.ownLevels
    | .error _ => 0
  | _ => 0

/-- A way down from a type over a number of steps to parts, on which its check has a number of
levels. -/
inductive Nests (env : Environment) : StaticType → Nat → Nat → Prop where
  | own {t} : Nests env t 0 (t.ownLevels env)
  | part {t u n steps levels} : t.PartUnder env n u → Nests env u steps levels →
      Nests env t (steps + 1) (n + levels)

variable {env : Environment} {n : Nat} {u : StaticType} {elems members : List StaticType}
  {shape : ObjectShape}

theorem partUnder_list_iff {elem : StaticType} :
    (list elem).PartUnder env n u ↔ n = 1 ∧ u = elem :=
  ⟨fun | .elem => ⟨rfl, rfl⟩, fun ⟨hn, hu⟩ => hn ▸ hu ▸ .elem⟩

theorem partUnder_nullable_iff {inner : StaticType} :
    (nullable inner).PartUnder env n u ↔ n = 1 ∧ u = inner :=
  ⟨fun | .inner => ⟨rfl, rfl⟩, fun ⟨hn, hu⟩ => hn ▸ hu ▸ .inner⟩

theorem partUnder_tuple_iff : (tuple elems).PartUnder env n u ↔ n = 1 ∧ u ∈ elems :=
  ⟨fun | .component hmem => ⟨rfl, hmem⟩, fun ⟨hn, hmem⟩ => hn ▸ .component hmem⟩

theorem partUnder_union_iff :
    (union members).PartUnder env n u ↔ isEnumeration members = false ∧ n = 1 ∧ u ∈ members :=
  ⟨fun | .alternative hmixed hmem => ⟨hmixed, rfl, hmem⟩,
    fun ⟨hmixed, hn, hmem⟩ => hn ▸ .alternative hmixed hmem⟩

theorem partUnder_intersection_iff :
    (intersection members).PartUnder env n u ↔ n = conjunctLevels env members u ∧ u ∈ members :=
  ⟨fun | .conjunct hmem => ⟨rfl, hmem⟩, fun ⟨hn, hmem⟩ => hn ▸ .conjunct hmem⟩

theorem partUnder_object_iff (h : shape.indexers = []) :
    (object shape).PartUnder env n u ↔
      ∃ key p, shape.lastProperty? key = some p ∧ n = p.levels ∧ u = p.value := by
  constructor
  · intro hu
    cases hu with
    | property _ hp => exact ⟨_, _, hp, rfl, rfl⟩
    | indexerKey hindexer | indexerValue hindexer => cases h.symm.trans hindexer
  · rintro ⟨key, p, hp, rfl, rfl⟩
    exact .property h hp

theorem partUnder_indexer_iff {indexer : ObjectIndexer} (h : shape.indexers = [indexer]) :
    (object shape).PartUnder env n u ↔ n = 1 ∧ (u = indexer.key ∨ u = indexer.value) := by
  constructor
  · intro hu
    cases hu with
    | property hnone => cases h.symm.trans hnone
    | indexerKey hindexer =>
      cases h.symm.trans hindexer
      exact ⟨rfl, .inl rfl⟩
    | indexerValue hindexer =>
      cases h.symm.trans hindexer
      exact ⟨rfl, .inr rfl⟩
  · rintro ⟨rfl, rfl | rfl⟩
    · exact .indexerKey h
    · exact .indexerValue h

theorem partUnder_generic_iff {ref : GenericRef} {kind : ReferenceKind}
    (h : ref.classify env = .ok kind) :
    (generic ref).PartUnder env n u ↔ kind.PartUnder ref.args n u := by
  constructor
  · intro hu
    cases hu with
    | reference h' hu =>
      cases h.symm.trans h'
      exact hu
  · exact .reference h

end StaticType

namespace Combinator

theorem levels_le_iff {cs : List Combinator} {n : Nat} :
    levels cs ≤ n ↔ ∀ c ∈ cs, 1 + c.height ≤ n := by
  induction cs with
  | nil => simp [levels]
  | cons c cs ih =>
    rw [levels, List.forall_mem_cons, ← ih]
    omega

end Combinator

namespace Lowering

variable {env : Environment} {sub : Sub} {name : Option String} {t : StaticType} {l : Lowered}
  {height : Nat}

/-! ### Heights of single constructions -/

/-- A part is lowered and fits, under the levels on top of it, into a height. -/
def Fits (sub : Sub) (height levels : Nat) (u : StaticType) : Prop :=
  ∃ c, part sub u = .ok c ∧ levels + c.height ≤ height

theorem fits_iff {u : StaticType} {c : Combinator} (h : part sub u = .ok c) (levels : Nat) :
    Fits sub height levels u ↔ levels + c.height ≤ height := by
  simp [Fits, h]

/-- One level on top of a part. -/
theorem succ_height {u : StaticType} {c : Combinator} (h : part sub u = .ok c) :
    c.height + 1 ≤ height ↔ Fits sub height 1 u := by
  rw [fits_iff h, Nat.add_comm]

theorem parts_height {types : List StaticType} {cs : List Combinator}
    (h : parts sub types = .ok cs) :
    Combinator.levels cs ≤ height ↔ ∀ u ∈ types, Fits sub height 1 u := by
  rw [Combinator.levels_le_iff]
  exact forall_mem_mapM h

theorem property_height {p : ObjectProperty} {entry : String × Combinator}
    (h : property sub p = .ok entry) :
    1 + entry.2.height ≤ height ↔ Fits sub height p.levels p.value := by
  obtain ⟨c, hc, ⟨⟩⟩ := bind_eq_ok.mp h
  rw [fits_iff hc, ObjectProperty.levels]
  cases p.optional with
  | false => exact Iff.rfl
  | true =>
    simp only [if_true, Combinator.orNil, Combinator.height]
    omega

theorem properties_height {shape : ObjectShape} {props : List (String × Combinator)}
    (h : properties sub shape.properties = .ok props) :
    Combinator.propLevels props ≤ height ↔
      ∀ key p, shape.lastProperty? key = some p → Fits sub height p.levels p.value := by
  rw [Combinator.propLevels_eq, Combinator.levels_le_iff, List.forall_mem_map]
  constructor
  · intro hall key p hp
    obtain ⟨c, hc⟩ := exists_mem_properties h hp
    obtain ⟨p', hp', hproperty⟩ := (mem_properties_iff h).mp hc
    obtain rfl := Option.some.inj (hp.symm.trans hp')
    exact (property_height hproperty).mp (hall (key, c) hc)
  · rintro hall ⟨key, c⟩ hc
    obtain ⟨p, hp, hproperty⟩ := (mem_properties_iff h).mp hc
    exact (property_height hproperty).mpr (hall key p hp)

theorem height_close (l : Lowered) (name : Option String) :
    (l.close name).height = (l.close none).height := by
  unfold Lowered.close
  split <;> rfl

theorem height_stack (c : Combinator) (name : Option String) (ps : List Predicate) :
    (stack c name ps).height = ps.length + c.height := by
  induction ps generalizing c with
  | nil => rw [stack, List.length_nil, Nat.zero_add]
  | cons p ps ih =>
    cases ps with
    | nil => rw [stack, Combinator.height, List.length_singleton, Nat.add_comm]
    | cons q qs =>
      have hstack : stack c name (p :: q :: qs) = stack (.refinement c p none) name (q :: qs) := rfl
      rw [hstack, ih, Combinator.height]
      simp only [List.length_cons]
      omega

theorem height_meet_le_iff {cs : List Combinator} :
    (meet name cs).height ≤ height ↔
      ∀ c ∈ cs, (if cs.length ≤ 1 then 0 else 1) + c.height ≤ height := by
  match cs with
  | [] => simp [meet, Combinator.any, Combinator.height]
  | [c] => simp [meet]
  | c :: d :: cs =>
    have hmeet : meet name (c :: d :: cs) = .intersection (c :: d :: cs) name := rfl
    rw [hmeet, Combinator.height, Combinator.levels_le_iff, if_neg (by simp)]

/-! ### Intersections -/

/-- Refinements are lowered to a carrier that everything passes and a predicate on top of it, and
other types to a carrier only. -/
def Marks (env : Environment) (sub : Sub) : Prop :=
  ∀ u l, sub u = .ok l →
    if u.isRefinement env then ∃ p, l = ⟨.any, some p⟩ else l.predicate = none

theorem within_marks {n : Nat} (hn : n ≤ Limits.typeDepth) : Marks env (within env n none) := by
  intro u l hl
  have hmarked : u.isRefinement env = l.predicate.isSome := by
    rw [StaticType.isRefinement, StaticType.lowerMarked, within_mono hn u l hl]
  have hdecides := within_preserves env .empty n none u l hl
  rw [hmarked]
  generalize u.Conforms env .empty = P at hdecides
  cases hdecides with
  | plain => rfl
  | marked => exact ⟨_, rfl⟩

variable (hsub : Marks env sub)

include hsub

theorem part_of_isRefinement {u : StaticType} (hl : sub u = .ok l) (h : u.isRefinement env = true) :
    ∃ c, part sub u = .ok c ∧ c.height = 1 := by
  have hmark := hsub u l hl
  rw [if_pos h] at hmark
  obtain ⟨p, rfl⟩ := hmark
  exact ⟨_, map_eq_ok.mpr ⟨_, hl, rfl⟩, rfl⟩

/-- The predicates of an intersection are those of its refinements, and the plain members the checks
of the other ones. -/
theorem members_lowered {members : List StaticType} {ls : List Lowered}
    (h : members.mapM sub = .ok ls) :
    (ls.filterMap (·.predicate)).length = members.countP (·.isRefinement env) ∧
    ((ls.filter (·.predicate.isNone)).map (·.carrier)).length =
      members.countP (!·.isRefinement env) ∧
    ∀ c, c ∈ (ls.filter (·.predicate.isNone)).map (·.carrier) ↔
      ∃ u ∈ members, u.isRefinement env = false ∧ part sub u = .ok c := by
  have hrel := mapM_eq_ok.mp h
  clear h
  induction hrel with
  | nil => simp
  | @cons u l members ls hl _ ih =>
    obtain ⟨hpredicates, hplain, hmem⟩ := ih
    have hmark := hsub u l hl
    cases hu : u.isRefinement env with
    | true =>
      rw [if_pos hu] at hmark
      obtain ⟨p, rfl⟩ := hmark
      refine ⟨by simp [hu, hpredicates], by simpa [hu] using hplain, ?_⟩
      intro c
      rw [List.filter_cons_of_neg (by simp), hmem, List.exists_mem_cons_iff]
      simp [hu]
    | false =>
      rw [hu, if_neg Bool.false_ne_true] at hmark
      have hpart : part sub u = .ok l.carrier := by
        rw [part, hl, Except.map, Lowered.close, hmark]
      refine ⟨by simp [hu, hmark, hpredicates], by simpa [hu, hmark] using hplain, ?_⟩
      intro c
      have hcarrier : part sub u = .ok c ↔ c = l.carrier := by
        rw [hpart, Except.ok.injEq, eq_comm]
      rw [List.filter_cons_of_pos (by simp [hmark]), List.map_cons, List.mem_cons, hmem,
        List.exists_mem_cons_iff]
      simp [hu, hcarrier]

/-- The predicates of an intersection stand on top of its plain members, and these one level below
their intersection unless there is one only. -/
theorem intersection_height {members : List StaticType} {c : Combinator}
    (h : intersection sub members name = .ok c) :
    c.height ≤ height ↔
      ∀ u ∈ members, Fits sub height (StaticType.conjunctLevels env members u) u := by
  obtain ⟨ls, hls, ⟨⟩⟩ := bind_eq_ok.mp h
  obtain ⟨hpredicates, hplain, hmem⟩ := members_lowered hsub hls
  rw [height_stack, hpredicates]
  constructor
  · intro hle u hu
    have hmeet := height_meet_le_iff.mp (Nat.le_sub_of_add_le' hle)
    rw [StaticType.conjunctLevels]
    cases hu' : u.isRefinement env with
    | true =>
      obtain ⟨l, hl⟩ := exists_ok_of_mem_mapM hls hu
      obtain ⟨c, hc, hheight⟩ := part_of_isRefinement hsub hl hu'
      have hpos : 0 < members.countP (·.isRefinement env) := List.countP_pos_iff.mpr ⟨u, hu, hu'⟩
      rw [if_pos rfl, fits_iff hc, hheight]
      omega
    | false =>
      obtain ⟨l, hl⟩ := exists_ok_of_mem_mapM hls hu
      have hc : part sub u = .ok (l.close none) := map_eq_ok.mpr ⟨l, hl, rfl⟩
      have hone := hmeet _ ((hmem _).mpr ⟨u, hu, hu', hc⟩)
      rw [hplain] at hone
      rw [if_neg Bool.false_ne_true, fits_iff hc]
      omega
  · intro hall
    have hle : members.countP (·.isRefinement env) ≤ height := by
      rcases Nat.eq_zero_or_pos (members.countP (·.isRefinement env)) with hzero | hpos
      · omega
      · obtain ⟨u, hu, hu'⟩ := List.countP_pos_iff.mp hpos
        obtain ⟨l, hl⟩ := exists_ok_of_mem_mapM hls hu
        obtain ⟨c, hc, hheight⟩ := part_of_isRefinement hsub hl hu'
        have hfits := (fits_iff hc _).mp (hall u hu)
        rw [StaticType.conjunctLevels, if_pos hu', hheight] at hfits
        omega
    have hmeet : (meet (if (ls.filterMap (·.predicate)).isEmpty then name else none)
        ((ls.filter (·.predicate.isNone)).map (·.carrier))).height ≤
          height - members.countP (·.isRefinement env) := by
      rw [height_meet_le_iff, hplain]
      intro c hc
      obtain ⟨u, hu, hu', hpart⟩ := (hmem c).mp hc
      have hfits := (fits_iff hpart _).mp (hall u hu)
      rw [StaticType.conjunctLevels, hu', if_neg Bool.false_ne_true] at hfits
      omega
    omega

/-! ### Levels -/

/-- The check of a type fits into a height if its own levels do and its parts do. -/
def FitsAll (env : Environment) (sub : Sub) (height : Nat) (t : StaticType) : Prop :=
  t.ownLevels env ≤ height ∧ ∀ u n, t.PartUnder env n u → Fits sub height n u

omit hsub

theorem fitsAll_leaf (hown : t.ownLevels env = 0) (hparts : ∀ u n, ¬ t.PartUnder env n u) :
    FitsAll env sub height t :=
  ⟨hown ▸ Nat.zero_le height, fun u n hu => absurd hu (hparts u n)⟩

theorem literal_height (value : Literal) :
    (literal value name).height ≤ height ↔ FitsAll env sub height (.literal value) := by
  have hown : (literal value name).height = (StaticType.literal value).ownLevels env := by
    cases value <;> rfl
  rw [hown]
  exact ⟨fun hle => ⟨hle, nofun⟩, And.left⟩

theorem union_height {members : List StaticType} {c : Combinator}
    (h : union sub members name = .ok c) :
    c.height ≤ height ↔ FitsAll env sub height (.union members) := by
  unfold union at h
  split at h
  · rename_i s ss hliterals
    cases h
    have henum : StaticType.isEnumeration members = true := isEnumeration_iff.mpr ⟨s, ss, hliterals⟩
    refine iff_of_true (Nat.zero_le _) (fitsAll_leaf rfl ?_)
    simp [StaticType.partUnder_union_iff, henum]
  · rename_i hliterals
    obtain ⟨cs, hcs, rfl⟩ := map_eq_ok.mp h
    have hmixed : StaticType.isEnumeration members = false := by
      rw [Bool.eq_false_iff]
      intro henum
      obtain ⟨s, ss, hs⟩ := isEnumeration_iff.mp henum
      exact hliterals s ss hs
    rw [Combinator.height, parts_height hcs]
    simp [FitsAll, StaticType.ownLevels, StaticType.partUnder_union_iff, hmixed]

theorem object_height {shape : ObjectShape} {c : Combinator} (h : object sub shape name = .ok c) :
    c.height ≤ height ↔ FitsAll env sub height (.object shape) := by
  unfold object at h
  split at h
  · rename_i hindexers
    obtain ⟨props, hprops, rfl⟩ := map_eq_ok.mp h
    rw [Combinator.height, properties_height hprops]
    simp only [FitsAll, StaticType.partUnder_object_iff hindexers]
    constructor
    · intro hall
      refine ⟨Nat.zero_le _, ?_⟩
      rintro u n ⟨key, p, hp, rfl, rfl⟩
      exact hall key p hp
    · rintro ⟨-, hall⟩ key p hp
      exact hall _ _ ⟨key, p, hp, rfl, rfl⟩
  · rename_i indexer hindexers
    obtain ⟨key, hkey, h⟩ := bind_eq_ok.mp h
    obtain ⟨value, hvalue, ⟨⟩⟩ := bind_eq_ok.mp h
    rw [Combinator.height]
    have hboth : max key.height value.height + 1 ≤ height ↔
        Fits sub height 1 indexer.key ∧ Fits sub height 1 indexer.value := by
      rw [fits_iff hkey, fits_iff hvalue]
      omega
    rw [hboth]
    simp [FitsAll, StaticType.ownLevels, StaticType.partUnder_indexer_iff hindexers]
  · cases h

theorem generic_height {ref : GenericRef} (h : generic env sub ref name = .ok l) :
    (l.close name).height ≤ height ↔ FitsAll env sub height (.generic ref) := by
  obtain ⟨kind, hkind, h⟩ := bind_eq_ok.mp h
  simp only [FitsAll, StaticType.ownLevels, hkind, StaticType.partUnder_generic_iff hkind]
  clear hkind
  match kind, h with
  | .list, h =>
    simp only at h
    split at h
    · rename_i elem hargs
      obtain ⟨c, hc, ⟨⟩⟩ := bind_eq_ok.mp h
      refine (succ_height hc).trans ?_
      simp [ReferenceKind.ownLevels, ReferenceKind.PartUnder, hargs]
    · cases h
  | .exact, h =>
    simp only at h
    split at h
    · rename_i shape hargs
      obtain ⟨props, hprops, ⟨⟩⟩ := bind_eq_ok.mp h
      refine (properties_height hprops).trans ?_
      constructor
      · intro hall
        refine ⟨Nat.zero_le _, ?_⟩
        rintro u n ⟨shape', key, p, hargs', hp, rfl, rfl⟩
        cases hargs.symm.trans hargs'
        exact hall key p hp
      · rintro ⟨-, hall⟩ key p hp
        exact hall _ _ ⟨shape, key, p, hargs, hp, rfl, rfl⟩
    · cases h
  | .typeParam (some bound), h =>
    have hc : part sub bound = .ok (l.close none) := map_eq_ok.mpr ⟨l, h, rfl⟩
    have hheight : (l.close name).height ≤ height ↔ Fits sub height 0 bound := by
      rw [fits_iff hc, Nat.zero_add, height_close]
    refine hheight.trans ?_
    simp [ReferenceKind.ownLevels, ReferenceKind.PartUnder]
  | .refinement predicate, rfl => exact ⟨fun hle => ⟨hle, nofun⟩, And.left⟩
  | .function, rfl | .object, rfl | .promise, rfl | .erased, rfl | .reify _, rfl
  | .typeParam none, rfl | .nominal, rfl =>
    exact iff_of_true (Nat.zero_le _) ⟨Nat.zero_le _, nofun⟩

/-- One level of a type, by the heights of its parts. -/
theorem level_height (hsub : Marks env sub) (h : level env sub name t = .ok l) :
    (l.close name).height ≤ height ↔ FitsAll env sub height t := by
  cases t with
  | primitive | existential | typeof | function =>
    cases h
    exact iff_of_true (Nat.zero_le _) (fitsAll_leaf rfl nofun)
  | literal value =>
    cases h
    exact literal_height value
  | list elem =>
    obtain ⟨c, hc, rfl⟩ := map_eq_ok.mp h
    refine (succ_height hc).trans ?_
    simp [FitsAll, StaticType.ownLevels, StaticType.partUnder_list_iff]
  | nullable inner =>
    obtain ⟨c, hc, rfl⟩ := map_eq_ok.mp h
    refine (succ_height hc).trans ?_
    simp [FitsAll, StaticType.ownLevels, StaticType.partUnder_nullable_iff]
  | tuple elems =>
    obtain ⟨cs, hcs, rfl⟩ := map_eq_ok.mp h
    refine (parts_height hcs).trans ?_
    simp [FitsAll, StaticType.ownLevels, StaticType.partUnder_tuple_iff]
  | union members =>
    obtain ⟨c, hc, rfl⟩ := map_eq_ok.mp h
    exact union_height hc
  | intersection members =>
    obtain ⟨c, hc, rfl⟩ := map_eq_ok.mp h
    refine (intersection_height hsub hc).trans ?_
    simp [FitsAll, StaticType.ownLevels, StaticType.partUnder_intersection_iff]
  | object shape =>
    obtain ⟨c, hc, rfl⟩ := map_eq_ok.mp h
    exact object_height hc
  | generic ref => exact generic_height h
  | unsupported kind => cases h

/-- By induction on the budget of levels. -/
theorem within_height {n : Nat} (hn : n ≤ Limits.typeDepth) (h : within env n name t = .ok l) :
    (l.close name).height ≤ height ↔
      ∀ steps levels, t.Nests env steps levels → levels ≤ height := by
  induction n generalizing name t l height with
  | zero => cases h
  | succ n ih =>
    have hn' : n ≤ Limits.typeDepth := Nat.le_of_succ_le hn
    have hlevel (height : Nat) : (l.close name).height ≤ height ↔ _ :=
      level_height (within_marks hn') h
    constructor
    · intro hle steps levels hnests
      obtain ⟨hown, hparts⟩ := (hlevel height).mp hle
      cases hnests with
      | own => exact hown
      | part hpart hrest =>
        obtain ⟨c, hc, hfits⟩ := hparts _ _ hpart
        obtain ⟨l', hl', rfl⟩ := map_eq_ok.mp hc
        have hle' := (ih hn' hl').mp (Nat.le_refl _) _ _ hrest
        omega
    · intro hall
      refine (hlevel height).mpr ⟨hall 0 _ .own, ?_⟩
      intro u k hpart
      obtain ⟨c, hc, -⟩ := ((hlevel _).mp (Nat.le_refl _)).2 u k hpart
      obtain ⟨l', hl', rfl⟩ := map_eq_ok.mp hc
      have hown := hall _ _ (.part hpart .own)
      have hle : (l'.close none).height ≤ height - k := by
        rw [ih hn' hl']
        intro steps levels hnests
        have hle := hall _ _ (.part hpart hnests)
        omega
      exact (fits_iff hc k).mpr (by omega)

/-- A type that is lowered has parts within the budget of levels only. -/
theorem steps_lt {n steps levels : Nat} (hn : n ≤ Limits.typeDepth)
    (h : within env n name t = .ok l) (hnests : t.Nests env steps levels) : steps < n := by
  induction hnests generalizing n name l with
  | own =>
    cases n with
    | zero => cases h
    | succ n => exact Nat.succ_pos n
  | part hpart _ ih =>
    cases n with
    | zero => cases h
    | succ n =>
      have hn' : n ≤ Limits.typeDepth := Nat.le_of_succ_le hn
      obtain ⟨c, hc, -⟩ :=
        ((level_height (within_marks hn') h).mp (Nat.le_refl _)).2 _ _ hpart
      obtain ⟨l', hl', -⟩ := map_eq_ok.mp hc
      exact Nat.succ_lt_succ (ih hn' hl')

end Lowering

namespace StaticType

/-- The check of a type is as high as the levels that nest in the type, over fewer steps than the
limit. If there is no more than one level for each step and one at the end, then the check is within
the limit, and the values that it accepts are those that conform to the type, unless it refers to a
type by name. In general this takes a budget above the levels that nest in the type. -/
theorem lower_height {env : Environment} {name : Option String} {t : StaticType} {c : Combinator}
    (h : t.lower env name = .ok c) :
    (∀ height, c.height ≤ height ↔ ∀ steps levels, t.Nests env steps levels → levels ≤ height) ∧
    (∀ steps levels, t.Nests env steps levels → steps < Limits.typeDepth) ∧
    ((∀ steps levels, t.Nests env steps levels → levels ≤ steps + 1) →
      c.height ≤ Limits.typeDepth ∧
      (c.isClosed = true → ∀ m v, m.accepts c v = true ↔ t.Conforms env m v)) ∧
    (c.isClosed = true → ∀ budget,
      (∀ steps levels, t.Nests env steps levels → levels < budget) →
      ∀ m v, Model.passes (m.checkWithin budget c v) = true ↔ t.Conforms env m v) := by
  obtain ⟨l, hl, rfl⟩ := map_eq_ok.mp h
  have hheight (height) : (l.close name).height ≤ height ↔ _ :=
    Lowering.within_height (Nat.le_refl _) hl
  have hsteps (steps levels) : t.Nests env steps levels → steps < Limits.typeDepth :=
    Lowering.steps_lt (Nat.le_refl _) hl
  refine ⟨hheight, hsteps, ?_, ?_⟩
  · intro hsingle
    have hle : (l.close name).height ≤ Limits.typeDepth := by
      rw [hheight]
      intro steps levels hnests
      exact Nat.le_trans (hsingle steps levels hnests) (hsteps steps levels hnests)
    refine ⟨hle, ?_⟩
    intro hclosed m v
    exact lower_decides h hclosed _ (Nat.lt_succ_of_le hle) v
  · intro hclosed budget hbudget m v
    have hpos : 0 < budget := Nat.zero_lt_of_lt (hbudget _ _ .own)
    have hle : (l.close name).height ≤ budget - 1 := by
      rw [hheight]
      intro steps levels hnests
      exact Nat.le_sub_one_of_lt (hbudget steps levels hnests)
    exact lower_decides h hclosed budget (by omega) v

/-- The type `{ a?: { a?: … number } }` with a number of optional properties in each other. -/
def optionalRecord : Nat → StaticType
  | 0 => .primitive .number
  | n + 1 => .object ⟨[⟨"a", optionalRecord n, true⟩], [], false⟩

/-- The check of `optionalRecord`. -/
def optionalRecordCheck : Nat → Combinator
  | 0 => .builtin .number
  | n + 1 => .interface [("a", (optionalRecordCheck n).orNil)] none false

/-- A value of the type `optionalRecord` in which no property is left out. -/
def fullRecord : Nat → Json
  | 0 => .int 1
  | n + 1 => .obj [("a", fullRecord n)]

theorem within_optionalRecord (env : Environment) {n k : Nat} (h : n < k) :
    Lowering.within env k none (optionalRecord n) = .ok (.plain (optionalRecordCheck n)) := by
  induction n generalizing k with
  | zero =>
    obtain ⟨k, rfl⟩ := Nat.exists_eq_succ_of_ne_zero (Nat.ne_zero_of_lt h)
    rfl
  | succ n ih =>
    obtain ⟨k, rfl⟩ := Nat.exists_eq_succ_of_ne_zero (Nat.ne_zero_of_lt h)
    have hpart : Lowering.part (Lowering.within env k none) (optionalRecord n) =
        .ok (optionalRecordCheck n) :=
      map_eq_ok.mpr ⟨_, ih (Nat.lt_of_succ_lt_succ h), rfl⟩
    simp only [Lowering.within, optionalRecord, Lowering.level, Lowering.object,
      Lowering.properties, Lowering.property, List.mapM_cons, hpart]
    rfl

theorem lower_optionalRecord (env : Environment) {n : Nat} (h : n < Limits.typeDepth) :
    (optionalRecord n).lower env none = .ok (optionalRecordCheck n) :=
  map_eq_ok.mpr ⟨_, within_optionalRecord env h, rfl⟩

theorem isClosed_optionalRecordCheck (n : Nat) : (optionalRecordCheck n).isClosed = true := by
  induction n with
  | zero => rfl
  | succ n ih =>
    simp [optionalRecordCheck, Combinator.orNil, Combinator.isClosed, Combinator.allPropsClosed, ih]

theorem height_optionalRecordCheck (n : Nat) : (optionalRecordCheck n).height = 2 * n := by
  induction n with
  | zero => rfl
  | succ n ih =>
    simp [optionalRecordCheck, Combinator.orNil, Combinator.height, Combinator.propLevels, ih]
    omega

theorem conforms_fullRecord (env : Environment) (m : Model) (n : Nat) :
    (optionalRecord n).Conforms env m (fullRecord n) := by
  induction n with
  | zero => exact .primitive rfl
  | succ n ih =>
    refine .object rfl (.mk ?_) nofun
    intro key p hp
    have hmem := List.mem_of_find?_eq_some hp
    obtain rfl := List.mem_singleton.mp (List.mem_reverse.mp hmem)
    obtain rfl : "a" = key := by simpa using List.find?_some hp
    exact .present ih

/-- Two levels of the budget are used up by each property. -/
theorem not_passes_fullRecord (m : Model) (n : Nat) :
    Model.passes (m.checkWithin (2 * n + 1) (optionalRecordCheck (n + 1)) (fullRecord (n + 1))) =
      false := by
  induction n with
  | zero => rfl
  | succ n ih =>
    have hinner : Model.passes (m.checkWithin (2 * (n + 1)) (optionalRecordCheck (n + 1)).orNil
        (fullRecord (n + 1))) = false := ih
    rw [Bool.eq_false_iff]
    intro hpasses
    obtain ⟨hprops, -⟩ := Model.passes_level_interface.mp hpasses
    exact Bool.false_ne_true (hinner.symm.trans (hprops _ List.mem_cons_self))

/-- Over every number of steps on the way into the record there are twice as many levels. -/
theorem levels_optionalRecord {env : Environment} {n steps levels : Nat}
    (h : (optionalRecord n).Nests env steps levels) : levels = 2 * steps ∧ steps ≤ n := by
  induction n generalizing steps levels with
  | zero =>
    cases h with
    | own => exact ⟨rfl, Nat.le_refl _⟩
    | part hpart => cases hpart
  | succ n ih =>
    cases h with
    | own => exact ⟨rfl, Nat.zero_le _⟩
    | part hpart hrest =>
      obtain ⟨key, p, hp, rfl, rfl⟩ := (partUnder_object_iff rfl).mp hpart
      have hmem := List.mem_of_find?_eq_some hp
      obtain rfl := List.mem_singleton.mp (List.mem_reverse.mp hmem)
      obtain ⟨hlevels, hsteps⟩ := ih hrest
      have htwo : ObjectProperty.levels ⟨"a", optionalRecord n, true⟩ = 2 := rfl
      omega

/-- One optional property is within the limit. With 129 of them in each other 258 levels nest in the
type, so that its check takes a budget of 259. -/
theorem optionalRecord_lowered :
    (optionalRecord 1).lower (.root [] []) none = .ok (optionalRecordCheck 1) ∧
    Model.empty.accepts (optionalRecordCheck 1) (fullRecord 1) = true ∧
    (optionalRecord 129).lower (.root [] []) none = .ok (optionalRecordCheck 129) ∧
    Model.passes (Model.empty.checkWithin 259 (optionalRecordCheck 129) (fullRecord 129)) =
      true := by
  have hone : (optionalRecord 1).lower (.root [] []) none = .ok (optionalRecordCheck 1) :=
    lower_optionalRecord _ (by decide)
  have hmany : (optionalRecord 129).lower (.root [] []) none = .ok (optionalRecordCheck 129) :=
    lower_optionalRecord _ (by decide)
  refine ⟨hone, ?_, hmany, ?_⟩
  · obtain ⟨-, -, hsingle, -⟩ := lower_height hone
    have hlimit := hsingle fun steps levels hnests => by
      obtain ⟨hlevels, hsteps⟩ := levels_optionalRecord hnests
      omega
    exact (hlimit.2 (isClosed_optionalRecordCheck 1) _ _).mpr (conforms_fullRecord _ _ 1)
  · obtain ⟨-, -, -, hbudget⟩ := lower_height hmany
    have hdecides := hbudget (isClosed_optionalRecordCheck 129) 259 fun steps levels hnests => by
      obtain ⟨hlevels, hsteps⟩ := levels_optionalRecord hnests
      omega
    exact (hdecides _ _).mpr (conforms_fullRecord _ _ 129)

/-- The value conforms to the type, but its evaluation ends before it comes to the number. -/
theorem optionalRecord_rejected :
    let c := optionalRecordCheck 129
    let t := optionalRecord 129
    t.lower (.root [] []) none = .ok c ∧ c.isClosed = true ∧ ¬ c.height ≤ Limits.typeDepth ∧
    t.Conforms (.root [] []) .empty (fullRecord 129) ∧
    Model.empty.accepts c (fullRecord 129) = false := by
  refine ⟨lower_optionalRecord _ (by decide), isClosed_optionalRecordCheck 129, ?_,
    conforms_fullRecord _ _ 129, not_passes_fullRecord .empty 128⟩
  rw [height_optionalRecordCheck]
  decide

end StaticType

end TypeGuard
