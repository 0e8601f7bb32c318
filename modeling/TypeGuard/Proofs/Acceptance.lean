import Mathlib.Data.Finset.Lattice.Fold
import Mathlib.Data.Fintype.Basic
import Mathlib.Order.Lattice.Nat
import TypeGuard.Proofs.Lowering.Decides

/-!
# Acceptance by rules

What it means for a combinator to accept a value, said by rules: each concludes that a value is
accepted from premises of the same kind. A derivation is a finite tree of rules, so definitions that
refer to one another in a circle accept nothing by going around. `Model.check` follows the rules
from the conclusion to the premises, one level of its budget for each; it finds the derivations that
are no higher than the budget, and no others: `Model.accepts_iff_derivation`.
-/

namespace TypeGuard

namespace Model

/-- One step of acceptance: the value is accepted by the combinator if every premise, a combinator
with a value, is accepted. A property that an object lacks reads as `null`. -/
inductive Rule (m : Model) : List (Combinator × Json) → Combinator → Json → Prop where
  | builtin {type v} : type.accepts v = true → Rule m [] (.builtin type) v
  | ref {n target v} : m.type? n.dotted = some target → Rule m [(target, v)] (.ref n) v
  | declare {n target v} : m.type? n = some target → Rule m [(target, v)] (.declare n) v
  | list {elem name items} : Rule m (items.map fun x => (elem, x)) (.list elem name) (.arr items)
  | null {inner name} : Rule m [] (.maybe inner name) .null
  | maybe {inner name v} : Rule m [(inner, v)] (.maybe inner name) v
  | tuple {elems name items} : items.length = elems.length →
      Rule m (elems.zip items) (.tuple elems name) (.arr items)
  | union {member members name v} : member ∈ members →
      Rule m [(member, v)] (.union members name) v
  | enum {s values name} : s ∈ values → Rule m [] (.enum values name) (.str s)
  | dict {key value name entries} :
      Rule m (entries.map (fun e => (key, .str e.1)) ++ entries.map fun e => (value, e.2))
        (.dict key value name) (.obj entries)
  | refinement {base predicate name v} : m.holds predicate v = true →
      Rule m [(base, v)] (.refinement base predicate name) v
  | interface {props name exact members} :
      (exact = true → ∀ entry ∈ members, entry.1 ∈ props.map (·.1)) →
      Rule m (props.map fun p => (p.2, Json.read members p.1)) (.interface props name exact)
        (.obj members)
  | props {props members} :
      Rule m (props.map fun p => (p.2, Json.read members p.1)) (.props props) (.obj members)
  | intersection {members name v} :
      Rule m (members.map fun c => (c, v)) (.intersection members name) v
  | extend {members name v} :
      Rule m ((Combinator.informative members).map fun c => (c, v)) (.extend members name) v

/-- A derivation that a combinator accepts a value. -/
inductive Derivation (m : Model) : Combinator → Json → Type where
  | infer {premises c v} : m.Rule premises c v →
      ((i : Fin premises.length) → Derivation m (premises.get i).1 (premises.get i).2) →
      Derivation m c v

/-- How many rules stand one above the other. -/
def Derivation.height {m : Model} {c : Combinator} {v : Json} : m.Derivation c v → Nat
  | .infer _ parts => (Finset.univ.sup fun i => (parts i).height) + 1

variable {m : Model} {sub : Sub} {c : Combinator} {v : Json} {premises : List (Combinator × Json)}

/-! ### One level of the evaluation -/

/-- Where the premises of a rule pass, one level of the evaluation passes. -/
theorem Rule.passes_level (h : m.Rule premises c v)
    (hpremises : ∀ p ∈ premises, passes (sub p.1 p.2) = true) :
    passes (m.level sub c v) = true := by
  cases h with
  | builtin htype =>
    rw [level, passes_orHere]
    exact htype
  | ref htarget | declare htarget =>
    simp only [level, htarget]
    exact hpremises _ (List.mem_singleton.mpr rfl)
  | list =>
    rw [level, passes_checkElems]
    exact List.forall_mem_map.mp hpremises
  | null => rfl
  | maybe =>
    cases v with
    | null => rfl
    | _ => exact hpremises _ (List.mem_singleton.mpr rfl)
  | tuple hlen =>
    rw [level, if_pos hlen, passes_checkTuple hlen, List.forall₂_iff_zip]
    exact ⟨hlen.symm, fun hmem => hpremises _ hmem⟩
  | union hmem =>
    rw [level, passes_orHere, List.any_eq_true]
    exact ⟨_, hmem, hpremises _ (List.mem_singleton.mpr rfl)⟩
  | enum hmem => simpa [level] using hmem
  | dict =>
    rw [level, passes_checkEntries]
    simpa only [List.forall_mem_append, List.forall_mem_map] using hpremises
  | refinement hholds =>
    rw [passes_level_refinement]
    exact ⟨hpremises _ (List.mem_singleton.mpr rfl), hholds⟩
  | interface hexact =>
    rw [passes_level_interface]
    exact ⟨List.forall_mem_map.mp hpremises, hexact⟩
  | props =>
    rw [level, passes_checkProps]
    exact List.forall_mem_map.mp hpremises
  | intersection | extend =>
    rw [level, passes_checkAll]
    exact List.forall_mem_map.mp hpremises

/-- Where one level of the evaluation passes, it does so by a rule whose premises pass. -/
theorem exists_rule_of_passes_level (h : passes (m.level sub c v) = true) :
    ∃ premises, m.Rule premises c v ∧ ∀ p ∈ premises, passes (sub p.1 p.2) = true := by
  cases c with
  | builtin type =>
    rw [level, passes_orHere] at h
    exact ⟨[], .builtin h, nofun⟩
  | ref name =>
    rw [level] at h
    split at h
    · rename_i target htarget
      exact ⟨_, .ref htarget, List.forall_mem_singleton.mpr h⟩
    · cases h
  | declare name =>
    rw [level] at h
    split at h
    · rename_i target htarget
      exact ⟨_, .declare htarget, List.forall_mem_singleton.mpr h⟩
    · cases h
  | list elem name =>
    cases v with
    | arr items =>
      rw [level, passes_checkElems] at h
      exact ⟨_, .list, List.forall_mem_map.mpr h⟩
    | _ => cases h
  | maybe inner name =>
    cases v with
    | null => exact ⟨[], .null, nofun⟩
    | _ => exact ⟨_, .maybe, List.forall_mem_singleton.mpr h⟩
  | tuple elems name =>
    cases v with
    | arr items =>
      rw [level] at h
      split at h
      · rename_i hlen
        rw [passes_checkTuple hlen, List.forall₂_iff_zip] at h
        exact ⟨_, .tuple hlen, fun _ hmem => h.2 hmem⟩
      · cases h
    | _ => cases h
  | union members name =>
    rw [level, passes_orHere, List.any_eq_true] at h
    obtain ⟨member, hmem, hpasses⟩ := h
    exact ⟨_, .union hmem, List.forall_mem_singleton.mpr hpasses⟩
  | enum values name =>
    cases v with
    | str s =>
      rw [level, passes_orHere, List.contains_iff_mem] at h
      exact ⟨[], .enum h, nofun⟩
    | _ => cases h
  | dict key value name =>
    cases v with
    | obj entries =>
      rw [level, passes_checkEntries] at h
      refine ⟨_, .dict, ?_⟩
      rw [List.forall_mem_append, List.forall_mem_map, List.forall_mem_map]
      exact h
    | _ => cases h
  | refinement base predicate name =>
    rw [passes_level_refinement] at h
    exact ⟨_, .refinement h.2, List.forall_mem_singleton.mpr h.1⟩
  | interface props name exact =>
    cases v with
    | obj members =>
      rw [passes_level_interface] at h
      exact ⟨_, .interface h.2, List.forall_mem_map.mpr h.1⟩
    | _ => cases h
  | props props =>
    cases v with
    | obj members =>
      rw [level, passes_checkProps] at h
      exact ⟨_, .props, List.forall_mem_map.mpr h⟩
    | _ => cases h
  | intersection members name =>
    rw [level, passes_checkAll] at h
    exact ⟨_, .intersection, List.forall_mem_map.mpr h⟩
  | extend members name =>
    rw [level, passes_checkAll] at h
    exact ⟨_, .extend, List.forall_mem_map.mpr h⟩

/-! ### Derivations -/

/-- A derivation within a height is a rule with derivations of its premises one level lower. -/
theorem exists_height_le_succ_iff {n : Nat} : (∃ d : m.Derivation c v, d.height ≤ n + 1) ↔
    ∃ premises, m.Rule premises c v ∧
      ∀ p ∈ premises, ∃ d : m.Derivation p.1 p.2, d.height ≤ n := by
  constructor
  · rintro ⟨⟨hrule, parts⟩, hheight⟩
    rw [Derivation.height, Nat.add_le_add_iff_right, Finset.sup_le_iff] at hheight
    refine ⟨_, hrule, fun p hp => ?_⟩
    obtain ⟨i, rfl⟩ := List.get_of_mem hp
    exact ⟨parts i, hheight i (Finset.mem_univ i)⟩
  · rintro ⟨premises, hrule, hpremises⟩
    choose parts hparts using fun i => hpremises (premises.get i) (List.get_mem premises i)
    refine ⟨.infer hrule parts, ?_⟩
    rw [Derivation.height, Nat.add_le_add_iff_right, Finset.sup_le_iff]
    exact fun i _ => hparts i

/-- A budget of nested checks suffices exactly where there is a derivation that is no higher. -/
theorem passes_checkWithin_iff {n : Nat} : passes (m.checkWithin n c v) = true ↔
    ∃ d : m.Derivation c v, d.height ≤ n := by
  induction n generalizing c v with
  | zero =>
    simp only [checkWithin, passes_error, Bool.false_eq_true, false_iff, not_exists]
    rintro ⟨_, _⟩ hheight
    rw [Derivation.height] at hheight
    omega
  | succ n ih =>
    rw [exists_height_le_succ_iff, checkWithin]
    simp only [← ih]
    exact ⟨exists_rule_of_passes_level, fun ⟨_, hrule, hp⟩ => hrule.passes_level hp⟩

theorem passes_checkWithin_mono {n k : Nat} (hnk : n ≤ k)
    (h : passes (m.checkWithin n c v) = true) : passes (m.checkWithin k c v) = true := by
  rw [passes_checkWithin_iff] at h ⊢
  obtain ⟨d, hd⟩ := h
  exact ⟨d, hd.trans hnk⟩

/-- What is accepted is accepted by a rule whose premises are accepted. -/
theorem exists_rule_of_accepts (h : m.accepts c v = true) :
    ∃ premises, m.Rule premises c v ∧ ∀ p ∈ premises, m.accepts p.1 p.2 = true := by
  obtain ⟨premises, hrule, hpremises⟩ := exists_rule_of_passes_level h
  exact ⟨premises, hrule, fun p hp => passes_checkWithin_mono (Nat.le_succ _) (hpremises p hp)⟩

/-- A type that is defined as itself accepts no value, at any height. -/
theorem isEmpty_derivation_of_circular {n : String} (h : m.type? n = some (.declare n)) (v : Json) :
    IsEmpty (m.Derivation (.declare n) v) := by
  refine ⟨fun d => ?_⟩
  generalize hc : Combinator.declare n = c at d
  induction d with
  | infer hrule parts ih =>
    subst hc
    cases hrule with
    | declare htarget =>
      cases h.symm.trans htarget
      exact ih ⟨0, Nat.one_pos⟩ rfl

/-- A combinator is evaluated to true on a value exactly where a derivation within the depth of
types and one level more says that it accepts the value. -/
theorem accepts_iff_derivation (m : Model) (c : Combinator) (v : Json) :
    m.accepts c v = true ↔ ∃ d : m.Derivation c v, d.height ≤ Limits.typeDepth + 1 :=
  passes_checkWithin_iff

end Model

end TypeGuard
