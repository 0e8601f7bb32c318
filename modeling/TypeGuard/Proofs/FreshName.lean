import Mathlib.Data.List.Basic
import Mathlib.Tactic.Tauto
import TypeGuard.FreshName

/-!
# Generated names are fresh

A generated name is the first free candidate for its base. If there is one at all, the name is not
among those that are taken. Names that are generated one after the other are distinct and new
exactly where there is a free candidate each time; bases that end in digits share candidates, so
this depends on the names that were generated before.
-/

namespace TypeGuard.FreshName

/-- Some candidate for the base is not taken. -/
def HasFree (taken : List String) (base : String) : Prop :=
  ∃ k, 1 ≤ k ∧ k ≤ Limits.nameSuffix ∧ candidate base k ∉ taken

theorem HasFree.mono {taken taken' : List String} {base : String} (h : HasFree taken base)
    (hsub : taken' ⊆ taken) : HasFree taken' base := by
  obtain ⟨k, hone, hlast, hfree⟩ := h
  exact ⟨k, hone, hlast, fun hmem => hfree (hsub hmem)⟩

/-- The search stops at the first candidate that is not taken, or at the last one. -/
theorem exists_firstFree (taken : List String) (base : String) (n k : Nat) :
    ∃ j ≤ n, firstFree taken base n k = candidate base (k + j) ∧
      (∀ i < j, candidate base (k + i) ∈ taken) ∧ (j < n → candidate base (k + j) ∉ taken) := by
  induction n generalizing k with
  | zero => exact ⟨0, Nat.zero_le _, rfl, nofun, nofun⟩
  | succ n ih =>
    rw [firstFree]
    split
    · rename_i htaken
      obtain ⟨j, hj, hfirst, hbefore, hfree⟩ := ih (k + 1)
      refine ⟨j + 1, by omega, by rw [hfirst, Nat.add_right_comm, Nat.add_assoc], ?_, ?_⟩
      · intro i hi
        cases i with
        | zero => simpa using htaken
        | succ i =>
          rw [← Nat.add_assoc, Nat.add_right_comm]
          exact hbefore i (by omega)
      · intro hlt
        rw [← Nat.add_assoc, Nat.add_right_comm]
        exact hfree (by omega)
    · rename_i hfree
      exact ⟨0, Nat.zero_le _, rfl, nofun, fun _ hmem => hfree (List.contains_iff_mem.mpr hmem)⟩

theorem exists_choose (taken : List String) (base : String) :
    ∃ k, 1 ≤ k ∧ k ≤ Limits.nameSuffix ∧ choose taken base = candidate base k ∧
      (∀ i, 1 ≤ i → i < k → candidate base i ∈ taken) ∧
      (k < Limits.nameSuffix → candidate base k ∉ taken) := by
  obtain ⟨j, hj, hfirst, hbefore, hfree⟩ :=
    exists_firstFree taken base (Limits.nameSuffix - 1) 1
  have hpos : 0 < Limits.nameSuffix := by decide
  refine ⟨1 + j, by omega, by omega, hfirst, fun i hone hi => ?_, fun hlt => hfree (by omega)⟩
  obtain ⟨i, rfl⟩ := Nat.exists_eq_add_of_le hone
  exact hbefore i (by omega)

theorem choose_not_mem {taken : List String} {base : String} (h : HasFree taken base) :
    choose taken base ∉ taken := by
  obtain ⟨k, hone, hlast, hchoose, hbefore, hfree⟩ := exists_choose taken base
  obtain ⟨free, hfreeOne, hfreeLast, hnot⟩ := h
  rw [hchoose]
  by_cases hk : k < Limits.nameSuffix
  · exact hfree hk
  · -- the search went to the last candidate, which must be the free one
    have hlt : ¬ free < k := fun hlt => hnot (hbefore free hfreeOne hlt)
    obtain rfl : free = k := by omega
    exact hnot

/-- The chosen name is new exactly where some candidate is free. -/
theorem choose_not_mem_iff {taken : List String} {base : String} :
    choose taken base ∉ taken ↔ HasFree taken base := by
  constructor
  · intro hnew
    obtain ⟨k, hone, hlast, hchoose, -, -⟩ := exists_choose taken base
    exact ⟨k, hone, hlast, hchoose ▸ hnew⟩
  · exact choose_not_mem

/-! ### Names for different bases -/

theorem candidate_toList (base : String) (k : Nat) :
    ∃ digits, (candidate base k).toList = '_' :: (base.toList ++ digits) := by
  unfold candidate
  split
  · exact ⟨[], by simp⟩
  · exact ⟨(toString k).toList, by simp⟩

/-- Candidates for bases that start with different letters differ. -/
theorem candidate_ne {base base' : String} {c d : Char} {cs ds : List Char}
    (hbase : base.toList = c :: cs) (hbase' : base'.toList = d :: ds) (hne : c ≠ d) (j k : Nat) :
    candidate base j ≠ candidate base' k := by
  intro h
  obtain ⟨xs, hxs⟩ := candidate_toList base j
  obtain ⟨ys, hys⟩ := candidate_toList base' k
  simp only [h, hys, hbase, hbase', List.cons_append, List.cons.injEq] at hxs
  exact hne hxs.2.1.symm

/-! ### The candidates in their order -/

/-- The candidates for a base in the order in which they are tried, the first without a number and
the others with the numbers from two on. -/
def candidates (base : String) : List String :=
  ("_" ++ base) :: (List.range' 2 (Limits.nameSuffix - 1)).map fun k => "_" ++ base ++ toString k

theorem candidates_eq (base : String) :
    candidates base = (List.range' 1 Limits.nameSuffix).map (candidate base) := by
  have hsucc : Limits.nameSuffix = Limits.nameSuffix - 1 + 1 := by decide
  rw [hsucc, List.range'_succ, List.map_cons, candidates]
  refine congrArg (candidate base 1 :: ·) (List.map_congr_left fun k hk => ?_)
  have htwo : 2 ≤ k := (List.mem_range'_1.mp hk).1
  rw [candidate, if_neg (by omega)]

/-- The first candidate that is not taken is chosen, and the last one where all are. -/
theorem choose_eq (taken : List String) (base : String) :
    choose taken base =
      ((candidates base).find? (· ∉ taken)).getD
        ("_" ++ base ++ toString Limits.nameSuffix) := by
  obtain ⟨k, hone, hlast, hchoose, hbefore, hfree⟩ := exists_choose taken base
  rw [hchoose, candidates_eq, List.find?_map]
  cases hfind : (List.range' 1 Limits.nameSuffix).find? _ with
  | none =>
    rw [List.find?_range'_eq_none] at hfind
    have htaken : candidate base k ∈ taken := by simpa using hfind k hone (by omega)
    have hk : ¬ k < Limits.nameSuffix := fun hlt => hfree hlt htaken
    obtain rfl : k = Limits.nameSuffix := by omega
    rfl
  | some j =>
    rw [List.find?_range'_eq_some, List.mem_range'_1] at hfind
    obtain ⟨hj, ⟨hjone, hjlast⟩, hjbefore⟩ := hfind
    have hjfree : candidate base j ∉ taken := by simpa using hj
    have hjk : ¬ j < k := fun hlt => hjfree (hbefore j hjone hlt)
    have hkj : ¬ k < j := fun hlt => hfree (by omega) (by simpa using hjbefore k hone hlt)
    obtain rfl : k = j := by omega
    rfl

/-! ### Names that are generated one after the other -/

variable {taken : List String} {base : String} {bases : List String}

/-- Each base has a free candidate when its turn comes. -/
inductive Supplied : List String → List String → Prop
  | nil (taken : List String) : Supplied taken []
  | cons {taken : List String} {base : String} {bases : List String} (free : HasFree taken base)
      (rest : Supplied (generate taken base).2 bases) : Supplied taken (base :: bases)

theorem supplied_cons_iff :
    Supplied taken (base :: bases) ↔
      HasFree taken base ∧ Supplied (generate taken base).2 bases :=
  ⟨fun | .cons free rest => ⟨free, rest⟩, fun h => .cons h.1 h.2⟩

/-- The names are distinct and new exactly where each base has a free candidate in its turn. -/
theorem generateAll_fresh_iff :
    (generateAll taken bases).Nodup ∧ (generateAll taken bases).Disjoint taken ↔
      Supplied taken bases := by
  induction bases generalizing taken with
  | nil => exact ⟨fun _ => .nil taken, fun _ => ⟨.nil, nofun⟩⟩
  | cons base bases ih =>
    let taken' := (generate taken base).2
    calc
      (generateAll taken (base :: bases)).Nodup ∧ (generateAll taken (base :: bases)).Disjoint taken
        ↔ choose taken base ∉ taken ∧
            (generateAll taken' bases).Nodup ∧ (generateAll taken' bases).Disjoint taken' := by
          -- the later names differ from the first one because it is taken for them
          simp only [taken', generateAll, generate, List.nodup_cons, List.disjoint_cons_left,
            List.disjoint_cons_right]
          tauto
      _ ↔ HasFree taken base ∧ Supplied taken' bases := by rw [choose_not_mem_iff, ih]
      _ ↔ Supplied taken (base :: bases) := supplied_cons_iff.symm

/-- A generated name is the first candidate for its base that is not taken, or the last one where
all are, and no other name becomes taken. The names for several bases are distinct, and none of
them was taken before, exactly where each base has a free candidate in its turn. -/
theorem generate_first_free (taken : List String) (base : String) (bases : List String) :
    (generate taken base).1 =
        ((candidates base).find? (· ∉ taken)).getD
          ("_" ++ base ++ toString Limits.nameSuffix) ∧
      (∀ n, n ∈ (generate taken base).2 ↔ n = (generate taken base).1 ∨ n ∈ taken) ∧
      ((generateAll taken bases).Nodup ∧ (generateAll taken bases).Disjoint taken ↔
        Supplied taken bases) :=
  ⟨choose_eq taken base, fun _ => List.mem_cons, generateAll_fresh_iff⟩

/-- The base `x2` shares its first candidate with the base `x`. -/
example : generateAll ["_x"] ["x", "x2", "x"] = ["_x2", "_x22", "_x3"] := by decide

end TypeGuard.FreshName
