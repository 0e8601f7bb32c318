import Mathlib.Data.List.Basic
import Mathlib.Data.List.Infix
import Mathlib.Data.Nat.Find
import TypeGuard.Proofs.Resolution.Region
import TypeGuard.Proofs.Visit

/-!
# Histories of scopes

What a stack of scopes knows of a name, told by the operations that led to it: the first record of
the name in the innermost scope that has one and is still open. A scope is open as long as the
number of open scopes does not fall below its own, `level`. The invariant of a run is `Recalls`,
which says for every open scope that it has the first records of its level; `ScopeStack.run_nests`
is the main result.
-/

namespace TypeGuard.ScopeStack

/-! ### Operations -/

/-- An operation on a stack of scopes. -/
inductive Op where
  | push
  | pop
  | record (name : String) (entry : ScopeEntry)
  | recordTyped (p : Pattern) (type : StaticType)
  | recordUntyped (p : Pattern)

namespace Op

def apply : Op → ScopeStack → ScopeStack
  | push, s => s.push
  | pop, s => s.pop
  | .record name entry, s => s.record name entry
  | .recordTyped p type, s => s.recordTyped p type
  | .recordUntyped p, s => s.recordUntyped p

/-- What the operation records for a name. -/
def entry? (name : String) : Op → Option ScopeEntry
  | push | pop => none
  | .record n entry => if name = n then some entry else none
  | .recordTyped p type => if name ∈ p.boundNames then some (some ⟨type, p⟩) else none
  | .recordUntyped p => if name ∈ p.boundNames then some none else none

def isPush : Op → Bool
  | push => true
  | _ => false

def isPop : Op → Bool
  | pop => true
  | _ => false

/-- How many scopes are open after the operation; the last one stays. -/
def levelAfter : Op → Nat → Nat
  | push, n => n + 1
  | pop, n => max 1 (n - 1)
  | _, n => n

end Op

/-- The stack after the operations. -/
def run (ops : List Op) (s : ScopeStack) : ScopeStack := ops.foldl (fun s op => op.apply s) s

/-- How many scopes are open after the operations on a new stack. -/
def level (ops : List Op) : Nat := ops.foldl (fun n op => op.levelAfter n) 1

/-- The operation number `k` records the entry for the name, in a scope that is still open after all
the operations. -/
def Holds (ops : List Op) (name : String) (k : Nat) (entry : ScopeEntry) : Prop :=
  (ops[k]?.bind (Op.entry? name)) = some entry ∧
    ∀ m, k ≤ m → m ≤ ops.length → level (ops.take k) ≤ level (ops.take m)

/-- It is the first record of the name in the innermost such scope. -/
def Shows (ops : List Op) (name : String) (k : Nat) (entry : ScopeEntry) : Prop :=
  Holds ops name k entry ∧ ∀ j entry', Holds ops name j entry' →
    level (ops.take j) < level (ops.take k) ∨
      level (ops.take j) = level (ops.take k) ∧ k ≤ j

/-- As many pops as pushes, and nowhere more pops than pushes before. -/
structure Balanced (ops : List Op) : Prop where
  within : ∀ before, before <+: ops → before.countP Op.isPop ≤ before.countP Op.isPush
  total : ops.countP Op.isPop = ops.countP Op.isPush

variable {ops : List Op} {op : Op} {name : String} {entry : ScopeEntry} {j k l : Nat}
  {scope : Scope} {scopes : List Scope}

theorem run_append (ops ops' : List Op) (s : ScopeStack) :
    run (ops ++ ops') s = run ops' (run ops s) := List.foldl_append

theorem run_singleton (op : Op) (s : ScopeStack) : run [op] s = op.apply s := rfl

theorem level_append_singleton (ops : List Op) (op : Op) :
    level (ops ++ [op]) = op.levelAfter (level ops) := by
  rw [level, List.foldl_append]
  rfl

theorem level_pos (ops : List Op) : 0 < level ops := by
  induction ops using List.reverseRecOn with
  | nil => exact Nat.one_pos
  | append_singleton ops op ih =>
    rw [level_append_singleton]
    cases op with
    | push => exact Nat.succ_pos _
    | pop => exact Nat.lt_of_lt_of_le Nat.one_pos (Nat.le_max_left 1 _)
    | record | recordTyped | recordUntyped => exact ih

/-! ### Records -/

theorem get?_recordAll (s : ScopeStack) (names : List String) (entry : ScopeEntry) (x : String) :
    (s.recordAll names entry).innermost.get? x =
      (s.innermost.get? x).or (if x ∈ names then some entry else none) := by
  induction names generalizing s with
  | nil => simp [recordAll]
  | cons n names ih =>
    rw [recordAll, List.foldl_cons]
    have hrest := ih (s.record n entry)
    rw [recordAll] at hrest
    rw [hrest, record, Scope.get?_record, Scope.contains]
    cases s.innermost.get? x with
    | some e => simp
    | none =>
      by_cases hx : x = n
      · simp [hx]
      · simp [hx]

/-- Whether an operation only records names. -/
def Op.Records (op : Op) : Prop := op.isPush = false ∧ op.isPop = false

theorem innermost_apply (h : op.Records) (s : ScopeStack) (x : String) :
    (op.apply s).innermost.get? x = (s.innermost.get? x).or (op.entry? x) := by
  cases op with
  | push => cases h.1
  | pop => cases h.2
  | record n entry =>
    have hone := get?_recordAll s [n] entry x
    simp only [List.mem_singleton] at hone
    exact hone
  | recordTyped p type => exact get?_recordAll s p.boundNames _ x
  | recordUntyped p => exact get?_recordAll s p.boundNames none x

theorem outer_apply (h : op.Records) (s : ScopeStack) : (op.apply s).outer = s.outer := by
  cases op with
  | push => cases h.1
  | pop => cases h.2
  | record n entry => rfl
  | recordTyped p type => exact outer_recordAll s p.boundNames _
  | recordUntyped p => exact outer_recordAll s p.boundNames none

theorem levelAfter_of_records (h : op.Records) (n : Nat) : op.levelAfter n = n := by
  cases op with
  | push => cases h.1
  | pop => cases h.2
  | record | recordTyped | recordUntyped => rfl

/-! ### Records that hold -/

theorem Holds.lt_length (h : Holds ops name k entry) : k < ops.length := by
  by_contra hk
  have hnone : ops[k]? = none := List.getElem?_eq_none (Nat.not_lt.mp hk)
  have hrecord := h.1
  rw [hnone] at hrecord
  cases hrecord

theorem Holds.level_le (h : Holds ops name k entry) : level (ops.take k) ≤ level ops := by
  have hall := h.2 ops.length (Nat.le_of_lt h.lt_length) (Nat.le_refl _)
  rwa [List.take_length] at hall

theorem Holds.unique {entry' : ScopeEntry} (h : Holds ops name k entry)
    (h' : Holds ops name k entry') : entry = entry' :=
  Option.some.inj (h.1.symm.trans h'.1)

/-- A record holds after a further operation if it did before and its scope is not closed, or if it
is the one of that operation. -/
theorem holds_append_iff :
    Holds (ops ++ [op]) name k entry ↔
      (Holds ops name k entry ∧ level (ops.take k) ≤ level (ops ++ [op])) ∨
      (k = ops.length ∧ op.entry? name = some entry ∧ level ops ≤ level (ops ++ [op])) := by
  have htake (m : Nat) (hm : m ≤ ops.length) : (ops ++ [op]).take m = ops.take m :=
    List.take_append_of_le_length hm
  have hall : (ops ++ [op]).take (ops.length + 1) = ops ++ [op] := List.take_of_length_le (by simp)
  constructor
  · intro h
    have hk := h.lt_length
    rw [List.length_append, List.length_singleton, Nat.lt_succ_iff] at hk
    have hlast := h.2 (ops.length + 1) (Nat.le_succ_of_le hk) (by simp)
    rw [hall, htake k hk] at hlast
    obtain rfl | hlt := Nat.eq_or_lt_of_le hk
    · right
      refine ⟨rfl, ?_, ?_⟩
      · have hrecord := h.1
        rwa [List.getElem?_concat_length] at hrecord
      · rwa [List.take_length] at hlast
    · left
      refine ⟨⟨?_, ?_⟩, hlast⟩
      · have hrecord := h.1
        rwa [List.getElem?_append_left hlt] at hrecord
      · intro m hkm hm
        have hopen := h.2 m hkm (by simp; omega)
        rwa [htake k hk, htake m hm] at hopen
  · rintro (⟨h, hlast⟩ | ⟨rfl, hrecord, hlast⟩)
    · have hk := h.lt_length
      constructor
      · rw [List.getElem?_append_left hk]
        exact h.1
      · intro m hkm hm
        rw [List.length_append, List.length_singleton] at hm
        rw [htake k (Nat.le_of_lt hk)]
        obtain rfl | hlt := Nat.eq_or_lt_of_le hm
        · rwa [hall]
        · rw [htake m (Nat.lt_succ_iff.mp hlt)]
          exact h.2 m hkm (Nat.lt_succ_iff.mp hlt)
    · constructor
      · rw [List.getElem?_concat_length]
        exact hrecord
      · intro m hkm hm
        rw [List.length_append, List.length_singleton] at hm
        rw [htake _ (Nat.le_refl _), List.take_length]
        obtain rfl | hlt := Nat.eq_or_lt_of_le hm
        · rwa [hall]
        · obtain rfl : m = ops.length := by omega
          rw [htake _ (Nat.le_refl _), List.take_length]

/-- The record holds in the scope of the given level. -/
def HoldsAt (ops : List Op) (l : Nat) (name : String) (k : Nat) (entry : ScopeEntry) : Prop :=
  Holds ops name k entry ∧ level (ops.take k) = l

theorem holdsAt_append_iff :
    HoldsAt (ops ++ [op]) l name k entry ↔
      (HoldsAt ops l name k entry ∨
        k = ops.length ∧ l = level ops ∧ op.entry? name = some entry) ∧
      l ≤ level (ops ++ [op]) := by
  have htake (h : k ≤ ops.length) : (ops ++ [op]).take k = ops.take k :=
    List.take_append_of_le_length h
  unfold HoldsAt
  rw [holds_append_iff]
  constructor
  · rintro ⟨⟨h, hlast⟩ | ⟨rfl, hrecord, hlast⟩, rfl⟩
    · rw [htake (Nat.le_of_lt h.lt_length)]
      exact ⟨.inl ⟨h, rfl⟩, hlast⟩
    · rw [htake (Nat.le_refl _), List.take_length]
      exact ⟨.inr ⟨rfl, rfl, hrecord⟩, hlast⟩
  · rintro ⟨⟨h, rfl⟩ | ⟨rfl, rfl, hrecord⟩, hlast⟩
    · rw [htake (Nat.le_of_lt h.lt_length)]
      exact ⟨.inl ⟨h, hlast⟩, rfl⟩
    · rw [htake (Nat.le_refl _), List.take_length]
      exact ⟨.inr ⟨rfl, hrecord, hlast⟩, rfl⟩

/-- The first record of the name in the open scope of the given level has the entry. -/
def FirstAt (ops : List Op) (l : Nat) (name : String) (entry : ScopeEntry) : Prop :=
  ∃ k, HoldsAt ops l name k entry ∧ ∀ j entry', HoldsAt ops l name j entry' → k ≤ j

theorem FirstAt.unique {entry' : ScopeEntry} (h : FirstAt ops l name entry)
    (h' : FirstAt ops l name entry') : entry = entry' := by
  obtain ⟨k, hk, hfirst⟩ := h
  obtain ⟨k', hk', hfirst'⟩ := h'
  obtain rfl : k = k' := Nat.le_antisymm (hfirst k' entry' hk') (hfirst' k entry hk)
  exact hk.1.unique hk'.1

/-- If a name was recorded at all, then there is a first record. -/
theorem HoldsAt.exists_firstAt (h : HoldsAt ops l name k entry) :
    ∃ entry', FirstAt ops l name entry' := by
  classical
  have hex : ∃ j entry', HoldsAt ops l name j entry' := ⟨k, entry, h⟩
  obtain ⟨entry', hentry'⟩ := Nat.find_spec hex
  exact ⟨entry', Nat.find hex, hentry', fun j e hj => Nat.find_min' hex ⟨e, hj⟩⟩

/-- A scope that stays open and gets no record of the name keeps its first one. -/
theorem firstAt_append_iff (hl : l ≤ level (ops ++ [op]))
    (hnew : l = level ops → op.entry? name = none) :
    FirstAt (ops ++ [op]) l name entry ↔ FirstAt ops l name entry := by
  have hholds (k : Nat) (entry : ScopeEntry) :
      HoldsAt (ops ++ [op]) l name k entry ↔ HoldsAt ops l name k entry := by
    rw [holdsAt_append_iff]
    constructor
    · rintro ⟨h | ⟨-, hlevel, hrecord⟩, -⟩
      · exact h
      · rw [hnew hlevel] at hrecord
        cases hrecord
    · intro h
      exact ⟨.inl h, hl⟩
  simp only [FirstAt, hholds]

/-- In the innermost scope, the first record of a name is the one before or else the new one. -/
theorem firstAt_record_iff (hlevel : level (ops ++ [op]) = level ops)
    {known : Option ScopeEntry} (hknown : ∀ entry, known = some entry ↔
      FirstAt ops (level ops) name entry) :
    known.or (op.entry? name) = some entry ↔ FirstAt (ops ++ [op]) (level ops) name entry := by
  have hiff (k : Nat) (entry : ScopeEntry) :
      HoldsAt (ops ++ [op]) (level ops) name k entry ↔
        HoldsAt ops (level ops) name k entry ∨ k = ops.length ∧ op.entry? name = some entry := by
    rw [holdsAt_append_iff]
    simp [hlevel]
  cases known with
  | some found =>
    have hfound : FirstAt (ops ++ [op]) (level ops) name found := by
      obtain ⟨k, hk, hfirst⟩ := (hknown found).mp rfl
      refine ⟨k, (hiff k found).mpr (.inl hk), ?_⟩
      intro j entry' hj
      rcases (hiff j entry').mp hj with hj | ⟨rfl, -⟩
      · exact hfirst j entry' hj
      · exact Nat.le_of_lt hk.1.lt_length
    rw [Option.some_or]
    constructor
    · rintro ⟨⟩
      exact hfound
    · intro hentry
      rw [hfound.unique hentry]
  | none =>
    have hnone (k : Nat) (entry : ScopeEntry) : ¬ HoldsAt ops (level ops) name k entry := by
      intro h
      obtain ⟨entry', hfirst⟩ := h.exists_firstAt
      cases (hknown entry').mpr hfirst
    rw [Option.none_or]
    constructor
    · intro hrecord
      refine ⟨ops.length, (hiff _ _).mpr (.inr ⟨rfl, hrecord⟩), ?_⟩
      intro j entry' hj
      rcases (hiff j entry').mp hj with hj | ⟨rfl, -⟩
      · exact absurd hj (hnone j entry')
      · exact Nat.le_refl _
    · rintro ⟨k, hk, -⟩
      rcases (hiff k entry).mp hk with hk | ⟨-, hrecord⟩
      · exact absurd hk (hnone k entry)
      · exact hrecord

/-! ### Open scopes -/

/-- Every scope has the first records of its level, the number of scopes from it outwards. -/
def Recalls (ops : List Op) : List Scope → Prop
  | [] => True
  | scope :: outer =>
    (∀ name entry, scope.get? name = some entry ↔ FirstAt ops (outer.length + 1) name entry) ∧
      Recalls ops outer

/-- Scopes that stay open and get no new records go on to have the first ones. -/
theorem Recalls.append (h : Recalls ops scopes) (hopen : scopes.length ≤ level (ops ++ [op]))
    (hnew : level ops ≤ scopes.length → ∀ name, op.entry? name = none) :
    Recalls (ops ++ [op]) scopes := by
  induction scopes with
  | nil => trivial
  | cons scope outer ih =>
    constructor
    · intro name entry
      have hnone (hlevel : (scope :: outer).length = level ops) : op.entry? name = none :=
        hnew (Nat.le_of_eq hlevel.symm) name
      exact (h.1 name entry).trans (firstAt_append_iff hopen hnone).symm
    · exact ih h.2 (Nat.le_of_succ_le hopen) fun hle => hnew (Nat.le_succ_of_le hle)

/-- No record holds at a level that was not reached. -/
theorem not_firstAt_of_lt (h : level ops < l) : ¬ FirstAt ops l name entry := by
  rintro ⟨k, ⟨hk, rfl⟩, -⟩
  exact absurd hk.level_le (Nat.not_le.mpr h)

/-- The stack has the first records of all levels that are open. -/
structure Recalled (ops : List Op) (s : ScopeStack) : Prop where
  recalls : Recalls ops s.toList
  length_eq : s.toList.length = level ops

namespace Recalled

variable {s : ScopeStack}

theorem push (h : Recalled ops s) : Recalled (ops ++ [.push]) s.push where
  recalls := by
    constructor
    · intro name entry
      have hnone : s.push.innermost.get? name = none := rfl
      have hcount : s.push.outer.length = level ops := h.length_eq
      rw [hnone, hcount, firstAt_append_iff]
      · constructor
        · nofun
        · intro hfirst
          exact absurd hfirst (not_firstAt_of_lt (Nat.lt_succ_self _))
      · rw [level_append_singleton]
        exact Nat.le_refl _
      · exact fun _ => rfl
    · apply h.recalls.append
      · rw [level_append_singleton, h.length_eq]
        exact Nat.le_succ _
      · exact fun _ _ => rfl
  length_eq := by
    rw [level_append_singleton, ← h.length_eq]
    rfl

theorem pop (h : Recalled ops s) : Recalled (ops ++ [.pop]) s.pop := by
  obtain ⟨innermost, outer⟩ := s
  have hlevel : level (ops ++ [.pop]) = max 1 (level ops - 1) := level_append_singleton ops .pop
  rw [← h.length_eq] at hlevel
  cases outer with
  | nil => exact ⟨h.recalls.append (Nat.le_of_eq hlevel.symm) fun _ _ => rfl, hlevel.symm⟩
  | cons scope outer =>
    have hcount : level (ops ++ [.pop]) = (scope :: outer).length := by
      rw [hlevel]
      simp [toList]
    exact ⟨h.recalls.2.append (Nat.le_of_eq hcount.symm) fun _ _ => rfl, hcount.symm⟩

theorem records (h : Recalled ops s) (hop : op.Records) : Recalled (ops ++ [op]) (op.apply s) := by
  have hlevel : level (ops ++ [op]) = level ops := by
    rw [level_append_singleton, levelAfter_of_records hop]
  have hcount : (op.apply s).outer.length + 1 = level ops := by
    rw [outer_apply hop]
    exact h.length_eq
  refine ⟨⟨?_, ?_⟩, by rw [hlevel, ← hcount, toList, List.length_cons]⟩
  · intro name entry
    rw [innermost_apply hop, hcount]
    apply firstAt_record_iff hlevel
    intro entry
    rw [← h.length_eq]
    exact h.recalls.1 name entry
  · rw [outer_apply hop]
    have hlength : s.outer.length < level ops := Nat.lt_of_succ_le (Nat.le_of_eq h.length_eq)
    apply h.recalls.2.append
    · rw [hlevel]
      exact Nat.le_of_lt hlength
    · intro hle
      exact absurd hle (Nat.not_le.mpr hlength)

theorem step (h : Recalled ops s) (op : Op) : Recalled (ops ++ [op]) (op.apply s) := by
  cases op with
  | push => exact h.push
  | pop => exact h.pop
  | record | recordTyped | recordUntyped => exact h.records ⟨rfl, rfl⟩

end Recalled

theorem recalled_run (ops : List Op) : Recalled ops (run ops unit) := by
  induction ops using List.reverseRecOn with
  | nil =>
    refine ⟨⟨?_, trivial⟩, rfl⟩
    intro name entry
    constructor
    · nofun
    · rintro ⟨k, hk, -⟩
      exact absurd hk.1.lt_length (Nat.not_lt_zero k)
  | append_singleton ops op ih =>
    rw [run_append, run_singleton]
    exact ih.step op

theorem Recalled.get?_innermost_eq_none {s : ScopeStack} (h : Recalled ops s)
    (hnew : ∀ k entry, Holds ops name k entry → level (ops.take k) < level ops) :
    s.innermost.get? name = none := by
  cases hget : s.innermost.get? name with
  | none => rfl
  | some entry =>
    obtain ⟨k, ⟨hk, hlevel⟩, -⟩ := (h.recalls.1 name entry).mp hget
    have hlt := hnew k entry hk
    rw [hlevel, ← h.length_eq] at hlt
    exact absurd hlt (Nat.lt_irrefl _)

/-! ### What is found -/

/-- The innermost scope that has a name has its first record. -/
theorem findSome?_eq_some_iff (h : Recalls ops scopes) :
    scopes.findSome? (·.get? name) = some entry ↔
      ∃ k, Holds ops name k entry ∧ level (ops.take k) ≤ scopes.length ∧
        ∀ j entry', Holds ops name j entry' → level (ops.take j) ≤ scopes.length →
          level (ops.take j) < level (ops.take k) ∨
            level (ops.take j) = level (ops.take k) ∧ k ≤ j := by
  induction scopes with
  | nil =>
    constructor
    · nofun
    · rintro ⟨k, -, hlevel, -⟩
      exact absurd (level_pos _) (Nat.not_lt.mpr hlevel)
  | cons scope outer ih =>
    rw [List.findSome?_cons]
    cases hfound : scope.get? name with
    | some found =>
      obtain ⟨k, ⟨hk, hlevel⟩, hfirst⟩ := (h.1 name found).mp hfound
      constructor
      · rintro ⟨⟩
        refine ⟨k, hk, Nat.le_of_eq hlevel, ?_⟩
        intro j entry' hj hle
        rw [hlevel]
        rcases Nat.lt_or_eq_of_le hle with hlt | heq
        · exact .inl hlt
        · exact .inr ⟨heq, hfirst j entry' ⟨hj, heq⟩⟩
      · rintro ⟨k', hk', hle, hinnermost⟩
        rcases hinnermost k found hk (Nat.le_of_eq hlevel) with hlt | ⟨heq, hle'⟩
        · rw [hlevel] at hlt
          exact absurd hle (Nat.not_le.mpr hlt)
        · have hle'' := hfirst k' entry ⟨hk', by rw [← heq, hlevel]⟩
          obtain rfl : k = k' := Nat.le_antisymm hle'' hle'
          rw [hk.unique hk']
    | none =>
      -- nothing was recorded at this level, so the records up to it are those of the outer scopes
      have hlevels (j : Nat) (entry' : ScopeEntry) (hj : Holds ops name j entry') :
          level (ops.take j) ≤ (scope :: outer).length ↔ level (ops.take j) ≤ outer.length := by
        constructor
        · intro hle
          by_contra hnot
          have hat : HoldsAt ops (outer.length + 1) name j entry' :=
            ⟨hj, Nat.le_antisymm hle (Nat.not_le.mp hnot)⟩
          obtain ⟨first, hfirst⟩ := hat.exists_firstAt
          rw [(h.1 name first).mpr hfirst] at hfound
          cases hfound
        · exact Nat.le_succ_of_le
      simp only [ih h.2]
      constructor
      · rintro ⟨k, hk, hle, hinnermost⟩
        refine ⟨k, hk, (hlevels k entry hk).mpr hle, ?_⟩
        intro j entry' hj hle'
        exact hinnermost j entry' hj ((hlevels j entry' hj).mp hle')
      · rintro ⟨k, hk, hle, hinnermost⟩
        refine ⟨k, hk, (hlevels k entry hk).mp hle, ?_⟩
        intro j entry' hj hle'
        exact hinnermost j entry' hj ((hlevels j entry' hj).mpr hle')

theorem find?_run_iff : (run ops unit).find? name = some entry ↔ ∃ k, Shows ops name k entry := by
  have hrun := recalled_run ops
  rw [find?, findSome?_eq_some_iff hrun.recalls, hrun.length_eq]
  constructor
  · rintro ⟨k, hk, -, hinnermost⟩
    exact ⟨k, hk, fun j entry' hj => hinnermost j entry' hj hj.level_le⟩
  · rintro ⟨k, hk, hinnermost⟩
    exact ⟨k, hk, hk.level_le, fun j entry' hj _ => hinnermost j entry' hj⟩

/-- What was recorded first at an open level is in one of the scopes. -/
theorem Recalls.exists_scope (h : Recalls ops scopes) (hpos : 0 < l) (hl : l ≤ scopes.length)
    (hfirst : FirstAt ops l name entry) : ∃ scope ∈ scopes, scope.get? name = some entry := by
  induction scopes with
  | nil => exact absurd hpos (Nat.not_lt.mpr hl)
  | cons scope outer ih =>
    rcases Nat.lt_or_eq_of_le hl with hlt | rfl
    · obtain ⟨found, hmem, hfound⟩ := ih h.2 (Nat.lt_succ_iff.mp hlt)
      exact ⟨found, List.mem_cons_of_mem _ hmem, hfound⟩
    · exact ⟨scope, List.mem_cons_self .., (h.1 name entry).mpr hfirst⟩

theorem find?_run_eq_none_iff :
    (run ops unit).find? name = none ↔ ∀ k entry, ¬ Holds ops name k entry := by
  have hrun := recalled_run ops
  constructor
  · intro hnone k entry hk
    have hat : HoldsAt ops (level (ops.take k)) name k entry := ⟨hk, rfl⟩
    obtain ⟨first, hfirst⟩ := hat.exists_firstAt
    have hle : level (ops.take k) ≤ (run ops unit).toList.length := by
      rw [hrun.length_eq]
      exact hk.level_le
    obtain ⟨scope, hmem, hfound⟩ := hrun.recalls.exists_scope (level_pos _) hle hfirst
    rw [List.findSome?_eq_none_iff.mp hnone scope hmem] at hfound
    cases hfound
  · intro hnone
    cases hfind : (run ops unit).find? name with
    | none => rfl
    | some entry =>
      obtain ⟨k, hk, -⟩ := find?_run_iff.mp hfind
      exact absurd hk (hnone k entry)

/-! ### Balanced operations -/

/-- The scopes that were open before stay below those that the operations open. -/
theorem exists_own_scopes (s : ScopeStack) (ops : List Op)
    (h : ∀ before, before <+: ops → before.countP Op.isPop ≤ before.countP Op.isPush) :
    ∃ own : List Scope, own.length + ops.countP Op.isPop = ops.countP Op.isPush + 1 ∧
      (run ops s.push).toList = own ++ s.toList := by
  induction ops using List.reverseRecOn with
  | nil => exact ⟨[.empty], rfl, rfl⟩
  | append_singleton ops op ih =>
    obtain ⟨own, hlength, hrun⟩ := ih fun before hbefore =>
      h before (hbefore.trans (List.prefix_append _ _))
    have hcount := h _ (List.prefix_refl _)
    have hwithin := h ops (List.prefix_append _ _)
    rw [run_append, run_singleton]
    obtain ⟨scope, own, rfl⟩ : ∃ scope rest, own = scope :: rest := by
      cases own with
      | nil =>
        rw [List.length_nil] at hlength
        omega
      | cons scope rest => exact ⟨scope, rest, rfl⟩
    generalize run ops s.push = t at hrun
    obtain ⟨innermost, outer⟩ := t
    obtain ⟨rfl, rfl⟩ := List.cons.inj hrun
    by_cases hop : op.Records
    · refine ⟨(op.apply ⟨innermost, own ++ s.toList⟩).innermost :: own, ?_, ?_⟩
      · simpa [hop.1, hop.2] using hlength
      · rw [toList, outer_apply hop]
        rfl
    · cases op with
      | push =>
        refine ⟨.empty :: innermost :: own, ?_, rfl⟩
        simp [Op.isPush, Op.isPop] at hlength ⊢
        omega
      | pop =>
        cases own with
        | nil =>
          simp [Op.isPush, Op.isPop] at hlength hcount
          omega
        | cons scope own =>
          refine ⟨scope :: own, ?_, rfl⟩
          simp [Op.isPush, Op.isPop] at hlength ⊢
          omega
      | record | recordTyped | recordUntyped => exact absurd ⟨rfl, rfl⟩ hop

theorem toList_inj {s t : ScopeStack} (h : s.toList = t.toList) : s = t := by
  obtain ⟨innermost, outer⟩ := s
  obtain ⟨rfl, rfl⟩ := List.cons.inj h
  rfl

/-- A push, balanced operations and the pop that belongs to the push leave the stack as it was. -/
theorem run_bracketed {inner : List Op} (h : Balanced inner) (s : ScopeStack) :
    run (.push :: (inner ++ [.pop])) s = s := by
  obtain ⟨own, hlength, hrun⟩ := exists_own_scopes s inner h.within
  have hone : own.length = 1 := by
    rw [h.total] at hlength
    omega
  obtain ⟨scope, rfl⟩ := List.length_eq_one_iff.mp hone
  have hpopped : run (.push :: (inner ++ [.pop])) s = (run inner s.push).pop :=
    run_append inner [.pop] s.push
  have hopened : run inner s.push = ⟨scope, s.toList⟩ := toList_inj hrun
  rw [hpopped, hopened]
  rfl

/-! ### Nested scopes -/

/-- After any operations on a new stack as many scopes are open as its level says, and so at least
one. A name is looked up in the innermost open scope that recorded it, and its first record there
counts: it has the type and pattern of that record, or none if the record is untyped or there is
none. All names of a pattern that is recorded where they are new share the pattern and its type.
What stands between a push and the pop that belongs to it does not change the stack. -/
theorem run_nests (ops : List Op) :
    (run ops unit).toList.length = level ops ∧ 0 < level ops ∧
    (∀ name binding, (run ops unit).lookup name = some binding ↔
      ∃ k, Shows ops name k (some binding)) ∧
    (∀ name, (run ops unit).lookup name = none ↔
      (∃ k, Shows ops name k none) ∨ ∀ k entry, ¬ Holds ops name k entry) ∧
    (∀ p type, ∀ name ∈ p.boundNames,
      (∀ k entry, Holds ops name k entry → level (ops.take k) < level ops) →
      (run (ops ++ [.recordTyped p type]) unit).lookup name = some ⟨type, p⟩) ∧
    ∀ inner, Balanced inner → run (ops ++ .push :: (inner ++ [.pop])) unit = run ops unit := by
  have hlookup (ops : List Op) (name : String) (binding : TypedBinding) :
      (run ops unit).lookup name = some binding ↔ ∃ k, Shows ops name k (some binding) := by
    rw [lookup, Option.join_eq_some_iff, find?_run_iff]
  refine ⟨(recalled_run ops).length_eq, level_pos ops, hlookup ops, ?_, ?_, ?_⟩
  · intro name
    rw [lookup, Option.join_eq_none_iff, find?_run_iff, find?_run_eq_none_iff, or_comm]
  · intro p type name hname hnew
    rw [run_append, run_singleton, lookup, find?, toList, List.findSome?_cons,
      innermost_apply ⟨rfl, rfl⟩, (recalled_run ops).get?_innermost_eq_none hnew]
    simp [Op.entry?, hname]
  · intro inner hinner
    rw [run_append, run_bracketed hinner]

/-- A typed name, a block with a block in it that shadows the name, and then a pattern in a block
that binds the name again. -/
theorem lookup_behind_block :
    let ops : List Op := [.recordTyped (.ident "x") (.primitive .number), .push]
    let inner : List Op := [.recordUntyped (.ident "x"), .push, .record "y" none, .pop]
    let p := Pattern.array [some (.ident "x"), some (.ident "y")]
    let list := StaticType.list (.primitive .number)
    Balanced inner ∧ run (ops ++ .push :: (inner ++ [.pop])) unit = run ops unit ∧
      "x" ∈ p.boundNames ∧
      (∀ k entry, Holds ops "x" k entry → level (ops.take k) < level ops) ∧
      (run (ops ++ [.recordTyped p list]) unit).lookup "x" = some ⟨list, p⟩ := by
  intro ops inner p list
  obtain ⟨-, -, -, -, hrecorded, hnests⟩ := run_nests ops
  have hinner : Balanced inner := by
    refine ⟨?_, rfl⟩
    intro before hbefore
    rw [← List.mem_inits] at hbefore
    revert before
    decide
  have hmem : "x" ∈ p.boundNames := by decide
  have hnew (k : Nat) (entry : ScopeEntry) (hk : Holds ops "x" k entry) :
      level (ops.take k) < level ops := by
    match k, hk.1 with
    | 0, _ => decide
    | 1, h | _ + 2, h => cases h
  exact ⟨hinner, hnests inner hinner, hmem, hnew, hrecorded p list "x" hmem hnew⟩

example :
    let p := Pattern.array [some (.ident "x"), some (.ident "y")]
    let list := StaticType.list (.primitive .number)
    let s := run [.recordTyped p list, .push, .recordUntyped (.ident "x"), .pop, .pop,
      .recordTyped (.ident "y") (.primitive .string)] unit
    s.lookup "x" = some ⟨list, p⟩ ∧ s.lookup "y" = some ⟨list, p⟩ ∧ s.lookup "z" = none :=
  ⟨rfl, rfl, rfl⟩

end TypeGuard.ScopeStack
