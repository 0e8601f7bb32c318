import Mathlib.Data.List.Lex
import TypeGuard.Destructuring

/-!
# Positions of bindings

The identifiers of a pattern stand at positions, which are compared from left to right. Some of them
can be reached from the root by steps that have a counterpart in the declared type. The path to an
identifier is what these steps say on the way to its first position within the depth of patterns:
`Pattern.pathTo?_eq_some_iff`.
-/

namespace TypeGuard

namespace Pattern

/-- A step from a pattern to its part with the number `i`, and what the step adds to a path. There
is none to the rest of an object or to a property with a computed key. -/
inductive Step : Pattern → Nat → List PathStep → Pattern → Prop where
  | default {left right} : Step (.default left right) 0 [] left
  | property {props i key value shorthand k} : props[i]? = some (.keyValue key value shorthand) →
      key.static? = some k → Step (.object props) i [.key k] value
  | element {elems i q} : elems[i]? = some (some q) → (∀ inner, q ≠ .rest inner) →
      Step (.array elems) i [.index i] q
  | rest {elems i inner} : elems[i]? = some (some (.rest inner)) →
      Step (.array elems) i [.rest] inner

/-- Steps lead from a pattern to the part at a position, and say a path. -/
inductive Reaches : Pattern → List Nat → List PathStep → Pattern → Prop where
  | here {p} : Reaches p [] [] p
  | step {p q r i said position path} : Step p i said q → Reaches q position path r →
      Reaches p (i :: position) (said ++ path) r

/-- The identifier `x` is bound at a position, which is reached by the path within the depth of
patterns. -/
def BindsAt (p : Pattern) (x : String) (position : List Nat) (path : List PathStep) : Prop :=
  p.Reaches position path (.ident x) ∧ position.length ≤ Limits.patternDepth

/-! ### Parts by their numbers -/

/-- What a step to a property says, and where it leads. -/
def propBranch : PatternProp → Option (List PathStep × Pattern)
  | .keyValue key value _ => key.static?.map fun k => ([.key k], value)
  | .rest _ => none

/-- What a step to the element at a position says, and where it leads. -/
def elemBranch (i : Nat) : Option Pattern → Option (List PathStep × Pattern)
  | some (.rest inner) => some ([.rest], inner)
  | some q => some ([.index i], q)
  | none => none

/-- The parts of a pattern, from left to right, with what the steps to them say. -/
def branches : Pattern → List (Option (List PathStep × Pattern))
  | .ident _ | .rest _ => []
  | .default left _ => [some ([], left)]
  | .object props => props.map propBranch
  | .array elems => elems.mapIdx elemBranch

variable {p q r : Pattern} {i : Nat} {said path path' : List PathStep} {position : List Nat}
  {x : String} {n : Nat}

theorem step_iff : p.Step i said q ↔ p.branches[i]? = some (some (said, q)) := by
  constructor
  · intro h
    cases h with
    | default => rfl
    | property hprop hkey => simp [branches, hprop, propBranch, hkey]
    | @element elems i q helem hrest =>
      cases q with
      | rest inner => exact absurd rfl (hrest inner)
      | _ => simp [branches, helem, elemBranch]
    | rest helem => simp [branches, helem, elemBranch]
  · intro h
    cases p with
    | ident | rest => simp [branches] at h
    | default left right =>
      cases i with
      | zero =>
        cases h
        exact .default
      | succ i => simp [branches] at h
    | object props =>
      simp only [branches, List.getElem?_map, Option.map_eq_some_iff] at h
      obtain ⟨prop, hprop, hbranch⟩ := h
      cases prop with
      | rest => cases hbranch
      | keyValue key value shorthand =>
        obtain ⟨k, hkey, hsaid⟩ := Option.map_eq_some_iff.mp hbranch
        cases hsaid
        exact .property hprop hkey
    | array elems =>
      simp only [branches, List.getElem?_mapIdx, Option.map_eq_some_iff] at h
      obtain ⟨elem, helem, hbranch⟩ := h
      match elem, hbranch with
      | some (.rest inner), hbranch =>
        cases hbranch
        exact .rest helem
      | some (.ident _), hbranch | some (.object _), hbranch | some (.array _), hbranch
      | some (.default _ _), hbranch =>
        cases hbranch
        exact .element helem nofun

/-! ### The search -/

/-- The search goes on behind a step. -/
def follow (x : String) (n : Nat) : Option (List PathStep × Pattern) → Option (List PathStep)
  | some (said, q) => (q.pathWithin? x n).map (said ++ ·)
  | none => none

theorem propsPath?_eq (x : String) (n : Nat) (props : List PatternProp) :
    propsPath? x n props = (props.map propBranch).findSome? (follow x n) := by
  induction props with
  | nil => rfl
  | cons prop props ih =>
    rw [List.map_cons, List.findSome?_cons, ← ih]
    cases prop with
    | rest inner => rfl
    | keyValue key value shorthand =>
      rw [propsPath?, propBranch]
      cases key.static? with
      | none => rfl
      | some k =>
        simp only [Option.map_some, follow]
        cases value.pathWithin? x n <;> rfl

theorem elemsPath?_eq (x : String) (n i : Nat) (elems : List (Option Pattern)) :
    elemsPath? x n i elems = (elems.mapIdx fun j => elemBranch (i + j)).findSome? (follow x n) := by
  induction elems generalizing i with
  | nil => rfl
  | cons elem elems ih =>
    have hshift : (elems.mapIdx fun j => elemBranch (i + (j + 1))) =
        elems.mapIdx fun j => elemBranch (i + 1 + j) := by
      simp only [Nat.add_assoc, Nat.add_comm 1]
    rw [List.mapIdx_cons, List.findSome?_cons, hshift, ← ih]
    match elem with
    | none => rfl
    | some (.rest inner) =>
      simp only [elemsPath?, elemBranch, follow]
      cases inner.pathWithin? x n <;> rfl
    | some (.ident y) | some (.object props) | some (.array elems') | some (.default left right) =>
      simp only [elemsPath?, elemBranch, follow, Nat.add_zero]
      generalize pathWithin? x n _ = found
      cases found <;> rfl

/-- The search finds an identifier at once or goes through the parts from left to right. -/
theorem pathWithin?_succ (hp : p ≠ .ident x) :
    p.pathWithin? x (n + 1) = p.branches.findSome? (follow x n) := by
  cases p with
  | ident y =>
    have hy : y ≠ x := fun hy => hp (hy ▸ rfl)
    simp [pathWithin?, branches, hy]
  | object props => rw [pathWithin?, branches, propsPath?_eq]
  | array elems =>
    rw [pathWithin?, branches, elemsPath?_eq]
    simp only [Nat.zero_add]
  | default left right =>
    simp only [pathWithin?, branches, List.findSome?_cons, follow]
    cases left.pathWithin? x n <;> rfl
  | rest inner => simp [pathWithin?, branches]

theorem pathWithin?_ident (x : String) (n : Nat) : (ident x).pathWithin? x (n + 1) = some [] := by
  simp [pathWithin?]

/-- If the search finds nothing then the identifier stands deeper than it goes. -/
theorem Reaches.le_length (h : p.Reaches position path (.ident x))
    (hnone : p.pathWithin? x n = none) : n ≤ position.length := by
  generalize hr : Pattern.ident x = r at h
  induction h generalizing n with
  | here =>
    subst hr
    cases n with
    | zero => exact Nat.zero_le _
    | succ n => simp [pathWithin?_ident] at hnone
  | @step p q r i said position path hstep _ ih =>
    cases n with
    | zero => exact Nat.zero_le _
    | succ n =>
      have hp : p ≠ .ident x := by
        rintro rfl
        cases hstep
      rw [pathWithin?_succ hp, List.findSome?_eq_none_iff] at hnone
      have hfollow := hnone _ (List.mem_of_getElem? (step_iff.mp hstep))
      rw [follow, Option.map_eq_none_iff] at hfollow
      exact Nat.succ_le_succ (ih hfollow hr)

/-- What the search finds is the path to an identifier that no other one within its depth stands
before. -/
theorem exists_first (h : p.pathWithin? x n = some path) :
    ∃ position, p.Reaches position path (.ident x) ∧ position.length < n ∧
      ∀ other path', p.Reaches other path' (.ident x) → other.length < n →
        ¬ List.Lex (· < ·) other position := by
  induction n generalizing p path with
  | zero => simp [pathWithin?] at h
  | succ n ih =>
    by_cases hp : p = .ident x
    · subst hp
      rw [pathWithin?_ident] at h
      cases h
      exact ⟨[], .here, Nat.succ_pos n, fun other _ _ _ => nofun⟩
    · rw [pathWithin?_succ hp, List.findSome?_eq_some_iff] at h
      obtain ⟨before, branch, after, hbranches, hbranch, hbefore⟩ := h
      match branch, hbranch with
      | some (said, q), hbranch =>
        obtain ⟨rest, hrest, rfl⟩ := Option.map_eq_some_iff.mp hbranch
        obtain ⟨position, hreaches, hlength, hfirst⟩ := ih hrest
        have hstep : p.Step before.length said q := step_iff.mpr (by simp [hbranches])
        refine ⟨before.length :: position, .step hstep hreaches, Nat.succ_lt_succ hlength, ?_⟩
        intro other path' hother hlt
        cases hother with
        | here => exact absurd rfl hp
        | @step _ q' _ j said' other path' hstep' hother =>
          have hj := step_iff.mp hstep'
          rcases Nat.lt_trichotomy j before.length with hlt' | rfl | hgt
          · -- the search has passed this part without success
            rw [hbranches, List.getElem?_append_left hlt'] at hj
            have hnone := hbefore _ (List.mem_of_getElem? hj)
            rw [follow, Option.map_eq_none_iff] at hnone
            have hdeep := hother.le_length hnone
            rw [List.length_cons] at hlt
            omega
          · rw [hbranches] at hj
            simp only [List.getElem?_append_right (Nat.le_refl _), Nat.sub_self,
              List.getElem?_cons_zero, Option.some.injEq, Prod.mk.injEq] at hj
            obtain ⟨rfl, rfl⟩ := hj
            rw [List.lex_cons_iff]
            exact hfirst other path' hother (Nat.lt_of_succ_lt_succ hlt)
          · intro hbefore
            cases hbefore with
            | rel hlt' => exact Nat.lt_asymm hgt hlt'
            | cons _ => exact Nat.lt_irrefl _ hgt

/-- The path to a position is what the steps on the way say. -/
theorem Reaches.unique (h : p.Reaches position path q) (h' : p.Reaches position path' r) :
    path = path' ∧ q = r := by
  induction h generalizing path' r with
  | here =>
    cases h'
    exact ⟨rfl, rfl⟩
  | step hstep _ ih =>
    cases h' with
    | step hstep' hreaches =>
      have hsame := (step_iff.mp hstep).symm.trans (step_iff.mp hstep')
      simp only [Option.some.injEq, Prod.mk.injEq] at hsame
      obtain ⟨rfl, rfl⟩ := hsame
      obtain ⟨rfl, rfl⟩ := ih hreaches
      exact ⟨rfl, rfl⟩

/-! ### Bound names -/

theorem boundNames_subset_boundByProps {props : List PatternProp} {key : PropKey} {value : Pattern}
    {shorthand : Bool} (h : .keyValue key value shorthand ∈ props) :
    value.boundNames ⊆ boundByProps props := by
  induction props with
  | nil => cases h
  | cons prop props ih =>
    intro y hy
    rcases List.mem_cons.mp h with rfl | hmem
    · exact List.mem_append_left _ hy
    · cases prop with
      | keyValue | rest => exact List.mem_append_right _ (ih hmem hy)

theorem boundNames_subset_boundByElems {elems : List (Option Pattern)} (h : some q ∈ elems) :
    q.boundNames ⊆ boundByElems elems := by
  induction elems with
  | nil => cases h
  | cons elem elems ih =>
    intro y hy
    rcases List.mem_cons.mp h with rfl | hmem
    · exact List.mem_append_left _ hy
    · cases elem with
      | none => exact ih hmem hy
      | some _ => exact List.mem_append_right _ (ih hmem hy)

theorem Step.boundNames_subset (h : p.Step i said q) : q.boundNames ⊆ p.boundNames := by
  cases h with
  | default => exact fun _ => id
  | property hprop => exact boundNames_subset_boundByProps (List.mem_of_getElem? hprop)
  | element helem => exact boundNames_subset_boundByElems (List.mem_of_getElem? helem)
  | rest helem =>
    intro y hy
    exact boundNames_subset_boundByElems (List.mem_of_getElem? helem) hy

/-- An identifier that is reached is bound by the pattern. -/
theorem Reaches.boundNames_subset (h : p.Reaches position path q) :
    q.boundNames ⊆ p.boundNames := by
  induction h with
  | here => exact fun _ => id
  | step hstep _ ih => exact List.Subset.trans ih hstep.boundNames_subset

/-! ### Paths -/

/-- A path is found exactly if some position within the depth of patterns binds the identifier,
which is then a bound name of the pattern. The path is the one to the first of these positions. -/
theorem pathTo?_eq_some_iff (p : Pattern) (x : String) :
    ((∃ path, p.pathTo? x = some path) ↔ ∃ position path, p.BindsAt x position path) ∧
    (∀ path, p.pathTo? x = some path ↔ ∃ position, p.BindsAt x position path ∧
      ∀ other path', p.BindsAt x other path' → ¬ List.Lex (· < ·) other position) ∧
    ∀ position path, p.BindsAt x position path → x ∈ p.boundNames := by
  have hfound (path) (h : p.pathTo? x = some path) : ∃ position, p.BindsAt x position path ∧
      ∀ other path', p.BindsAt x other path' → ¬ List.Lex (· < ·) other position := by
    obtain ⟨position, hreaches, hlength, hfirst⟩ := exists_first h
    refine ⟨position, ⟨hreaches, Nat.le_of_lt_succ hlength⟩, ?_⟩
    rintro other path' ⟨hother, hle⟩
    exact hfirst other path' hother (Nat.lt_succ_of_le hle)
  have hexists (position path) (h : p.BindsAt x position path) :
      ∃ path', p.pathTo? x = some path' := by
    rw [← Option.ne_none_iff_exists']
    intro hnone
    exact Nat.not_succ_le_self _ (Nat.le_trans (h.1.le_length hnone) h.2)
  refine ⟨⟨?_, ?_⟩, fun path => ⟨hfound path, ?_⟩, ?_⟩
  · rintro ⟨path, hpath⟩
    obtain ⟨position, hbinds, -⟩ := hfound path hpath
    exact ⟨position, path, hbinds⟩
  · rintro ⟨position, path, hbinds⟩
    exact hexists position path hbinds
  · rintro ⟨position, hbinds, hfirst⟩
    obtain ⟨path', hpath'⟩ := hexists position path hbinds
    obtain ⟨position', hbinds', hfirst'⟩ := hfound path' hpath'
    obtain rfl : position = position' :=
      Std.Trichotomous.trichotomous _ _ (hfirst' _ _ hbinds) (hfirst _ _ hbinds')
    obtain ⟨rfl, -⟩ := hbinds.1.unique hbinds'.1
    exact hpath'
  · rintro position path ⟨hreaches, -⟩
    exact hreaches.boundNames_subset List.mem_cons_self

/-- The pattern `{ a: [{ [k]: x }, , { x } = b], ...x }`. -/
example : (Pattern.object [.keyValue (.ident "a") (.array
      [some (.object [.keyValue (.computed (.ident "k")) (.ident "x") false]), none,
        some (.default (.object [.keyValue (.ident "x") (.ident "x") true]) (.ident "b"))]) false,
      .rest (.ident "x")]).pathTo? "x" = some [.key "a", .index 2, .key "x"] := rfl

end Pattern

end TypeGuard
