import Mathlib.Data.List.Nodup
import TypeGuard.Assertion
import TypeGuard.Binding
import TypeGuard.Destructuring
import TypeGuard.Proofs.Lowering.Conforms

/-!
# Values taken apart and put together again

What a destructuring pattern binds, and what the expression that puts the value together again
evaluates to. A property or element that a value lacks reads as `null`. Patterns are plain here:
they consist of identifiers, properties with static keys and array elements.
-/

namespace TypeGuard

namespace Json

/-- The property of a value under a key. -/
def property (v : Json) (key : String) : Json :=
  match v with
  | obj members => read members key
  | _ => null

/-- The element of a value at a position. -/
def element (v : Json) (i : Nat) : Json :=
  match v with
  | arr items => items.getD i null
  | _ => null

/-- The members of an object literal: every key where it stands first, with the value it has
last. -/
def literalMembers (entries : List (String × Json)) : List (String × Json) :=
  (entries.map (·.1)).eraseDups.map fun key => (key, (entries.reverse.lookup key).getD null)

theorem lookup_map_pair (f : String → Json) (keys : List String) (key : String) :
    (keys.map fun k => (k, f k)).lookup key = if key ∈ keys then some (f key) else none := by
  induction keys with
  | nil => rfl
  | cons k keys ih =>
    rw [List.map_cons, List.lookup_cons]
    by_cases hkey : key = k
    · simp [hkey]
    · have hbeq : (key == k) = false := beq_eq_false_iff_ne.mpr hkey
      simp only [hbeq, ih, List.mem_cons, hkey, false_or]

theorem mem_keys_iff_lookup {entries : List (String × Json)} {key : String} :
    key ∈ entries.map (·.1) ↔ (entries.lookup key).isSome = true := by
  induction entries with
  | nil => simp
  | cons entry entries ih =>
    rw [List.map_cons, List.mem_cons, ih, List.lookup_cons]
    by_cases hkey : key = entry.1
    · simp [hkey]
    · have hbeq : (key == entry.1) = false := beq_eq_false_iff_ne.mpr hkey
      simp only [hbeq, hkey, false_or]

/-- Reading an object literal gives the last entry under the key. -/
theorem read_literalMembers (entries : List (String × Json)) (key : String) :
    read (literalMembers entries) key = (entries.reverse.lookup key).getD null := by
  rw [read, literalMembers, lookup_map_pair]
  split
  · rfl
  · rename_i hkey
    have hnone : (entries.reverse.lookup key).isSome = false := by
      rw [← Bool.not_eq_true, ← mem_keys_iff_lookup, List.map_reverse, List.mem_reverse]
      simpa using hkey
    rw [Option.isSome_eq_false_iff, Option.isNone_iff_eq_none] at hnone
    rw [hnone]

/-- The members of an object literal are the last entries under their keys. -/
theorem mem_literalMembers_iff {entries : List (String × Json)} {entry : String × Json} :
    entry ∈ literalMembers entries ↔ entries.reverse.lookup entry.1 = some entry.2 := by
  have hkey : entry.1 ∈ (entries.map (·.1)).eraseDups ↔
      (entries.reverse.lookup entry.1).isSome = true := by
    rw [← mem_keys_iff_lookup, List.map_reverse, List.mem_reverse, List.mem_eraseDups]
  obtain ⟨key, v⟩ := entry
  simp only [literalMembers, List.mem_map, Prod.mk.injEq]
  constructor
  · rintro ⟨k, hk, rfl, rfl⟩
    obtain ⟨v, hv⟩ := Option.isSome_iff_exists.mp (hkey.mp hk)
    simp [hv]
  · intro hlookup
    exact ⟨key, hkey.mpr (by rw [hlookup]; rfl), rfl, by rw [hlookup]; rfl⟩

end Json

/-! ### Plain patterns -/

mutual
/-- Whether the pattern has neither defaults nor rest parts and all its keys are static. -/
def Pattern.isPlain : Pattern → Bool
  | .ident _ => true
  | .object props => propsPlain props
  | .array elems => elemsPlain elems
  | .default _ _ | .rest _ => false

def propsPlain : List PatternProp → Bool
  | [] => true
  | .keyValue key value _ :: ps => key.static?.isSome && (value.isPlain && propsPlain ps)
  | .rest _ :: _ => false

def elemsPlain : List (Option Pattern) → Bool
  | [] => true
  | some p :: ps => p.isPlain && elemsPlain ps
  | none :: ps => elemsPlain ps
end

/-! ### Binding -/

mutual
/-- The names that a plain pattern binds, with the parts of the value that they are bound to. -/
def Pattern.bindTo (v : Json) : Pattern → List (String × Json)
  | .ident name => [(name, v)]
  | .object props => bindProps v props
  | .array elems => bindElems v 0 elems
  | .default _ _ | .rest _ => []

def bindProps (v : Json) : List PatternProp → List (String × Json)
  | [] => []
  | .keyValue key value _ :: ps =>
    match key.static? with
    | some k => value.bindTo (v.property k) ++ bindProps v ps
    | none => bindProps v ps
  | .rest _ :: ps => bindProps v ps

/-- The elements of the pattern stand at the positions from `i` on. -/
def bindElems (v : Json) (i : Nat) : List (Option Pattern) → List (String × Json)
  | [] => []
  | some p :: ps => p.bindTo (v.element i) ++ bindElems v (i + 1) ps
  | none :: ps => bindElems v (i + 1) ps
end

mutual
theorem Pattern.map_fst_bindTo (v : Json) (p : Pattern) (h : p.isPlain = true) :
    (p.bindTo v).map (·.1) = p.boundNames := by
  match p with
  | .ident _ => rfl
  | .object props => exact map_fst_bindProps v props h
  | .array elems => exact map_fst_bindElems v 0 elems h

theorem map_fst_bindProps (v : Json) (ps : List PatternProp) (h : propsPlain ps = true) :
    (bindProps v ps).map (·.1) = boundByProps ps := by
  match ps with
  | [] => rfl
  | .keyValue key value _ :: ps =>
    simp only [propsPlain, Bool.and_eq_true] at h
    obtain ⟨hkey, hvalue, hps⟩ := h
    obtain ⟨k, hk⟩ := Option.isSome_iff_exists.mp hkey
    simp only [bindProps, boundByProps, hk, List.map_append,
      value.map_fst_bindTo (v.property k) hvalue, map_fst_bindProps v ps hps]

theorem map_fst_bindElems (v : Json) (i : Nat) (ps : List (Option Pattern))
    (h : elemsPlain ps = true) : (bindElems v i ps).map (·.1) = boundByElems ps := by
  match ps with
  | [] => rfl
  | some p :: ps =>
    simp only [elemsPlain, Bool.and_eq_true] at h
    simp only [bindElems, boundByElems, List.map_append, p.map_fst_bindTo (v.element i) h.1,
      map_fst_bindElems v (i + 1) ps h.2]
  | none :: ps => exact map_fst_bindElems v (i + 1) ps h
end

/-! ### Evaluation -/

mutual
/-- The value of an expression made of identifiers, array literals and object literals with static
keys. A hole of an array counts as `null`. -/
def Expr.eval (env : List (String × Json)) : Expr → Option Json
  | .ident name => env.lookup name
  | .array elems => (evalElems env elems).map .arr
  | .object props => (evalProps env props).map fun entries => .obj (Json.literalMembers entries)
  | _ => none

def evalElems (env : List (String × Json)) : List (Option Expr) → Option (List Json)
  | [] => some []
  | some e :: es => do return (← e.eval env) :: (← evalElems env es)
  | none :: es => do return .null :: (← evalElems env es)

def evalProps (env : List (String × Json)) : List ObjectProp → Option (List (String × Json))
  | [] => some []
  | .keyValue key value _ :: ps => do
    return (← key.static?, ← value.eval env) :: (← evalProps env ps)
  | .method _ _ :: _ | .spread _ :: _ => none
end

/-! ### Rebuilt values -/

mutual
/-- What is left of a value that a plain pattern took apart. -/
def Pattern.rebuild (v : Json) : Pattern → Json
  | .ident _ => v
  | .object props => .obj (Json.literalMembers (rebuildProps v props))
  | .array elems => .arr (rebuildElems v 0 elems)
  | .default _ _ | .rest _ => .null

def rebuildProps (v : Json) : List PatternProp → List (String × Json)
  | [] => []
  | .keyValue key value _ :: ps =>
    match key.static? with
    | some k => (k, value.rebuild (v.property k)) :: rebuildProps v ps
    | none => rebuildProps v ps
  | .rest _ :: ps => rebuildProps v ps

def rebuildElems (v : Json) (i : Nat) : List (Option Pattern) → List Json
  | [] => []
  | some p :: ps => p.rebuild (v.element i) :: rebuildElems v (i + 1) ps
  | none :: ps => .null :: rebuildElems v (i + 1) ps
end

@[simp] theorem Pattern.rebuild_object (v : Json) (props : List PatternProp) :
    (Pattern.object props).rebuild v = .obj (Json.literalMembers (rebuildProps v props)) := rfl

@[simp] theorem Pattern.rebuild_array (v : Json) (elems : List (Option Pattern)) :
    (Pattern.array elems).rebuild v = .arr (rebuildElems v 0 elems) := rfl

variable {env : List (String × Json)}

mutual
/-- Where every name has the value that the pattern binds it to, the rebuilt expression evaluates to
the rebuilt value. -/
theorem Pattern.eval_toValue (v : Json) (p : Pattern) (h : p.isPlain = true)
    (henv : ∀ b ∈ p.bindTo v, env.lookup b.1 = some b.2) :
    p.toValue.eval env = some (p.rebuild v) := by
  match p with
  | .ident name => exact henv (name, v) (List.mem_singleton_self _)
  | .object props =>
    simp only [Pattern.toValue, Expr.eval, evalProps_propValues v props h henv]
    rfl
  | .array elems =>
    simp only [Pattern.toValue, Expr.eval, evalElems_elemValues v 0 elems h henv]
    rfl

theorem evalProps_propValues (v : Json) (ps : List PatternProp) (h : propsPlain ps = true)
    (henv : ∀ b ∈ bindProps v ps, env.lookup b.1 = some b.2) :
    evalProps env (propValues ps) = some (rebuildProps v ps) := by
  match ps with
  | [] => rfl
  | .keyValue key value _ :: ps =>
    simp only [propsPlain, Bool.and_eq_true] at h
    obtain ⟨hkey, hvalue, hps⟩ := h
    obtain ⟨k, hk⟩ := Option.isSome_iff_exists.mp hkey
    simp only [bindProps, hk, List.mem_append] at henv
    have hvalue := value.eval_toValue (v.property k) hvalue fun b hb => henv b (.inl hb)
    have hps := evalProps_propValues v ps hps fun b hb => henv b (.inr hb)
    simp [propValues, evalProps, rebuildProps, hk, hvalue, hps]

theorem evalElems_elemValues (v : Json) (i : Nat) (ps : List (Option Pattern))
    (h : elemsPlain ps = true) (henv : ∀ b ∈ bindElems v i ps, env.lookup b.1 = some b.2) :
    evalElems env (elemValues ps) = some (rebuildElems v i ps) := by
  match ps with
  | [] => rfl
  | some p :: ps =>
    simp only [elemsPlain, Bool.and_eq_true] at h
    simp only [bindElems, List.mem_append] at henv
    have hp := p.eval_toValue (v.element i) h.1 fun b hb => henv b (.inl hb)
    have hps := evalElems_elemValues v (i + 1) ps h.2 fun b hb => henv b (.inr hb)
    simp [elemValues, evalElems, rebuildElems, hp, hps]
  | none :: ps =>
    have hps := evalElems_elemValues v (i + 1) ps h henv
    simp [elemValues, evalElems, rebuildElems, hps]
end

theorem lookup_of_nodup {b : String × Json} (hnodup : (env.map (·.1)).Nodup) (hb : b ∈ env) :
    env.lookup b.1 = some b.2 := by
  induction env with
  | nil => cases hb
  | cons entry env ih =>
    rw [List.map_cons, List.nodup_cons] at hnodup
    rcases List.mem_cons.mp hb with rfl | hb
    · exact List.lookup_cons_self
    · have hne : (b.1 == entry.1) = false := by
        rw [beq_eq_false_iff_ne]
        intro heq
        exact hnodup.1 (heq ▸ List.mem_map_of_mem hb)
      rw [List.lookup_cons, hne]
      exact ih hnodup.2 hb

/-- A pattern that binds different names rebuilds what is left of the value that it was bound to. -/
theorem Pattern.eval_bindTo (v : Json) {p : Pattern} (h : p.isPlain = true)
    (hnames : p.boundNames.Nodup) : p.toValue.eval (p.bindTo v) = some (p.rebuild v) := by
  refine p.eval_toValue v h fun b hb => lookup_of_nodup ?_ hb
  rw [p.map_fst_bindTo v h]
  exact hnames

/-! ### Parts of rebuilt values -/

/-- The pattern that an object pattern has for a key; the last one counts. -/
def patternFor? (key : String) : List PatternProp → Option Pattern
  | [] => none
  | .keyValue k value _ :: ps =>
    match patternFor? key ps with
    | some p => some p
    | none => if k.static? = some key then some value else none
  | .rest _ :: ps => patternFor? key ps

theorem isPlain_of_patternFor? {key : String} {p : Pattern} {ps : List PatternProp}
    (h : propsPlain ps = true) (hp : patternFor? key ps = some p) : p.isPlain = true := by
  induction ps with
  | nil => cases hp
  | cons q ps ih =>
    cases q with
    | rest inner => cases h
    | keyValue k value shorthand =>
      simp only [propsPlain, Bool.and_eq_true] at h
      rw [patternFor?] at hp
      split at hp
      · rename_i hlater
        cases hp
        exact ih h.2.2 hlater
      · split at hp
        · cases hp
          exact h.2.1
        · cases hp

theorem isPlain_of_getElem? {i : Nat} {p : Pattern} {ps : List (Option Pattern)}
    (h : elemsPlain ps = true) (hp : ps[i]? = some (some p)) : p.isPlain = true := by
  induction ps generalizing i with
  | nil => cases hp
  | cons q ps ih =>
    cases q with
    | none =>
      cases i with
      | zero => cases hp
      | succ i => exact ih h hp
    | some q =>
      simp only [elemsPlain, Bool.and_eq_true] at h
      cases i with
      | zero =>
        cases hp
        exact h.1
      | succ i => exact ih h.2 hp

theorem lookup_rebuildProps (v : Json) (key : String) (ps : List PatternProp) :
    (rebuildProps v ps).reverse.lookup key =
      (patternFor? key ps).map (·.rebuild (v.property key)) := by
  induction ps with
  | nil => rfl
  | cons p ps ih =>
    cases p with
    | rest inner => exact ih
    | keyValue k value shorthand =>
      rw [rebuildProps, patternFor?]
      cases hk : k.static? with
      | none =>
        simp only [ih]
        cases patternFor? key ps <;> simp
      | some name =>
        simp only [List.reverse_cons, List.lookup_append, ih]
        cases patternFor? key ps with
        | some p => rfl
        | none =>
          by_cases hname : name = key
          · simp [hname]
          · have hbeq : (key == name) = false := beq_eq_false_iff_ne.mpr (Ne.symm hname)
            simp [hname, List.lookup_cons, hbeq]

/-- A rebuilt object has the rebuilt property under each key that the pattern has. -/
theorem read_rebuildProps (v : Json) (key : String) (ps : List PatternProp) :
    Json.read (Json.literalMembers (rebuildProps v ps)) key =
      ((patternFor? key ps).map (·.rebuild (v.property key))).getD .null := by
  rw [Json.read_literalMembers, lookup_rebuildProps]

/-- The members of a rebuilt object are the rebuilt properties that the pattern has. -/
theorem mem_rebuildProps_iff {v : Json} {ps : List PatternProp} {entry : String × Json} :
    entry ∈ Json.literalMembers (rebuildProps v ps) ↔
      ∃ p, patternFor? entry.1 ps = some p ∧ entry.2 = p.rebuild (v.property entry.1) := by
  rw [Json.mem_literalMembers_iff, lookup_rebuildProps, Option.map_eq_some_iff]
  simp only [eq_comm]

theorem length_rebuildElems (v : Json) (start : Nat) (ps : List (Option Pattern)) :
    (rebuildElems v start ps).length = ps.length := by
  induction ps generalizing start with
  | nil => rfl
  | cons p ps ih => cases p <;> exact congrArg Nat.succ (ih (start + 1))

/-- A rebuilt array has the rebuilt element at each position, and `null` in place of a hole. -/
theorem getElem?_rebuildElems (v : Json) (start i : Nat) (ps : List (Option Pattern)) :
    (rebuildElems v start ps)[i]? =
      ps[i]?.map fun p => (p.map (·.rebuild (v.element (start + i)))).getD .null := by
  induction ps generalizing start i with
  | nil => rfl
  | cons p ps ih =>
    cases i with
    | zero => cases p <;> rfl
    | succ i =>
      have hnext : start + 1 + i = start + (i + 1) := by omega
      cases p with
      | none => simp only [rebuildElems, List.getElem?_cons_succ, ih, hnext]
      | some p => simp only [rebuildElems, List.getElem?_cons_succ, ih, hnext]

end TypeGuard
