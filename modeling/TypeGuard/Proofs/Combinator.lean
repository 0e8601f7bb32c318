import Mathlib.Data.List.Induction
import Mathlib.Data.List.Nodup
import TypeGuard.Combinator

/-!
# Combinators as trees

How high a combinator is, whether it refers to types by name, and which properties stand in a list
that was built by inserting them.
-/

namespace TypeGuard.Combinator

mutual
/-- How many levels are below the root. -/
def height : Combinator → Nat
  | builtin _ | ref _ | enum _ _ | declare _ => 0
  | list elem _ => elem.height + 1
  | maybe inner _ => inner.height + 1
  | refinement base _ _ => base.height + 1
  | dict key value _ => max key.height value.height + 1
  | tuple elems _ => levels elems
  | union members _ => levels members
  | intersection members _ => levels members
  | extend members _ => levels members
  | interface ps _ _ => propLevels ps
  | props ps => propLevels ps

/-- How many levels the combinators of a list take. -/
def levels : List Combinator → Nat
  | [] => 0
  | c :: cs => max (c.height + 1) (levels cs)

def propLevels : List (String × Combinator) → Nat
  | [] => 0
  | (_, c) :: ps => max (c.height + 1) (propLevels ps)
end

mutual
/-- Whether no type is referred to by its name. -/
def isClosed : Combinator → Bool
  | ref _ | declare _ => false
  | builtin _ | enum _ _ => true
  | list elem _ => elem.isClosed
  | maybe inner _ => inner.isClosed
  | refinement base _ _ => base.isClosed
  | dict key value _ => key.isClosed && value.isClosed
  | tuple elems _ => allClosed elems
  | union members _ => allClosed members
  | intersection members _ => allClosed members
  | extend members _ => allClosed members
  | interface ps _ _ => allPropsClosed ps
  | props ps => allPropsClosed ps

def allClosed : List Combinator → Bool
  | [] => true
  | c :: cs => c.isClosed && allClosed cs

def allPropsClosed : List (String × Combinator) → Bool
  | [] => true
  | (_, c) :: ps => c.isClosed && allPropsClosed ps
end

theorem propLevels_eq (ps : List (String × Combinator)) :
    propLevels ps = levels (ps.map (·.2)) := by
  induction ps with
  | nil => rfl
  | cons p ps ih => rw [propLevels, ih, List.map_cons, levels]

theorem allPropsClosed_eq (ps : List (String × Combinator)) :
    allPropsClosed ps = allClosed (ps.map (·.2)) := by
  induction ps with
  | nil => rfl
  | cons p ps ih => rw [allPropsClosed, ih, List.map_cons, allClosed]

theorem height_lt_levels {c : Combinator} {cs : List Combinator} (h : c ∈ cs) :
    c.height < levels cs := by
  induction cs with
  | nil => cases h
  | cons d cs ih =>
    rw [levels]
    obtain rfl | h := List.mem_cons.mp h
    · omega
    · exact Nat.lt_of_lt_of_le (ih h) (Nat.le_max_right _ _)

theorem isClosed_of_mem {c : Combinator} {cs : List Combinator} (hcs : allClosed cs = true)
    (h : c ∈ cs) : c.isClosed = true := by
  induction cs with
  | nil => cases h
  | cons d cs ih =>
    rw [allClosed, Bool.and_eq_true] at hcs
    obtain rfl | h := List.mem_cons.mp h
    · exact hcs.1
    · exact ih hcs.2 h

/-! ### Properties -/

theorem keys_insertProp (key : String) (value : Combinator) (ps : List (String × Combinator)) :
    (insertProp key value ps).map (·.1) =
      if key ∈ ps.map (·.1) then ps.map (·.1) else ps.map (·.1) ++ [key] := by
  induction ps with
  | nil => rfl
  | cons p ps ih =>
    rw [insertProp]
    split
    · rename_i hkey
      simp [← hkey]
    · rename_i hkey
      simp only [List.map_cons, ih, List.mem_cons, Ne.symm hkey, false_or]
      split <;> rfl

theorem mem_insertProp {key k : String} {value c : Combinator} {ps : List (String × Combinator)}
    (hps : (ps.map (·.1)).Nodup) :
    (k, c) ∈ insertProp key value ps ↔ k = key ∧ c = value ∨ k ≠ key ∧ (k, c) ∈ ps := by
  induction ps with
  | nil => simp [insertProp]
  | cons p ps ih =>
    obtain ⟨first, value'⟩ := p
    rw [List.map_cons, List.nodup_cons] at hps
    rw [insertProp]
    split
    · rename_i hfirst
      subst hfirst
      have hne : (k, c) ∈ ps → k ≠ first := by
        rintro h rfl
        exact hps.1 (List.mem_map.mpr ⟨_, h, rfl⟩)
      simp only [List.mem_cons, Prod.mk.injEq]
      tauto
    · rename_i hfirst
      simp only [List.mem_cons, Prod.mk.injEq, ih hps.2]
      constructor
      · rintro (⟨rfl, rfl⟩ | h)
        · exact .inr ⟨hfirst, .inl ⟨rfl, rfl⟩⟩
        · tauto
      · tauto

theorem propsOfList_append (ps : List (String × Combinator)) (key : String) (value : Combinator) :
    propsOfList (ps ++ [(key, value)]) = insertProp key value (propsOfList ps) := by
  rw [propsOfList, List.foldl_append]
  rfl

theorem nodup_keys_propsOfList (ps : List (String × Combinator)) :
    ((propsOfList ps).map (·.1)).Nodup := by
  induction ps using List.reverseRecOn with
  | nil => exact List.nodup_nil
  | append_singleton ps p ih =>
    rw [propsOfList_append, keys_insertProp]
    split
    · exact ih
    · rename_i hkey
      exact List.nodup_append.mpr ⟨ih, List.nodup_singleton _, by
        rintro a ha b hb rfl
        exact hkey (List.mem_singleton.mp hb ▸ ha)⟩

/-- Of several properties with the same key the last one stands in the list. -/
theorem mem_propsOfList {ps : List (String × Combinator)} {key : String} {c : Combinator} :
    (key, c) ∈ propsOfList ps ↔ ps.reverse.find? (·.1 == key) = some (key, c) := by
  induction ps using List.reverseRecOn with
  | nil => simp [propsOfList]
  | append_singleton ps p ih =>
    obtain ⟨k, value⟩ := p
    rw [propsOfList_append, mem_insertProp (nodup_keys_propsOfList ps), ih, List.reverse_append,
      List.reverse_singleton, List.singleton_append, List.find?_cons]
    by_cases hkey : k = key
    · subst hkey
      simp [eq_comm]
    · have hbeq : (k == key) = false := beq_eq_false_iff_ne.mpr hkey
      simp [hbeq, Ne.symm hkey]

end TypeGuard.Combinator
