import Mathlib.Logic.Relation
import TypeGuard.Proofs.Combinator

/-!
# Nodes of combinators

The combinators that stand somewhere in a combinator, and the names that they carry.
-/

namespace TypeGuard.Combinator

/-- The combinators directly below the root. -/
def children : Combinator → List Combinator
  | builtin _ | ref _ | enum _ _ | declare _ => []
  | list elem _ => [elem]
  | maybe inner _ => [inner]
  | refinement base _ _ => [base]
  | dict key value _ => [key, value]
  | tuple elems _ => elems
  | union members _ | intersection members _ | extend members _ => members
  | interface ps _ _ | props ps => ps.map (·.2)

/-- The second combinator stands somewhere in the first one, possibly at its root. -/
def Contains (c d : Combinator) : Prop := Relation.ReflTransGen (fun a b => b ∈ a.children) c d

/-- All combinators that stand in a combinator have a property. -/
def Everywhere (P : Combinator → Prop) (c : Combinator) : Prop := ∀ d, c.Contains d → P d

variable {P Q : Combinator → Prop} {c d : Combinator}

theorem everywhere_iff : c.Everywhere P ↔ P c ∧ ∀ d ∈ c.children, d.Everywhere P := by
  constructor
  · intro h
    refine ⟨h c .refl, ?_⟩
    intro d hd e he
    exact h e (.head hd he)
  · rintro ⟨hroot, hbelow⟩ e he
    obtain rfl | ⟨d, hd, hrest⟩ := he.cases_head
    · exact hroot
    · exact hbelow d hd e hrest

theorem Everywhere.root (h : c.Everywhere P) : P c := h c .refl

theorem Everywhere.child (h : c.Everywhere P) (hd : d ∈ c.children) : d.Everywhere P :=
  (everywhere_iff.mp h).2 d hd

theorem Everywhere.imp (h : c.Everywhere P) (hPQ : ∀ d, P d → Q d) : c.Everywhere Q := by
  intro d hd
  exact hPQ d (h d hd)

theorem contains_iff : c.Contains d ↔ c = d ∨ ∃ a ∈ c.children, a.Contains d :=
  Relation.ReflTransGen.cases_head_iff

theorem contains_iff_of_ne (h : c ≠ d) : c.Contains d ↔ ∃ a ∈ c.children, a.Contains d :=
  contains_iff.trans (or_iff_right h)

theorem height_lt_of_mem_children (h : d ∈ c.children) : d.height < c.height := by
  cases c with
  | builtin | ref | enum | declare => cases h
  | list | maybe | refinement =>
    cases List.mem_singleton.mp h
    exact Nat.lt_succ_self _
  | dict key value =>
    simp only [children, List.mem_cons, List.not_mem_nil, or_false] at h
    rw [height]
    obtain rfl | rfl := h <;> omega
  | tuple | union | intersection | extend => exact height_lt_levels h
  | interface | props =>
    rw [height, propLevels_eq]
    exact height_lt_levels h

/-! ### Extensions -/

/-- Whether the root is an extension. -/
def isExtension : Combinator → Bool
  | extend _ _ => true
  | _ => false

theorem anyUsesExtend_eq (cs : List Combinator) : anyUsesExtend cs = cs.any usesExtend := by
  induction cs with
  | nil => rfl
  | cons c cs ih => rw [anyUsesExtend, ih, List.any_cons]

theorem anyPropUsesExtend_eq (ps : List (String × Combinator)) :
    anyPropUsesExtend ps = (ps.map (·.2)).any usesExtend := by
  induction ps with
  | nil => rfl
  | cons p ps ih => rw [anyPropUsesExtend, ih, List.map_cons, List.any_cons]

theorem usesExtend_eq (hc : c.isExtension = false) : c.usesExtend = c.children.any usesExtend := by
  cases c with
  | extend => cases hc
  | _ => simp [usesExtend, children, anyUsesExtend_eq, anyPropUsesExtend_eq]

/-- A combinator without an extension does not refer to the extend helper. -/
theorem usesExtend_of_everywhere {c : Combinator} (h : c.Everywhere (·.isExtension = false)) :
    c.usesExtend = false := by
  rw [usesExtend_eq h.root, List.any_eq_false]
  intro d hd
  rw [usesExtend_of_everywhere (h.child hd)]
  exact Bool.false_ne_true
termination_by c.height
decreasing_by exact height_lt_of_mem_children hd

/-! ### Names -/

/-- The name at the root. -/
def name? : Combinator → Option String
  | builtin _ | ref _ | declare _ | props _ => none
  | list _ name | maybe _ name | tuple _ name | union _ name | enum _ name | dict _ _ name
  | refinement _ _ name | interface _ name _ | intersection _ name | extend _ name => name

/-- Whether the root is constructed, so that it can carry a name. -/
def isConstructed : Combinator → Bool
  | builtin _ | ref _ | declare _ | props _ => false
  | list _ _ | maybe _ _ | tuple _ _ | union _ _ | enum _ _ | dict _ _ _ | refinement _ _ _
  | interface _ _ _ | intersection _ _ | extend _ _ => true

/-- The tree without the name at its root. -/
def unnamed : Combinator → Combinator
  | list elem _ => list elem none
  | maybe inner _ => maybe inner none
  | tuple elems _ => tuple elems none
  | union members _ => union members none
  | enum values _ => enum values none
  | dict key value _ => dict key value none
  | refinement base predicate _ => refinement base predicate none
  | interface ps _ exact => interface ps none exact
  | intersection members _ => intersection members none
  | extend members _ => extend members none
  | c => c

theorem unnamed_of_name? (h : c.name? = none) : c.unnamed = c := by
  cases c with
  | builtin | ref | declare | props => rfl
  | _ => cases h; rfl

@[simp] theorem children_unnamed (c : Combinator) : c.unnamed.children = c.children := by
  cases c <;> rfl

@[simp] theorem unnamed_withName (name : String) (c : Combinator) :
    (c.withName name).unnamed = c.unnamed := by
  cases c <;> rfl

@[simp] theorem isConstructed_withName (name : String) (c : Combinator) :
    (c.withName name).isConstructed = c.isConstructed := by
  cases c <;> rfl

theorem name?_withName (name : String) (c : Combinator) :
    (c.withName name).name? = if c.isConstructed then some name else none := by
  cases c <;> rfl

/-! ### Trees under a name -/

theorem contains_ref_named {n : TypeName} (name : Option String) (c : Combinator) :
    (c.named name).Contains (.ref n) ↔ c.Contains (.ref n) := by
  cases name with
  | none => exact Iff.rfl
  | some name =>
    cases c with
    | builtin | ref | declare | props => exact Iff.rfl
    | _ => rw [contains_iff_of_ne (by nofun), contains_iff_of_ne (by nofun)]; exact Iff.rfl

theorem usesExtend_named (name : Option String) (c : Combinator) :
    (c.named name).usesExtend = c.usesExtend := by
  cases name with
  | none => rfl
  | some name => cases c <;> rfl

end TypeGuard.Combinator
