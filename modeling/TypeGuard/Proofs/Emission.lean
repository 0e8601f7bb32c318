import Mathlib.Tactic.Tauto
import TypeGuard.Proofs.Shedding.Mirror

/-!
# What visits insert, in order

A visit inserts assertions, constants of declared types and definitions into the tree that it
returns, and puts off definitions for the list around it. Both are logged: `Emits` says of a visit
that it has a result and logs of some kind, and that they account for all that changed in the state.
Visits one after the other append their logs.
-/

namespace TypeGuard

/-- What a visit inserts into a tree. -/
inductive Inserted where
  /-- The assertion that a value passes a check. -/
  | assertion (check : Combinator)
  /-- The constant for a declared type. -/
  | constant (name : String) (check : Combinator)
  /-- The definition of a recursive type. -/
  | definition (d : Definition)

namespace Inserted

def check : Inserted → Combinator
  | assertion check => check
  | constant _ check => check
  | definition d => d.check

def isAssertion : Inserted → Bool
  | assertion _ => true
  | _ => false

def isConstant : Inserted → Bool
  | constant _ _ => true
  | _ => false

def isDefinition : Inserted → Bool
  | definition _ => true
  | _ => false

/-- Whether the check that is inserted refers to the extend helper. -/
def usesExtend (i : Inserted) : Bool := i.check.usesExtend

@[simp] theorem any_isAssertion_definitions (ds : List Definition) :
    (ds.map definition).any (·.isAssertion) = false := by
  rw [List.any_eq_false]
  simp [isAssertion]

@[simp] theorem any_isConstant_definitions (ds : List Definition) :
    (ds.map definition).any (·.isConstant) = false := by
  rw [List.any_eq_false]
  simp [isConstant]

@[simp] theorem any_isDefinition_definitions (ds : List Definition) :
    (ds.map definition).any (·.isDefinition) = true ↔ ds ≠ [] := by
  cases ds <;> simp [isDefinition]

@[simp] theorem any_usesExtend_definitions (ds : List Definition) :
    (ds.map definition).any (·.usesExtend) = ds.any (·.check.usesExtend) := List.any_map

end Inserted

namespace VisitState

/-- What a visit from the first to the second state inserted, and what it put off. -/
structure After (s t : VisitState) (log : List Inserted) (defs : List Definition) : Prop where
  depth : t.depth = s.depth
  outer : t.scopes.outer.length = s.scopes.outer.length
  pending : t.pending = s.pending ++ defs
  hasTypes : t.hasTypes = (s.hasTypes || log.any (·.isConstant))
  hasAsserts : t.hasAsserts = (s.hasAsserts || log.any (·.isAssertion))
  hasExtend : t.hasExtend =
    (s.hasExtend || (log.any (·.usesExtend) || defs.any (·.check.usesExtend)))
  /-- A definition is one of a type that has its constant. -/
  constants : log.any (·.isDefinition) = true ∨ defs ≠ [] → log.any (·.isConstant) = true

namespace After

variable {s t u : VisitState} {l m : List Inserted} {ds es : List Definition}

theorem refl (s : VisitState) : After s s [] [] where
  depth := rfl
  outer := rfl
  pending := (List.append_nil _).symm
  hasTypes := (Bool.or_false _).symm
  hasAsserts := (Bool.or_false _).symm
  hasExtend := (Bool.or_false _).symm
  constants h := by simp at h

theorem trans (h : After s t l ds) (h' : After t u m es) : After s u (l ++ m) (ds ++ es) where
  depth := h'.depth.trans h.depth
  outer := h'.outer.trans h.outer
  pending := by rw [h'.pending, h.pending, List.append_assoc]
  hasTypes := by rw [h'.hasTypes, h.hasTypes, List.any_append, Bool.or_assoc]
  hasAsserts := by rw [h'.hasAsserts, h.hasAsserts, List.any_append, Bool.or_assoc]
  hasExtend := by
    rw [h'.hasExtend, h.hasExtend, List.any_append, List.any_append]
    ac_rfl
  constants hdefined := by
    have heither : (l.any (·.isDefinition) = true ∨ ds ≠ []) ∨
        (m.any (·.isDefinition) = true ∨ es ≠ []) := by
      simp only [List.any_append, Bool.or_eq_true, ne_eq, List.append_eq_nil_iff,
        not_and_or] at hdefined
      tauto
    rw [List.any_append, Bool.or_eq_true]
    exact heither.imp h.constants h'.constants

theorem atTopLevel (h : After s t l ds) : t.scopes.atTopLevel = s.scopes.atTopLevel := by
  rw [ScopeStack.atTopLevel, ScopeStack.atTopLevel, Bool.eq_iff_iff, List.isEmpty_iff,
    List.isEmpty_iff, ← List.length_eq_zero_iff, h.outer, List.length_eq_zero_iff]

theorem record (s : VisitState) (names : List String) (entry : ScopeEntry) :
    After s { s with scopes := s.scopes.recordAll names entry } [] [] :=
  { refl s with outer := by rw [ScopeStack.outer_recordAll] }

/-- The names that were recorded within a scope are forgotten, and nothing else. -/
theorem inScope (h : After { s with scopes := s.scopes.push } t l ds) :
    After s { t with scopes := t.scopes.pop } l ds :=
  { h with
    outer := by
      rw [ScopeStack.length_outer_pop, h.outer, ScopeStack.outer_push]
      rfl }

theorem nested (h : After { s with depth := s.depth + 1 } t l ds) :
    After s { t with depth := t.depth - 1 } l ds :=
  { h with
    depth := by
      rw [h.depth]
      rfl }

end After

end VisitState

namespace Visit

variable {α β : Type}

/-! ### Logged visits -/

/-- From a state at the depth `d`, in the scope of the unit or not, every visit that succeeds has a
result and logs of the kind `Q`. -/
def Emits (d : Nat) (top : Bool) (visit : Visit α)
    (Q : α → List Inserted → List Definition → Prop) : Prop :=
  ∀ s a t, s.depth = d → s.scopes.atTopLevel = top → visit s = .ok a t →
    ∃ log defs, s.After t log defs ∧ Q a log defs

/-- A visit that puts off no definition. -/
def Inserts (d : Nat) (top : Bool) (visit : Visit α) (Q : α → List Inserted → Prop) : Prop :=
  Emits d top visit fun a log defs => defs = [] ∧ Q a log

/-- A visit that logs nothing. -/
def Silent (visit : Visit α) (Q : α → Prop) : Prop :=
  ∀ s a t, visit s = .ok a t → s.After t [] [] ∧ Q a

/-- What holds of a tree at a depth: the one if it is left as it is, the other if it is visited. -/
def IfVisited (d : Nat) (left visited : Prop) : Prop :=
  (Limits.treeDepth ≤ d → left) ∧ (d < Limits.treeDepth → visited)

theorem IfVisited.cases {d : Nat} {left visited : Prop} (h : IfVisited d left visited) :
    left ∨ visited :=
  (Nat.lt_or_ge d Limits.treeDepth).symm.imp h.1 h.2

theorem bind_eq_ok {visit : Visit α} {rest : α → Visit β} {s u : VisitState} {b : β}
    (h : (visit >>= rest) s = .ok b u) : ∃ a t, visit s = .ok a t ∧ rest a t = .ok b u := by
  simp only [Bind.bind, EStateM.bind] at h
  split at h
  · rename_i a t hvisit
    exact ⟨a, t, hvisit, h⟩
  · cases h

namespace Silent

variable {visit : Visit α} {rest : α → Visit β} {Q : α → Prop} {R : β → Prop}

theorem pure {a : α} (h : Q a) : Silent (Pure.pure a) Q := by
  rintro s _ _ ⟨⟩
  exact ⟨.refl s, h⟩

theorem bind (hv : Silent visit Q) (hr : ∀ a, Q a → Silent (rest a) R) :
    Silent (visit >>= rest) R := by
  intro s b u h
  obtain ⟨a, t, hvisit, hrest⟩ := bind_eq_ok h
  obtain ⟨hst, ha⟩ := hv s a t hvisit
  obtain ⟨htu, hb⟩ := hr a ha t b u hrest
  exact ⟨hst.trans htu, hb⟩

theorem get : Silent get fun _ => True := by
  rintro s _ _ ⟨⟩
  exact ⟨.refl s, trivial⟩

theorem throw (d : Diagnostic) : Silent (throw d : Visit α) Q := nofun

end Silent

theorem silent_orFail (cx : Setting) (span : Span) (r : Except LoweringError α) :
    Silent (cx.orFail span r) fun a => r = .ok a := by
  cases r with
  | ok a => exact .pure rfl
  | error e => exact .throw _

theorem silent_lookup (name : String) : Silent (lookup name) fun _ => True :=
  Silent.get.bind fun _ _ => .pure trivial

theorem silent_recordTyped (p : Pattern) (type : StaticType) :
    Silent (recordTyped p type) fun _ => True := by
  rintro s _ _ ⟨⟩
  exact ⟨.record s p.boundNames _, trivial⟩

theorem silent_recordUntyped (p : Pattern) : Silent (recordUntyped p) fun _ => True := by
  rintro s _ _ ⟨⟩
  exact ⟨.record s p.boundNames none, trivial⟩

theorem silent_recordNames (names : List String) : Silent (recordNames names) fun _ => True := by
  rintro s _ _ ⟨⟩
  exact ⟨.record s names none, trivial⟩

namespace Emits

variable {d : Nat} {top : Bool} {visit : Visit α} {rest : α → Visit β}
variable {Q : α → List Inserted → List Definition → Prop}
variable {R : β → List Inserted → List Definition → Prop}

theorem pure {a : α} (h : Q a [] []) : Emits d top (Pure.pure a) Q := by
  rintro s _ _ _ _ ⟨⟩
  exact ⟨[], [], .refl s, h⟩

/-- The logs of the second visit stand behind those of the first. -/
theorem bind (hv : Emits d top visit Q)
    (hr : ∀ a l ds, Q a l ds → Emits d top (rest a) fun b m es => R b (l ++ m) (ds ++ es)) :
    Emits d top (visit >>= rest) R := by
  intro s b u hd htop h
  obtain ⟨a, t, hvisit, hrest⟩ := bind_eq_ok h
  obtain ⟨l, ds, hst, ha⟩ := hv s a t hd htop hvisit
  obtain ⟨m, es, htu, hb⟩ :=
    hr a l ds ha t b u (hst.depth.trans hd) (hst.atTopLevel.trans htop) hrest
  exact ⟨l ++ m, ds ++ es, hst.trans htu, hb⟩

/-- A visit whose result is put into a larger tree. -/
theorem map {f : α → β} (hv : Emits d top visit Q) (hf : ∀ a l ds, Q a l ds → R (f a) l ds) :
    Emits d top (visit >>= fun a => Pure.pure (f a)) R :=
  hv.bind fun a l ds ha => .pure (by simpa only [List.append_nil] using hf a l ds ha)

/-- What comes before a visit and logs nothing. -/
theorem behind {P : α → Prop} (hv : Silent visit P) (hr : ∀ a, P a → Emits d top (rest a) R) :
    Emits d top (visit >>= rest) R := by
  intro s b u hd htop h
  obtain ⟨a, t, hvisit, hrest⟩ := bind_eq_ok h
  obtain ⟨hst, ha⟩ := hv s a t hvisit
  obtain ⟨m, es, htu, hb⟩ := hr a ha t b u (hst.depth.trans hd) (hst.atTopLevel.trans htop) hrest
  exact ⟨m, es, hst.trans htu, hb⟩

/-- Within a scope of its own, a visit is not in that of the unit. -/
theorem inScope (hv : Emits d false visit Q) : Emits d top visit.inScope Q := by
  intro s a t hd _ h
  simp only [Visit.inScope, Visit.between] at h
  split at h
  · rename_i hvisit
    cases h
    obtain ⟨log, defs, hafter, hQ⟩ := hv { s with scopes := s.scopes.push } _ _ hd rfl hvisit
    exact ⟨log, defs, hafter.inScope, hQ⟩
  · cases h

theorem nested {unvisited : α} (hv : Emits (d + 1) top visit Q) :
    Emits d top (Visit.nested unvisited visit) fun a log defs =>
      IfVisited d (a = unvisited ∧ log = [] ∧ defs = []) (Q a log defs) := by
  intro s a t hd htop h
  rw [Visit.nested, hd] at h
  split at h
  · rename_i hdeep
    cases h
    exact ⟨[], [], .refl s, fun _ => ⟨rfl, rfl, rfl⟩, fun hlt => absurd hdeep (by omega)⟩
  · rename_i hdeep
    simp only [Visit.between] at h
    split at h
    · rename_i hvisit
      cases h
      obtain ⟨log, defs, hafter, hQ⟩ :=
        hv { s with depth := s.depth + 1 } _ _ (congrArg (· + 1) hd) htop hvisit
      exact ⟨log, defs, hafter.nested, fun hle => absurd hle hdeep, fun _ => hQ⟩
    · cases h

theorem consequence {Q' : α → List Inserted → List Definition → Prop} (hv : Emits d top visit Q)
    (h : ∀ a l ds, Q a l ds → Q' a l ds) : Emits d top visit Q' := by
  intro s a t hd htop hvisit
  obtain ⟨log, defs, hafter, hQ⟩ := hv s a t hd htop hvisit
  exact ⟨log, defs, hafter, h a log defs hQ⟩

end Emits

namespace Inserts

variable {d : Nat} {top : Bool} {visit : Visit α} {rest : α → Visit β}
variable {Q : α → List Inserted → Prop} {R : β → List Inserted → Prop}

theorem pure {a : α} (h : Q a []) : Inserts d top (Pure.pure a) Q := Emits.pure ⟨rfl, h⟩

theorem bind (hv : Inserts d top visit Q)
    (hr : ∀ a l, Q a l → Inserts d top (rest a) fun b m => R b (l ++ m)) :
    Inserts d top (visit >>= rest) R := by
  refine Emits.bind hv fun a l ds ⟨hds, ha⟩ => ?_
  subst hds
  exact hr a l ha

theorem map {f : α → β} (hv : Inserts d top visit Q) (hf : ∀ a l, Q a l → R (f a) l) :
    Inserts d top (visit >>= fun a => Pure.pure (f a)) R :=
  Emits.map hv fun a l _ ⟨hds, ha⟩ => ⟨hds, hf a l ha⟩

theorem behind {P : α → Prop} (hv : Silent visit P) (hr : ∀ a, P a → Inserts d top (rest a) R) :
    Inserts d top (visit >>= rest) R :=
  Emits.behind hv hr

theorem inScope (hv : Inserts d false visit Q) : Inserts d top visit.inScope Q := Emits.inScope hv

theorem nested {unvisited : α} (hv : Inserts (d + 1) top visit Q) :
    Inserts d top (Visit.nested unvisited visit) fun a log =>
      IfVisited d (a = unvisited ∧ log = []) (Q a log) := by
  refine (Emits.nested hv).consequence fun a log defs h => ?_
  by_cases hd : Limits.treeDepth ≤ d
  · obtain ⟨ha, hlog, hdefs⟩ := h.1 hd
    exact ⟨hdefs, fun _ => ⟨ha, hlog⟩, fun hlt => absurd hd (by omega)⟩
  · obtain ⟨hdefs, hQ⟩ := h.2 (by omega)
    exact ⟨hdefs, fun hle => absurd hle hd, fun _ => hQ⟩

/-- A visit that may put off definitions after one that puts off none. -/
theorem andThen {R : β → List Inserted → List Definition → Prop} (hv : Inserts d top visit Q)
    (hr : ∀ a l, Q a l → Emits d top (rest a) fun b m es => R b (l ++ m) es) :
    Emits d top (visit >>= rest) R := by
  refine Emits.bind hv fun a l ds ⟨hds, ha⟩ => ?_
  subst hds
  exact hr a l ha

theorem mapEmits {f : α → β} {R : β → List Inserted → List Definition → Prop}
    (hv : Inserts d top visit Q) (hf : ∀ a l, Q a l → R (f a) l []) :
    Emits d top (visit >>= fun a => Pure.pure (f a)) R :=
  Emits.map hv fun a l _ ⟨hds, ha⟩ => hds ▸ hf a l ha

theorem weaken {Q' : α → List Inserted → Prop} (hv : Inserts d top visit Q)
    (h : ∀ a l, Q a l → Q' a l) : Inserts d top visit Q' :=
  hv.consequence fun a l _ ⟨hds, ha⟩ => ⟨hds, h a l ha⟩

end Inserts

end Visit

end TypeGuard
