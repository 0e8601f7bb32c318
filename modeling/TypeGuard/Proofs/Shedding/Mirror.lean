import TypeGuard.Proofs.Visit

/-!
# Visits side by side

The same tree is visited twice, once with its checks and once without. The two states agree on all
but the recorded types and on whether an assertion was inserted, so the visit without checks
succeeds wherever the other one does. There is one rule for each way in which visits are put
together.
-/

namespace TypeGuard

namespace ScopeStack

theorem outer_push (s : ScopeStack) : s.push.outer = s.innermost :: s.outer := rfl

theorem length_outer_pop (s : ScopeStack) : s.pop.outer.length = s.outer.length - 1 := by
  obtain ⟨innermost, outer⟩ := s
  cases outer <;> rfl

end ScopeStack

/-- Both states are at the depth `d`, and the second one is that of the same visit without
checks. -/
structure VisitState.Mirrors (d : Nat) (s t : VisitState) : Prop where
  outer : s.scopes.outer.length = t.scopes.outer.length
  pending : s.pending = t.pending
  depth : s.depth = d
  depth' : t.depth = d
  hasTypes : s.hasTypes = t.hasTypes
  hasExtend : s.hasExtend = t.hasExtend
  hasAsserts : t.hasAsserts = false

namespace VisitState.Mirrors

variable {d : Nat} {s t : VisitState}

theorem atTopLevel (h : s.Mirrors d t) : s.scopes.atTopLevel = t.scopes.atTopLevel := by
  rw [ScopeStack.atTopLevel, ScopeStack.atTopLevel, Bool.eq_iff_iff, List.isEmpty_iff,
    List.isEmpty_iff, ← List.length_eq_zero_iff, h.outer, List.length_eq_zero_iff]

/-- What either visit records of names does not matter. -/
theorem record (h : s.Mirrors d t) (names names' : List String) (entry entry' : ScopeEntry) :
    Mirrors d { s with scopes := s.scopes.recordAll names entry }
      { t with scopes := t.scopes.recordAll names' entry' } :=
  { h with outer := by rw [ScopeStack.outer_recordAll, ScopeStack.outer_recordAll, h.outer] }

theorem push (h : s.Mirrors d t) :
    Mirrors d { s with scopes := s.scopes.push } { t with scopes := t.scopes.push } :=
  { h with outer := by simp [ScopeStack.outer_push, h.outer] }

theorem pop (h : s.Mirrors d t) :
    Mirrors d { s with scopes := s.scopes.pop } { t with scopes := t.scopes.pop } :=
  { h with outer := by rw [ScopeStack.length_outer_pop, ScopeStack.length_outer_pop, h.outer] }

/-- An assertion inserted on one side only changes nothing. -/
theorem noteAsserts (h : s.Mirrors d t) : Mirrors d { s with hasAsserts := true } t := { h with }

end VisitState.Mirrors

namespace Visit

variable {α α' β β' : Type} {R : α → α' → Prop} {Q : β → β' → Prop} {d : Nat}

/-- Wherever the first visit succeeds at the depth `d`, so does the second one from the mirrored
state, and the results are related. -/
def Mirrors (d : Nat) (full : Visit α) (R : α → α' → Prop) (bare : Visit α') : Prop :=
  ∀ s t a s', s.Mirrors d t → full s = .ok a s' →
    ∃ a' t', bare t = .ok a' t' ∧ s'.Mirrors d t' ∧ R a a'

namespace Mirrors

theorem pure {a : α} {a' : α'} (h : R a a') : Mirrors d (pure a) R (pure a') := by
  rintro s t _ _ hst ⟨⟩
  exact ⟨a', t, rfl, hst, h⟩

theorem weaken {Q : α → α' → Prop} {full : Visit α} {bare : Visit α'} (hv : Mirrors d full R bare)
    (h : ∀ a a', R a a' → Q a a') : Mirrors d full Q bare := by
  intro s t a s' hst hfull
  obtain ⟨a', t', hbare, ht, ha⟩ := hv s t a s' hst hfull
  exact ⟨a', t', hbare, ht, h a a' ha⟩

theorem bind {full : Visit α} {bare : Visit α'} {rest : α → Visit β} {rest' : α' → Visit β'}
    (hv : Mirrors d full R bare) (hr : ∀ a a', R a a' → Mirrors d (rest a) Q (rest' a')) :
    Mirrors d (full >>= rest) Q (bare >>= rest') := by
  intro s t b s' hst h
  simp only [Bind.bind, EStateM.bind] at h
  split at h
  · rename_i a u hfull
    obtain ⟨a', u', hbare, hu, ha⟩ := hv s t a u hst hfull
    obtain ⟨b', t', hrest, ht, hb⟩ := hr a a' ha u u' b s' hu h
    refine ⟨b', t', ?_, ht, hb⟩
    simp only [Bind.bind, EStateM.bind, hbare]
    exact hrest
  · cases h

/-- Visits whose results are put into larger trees. -/
theorem map {full : Visit α} {bare : Visit α'} {f : α → β} {f' : α' → β'}
    (hv : Mirrors d full R bare) (hf : ∀ a a', R a a' → Q (f a) (f' a')) :
    Mirrors d (full >>= fun a => Pure.pure (f a)) Q (bare >>= fun a => Pure.pure (f' a)) :=
  hv.bind fun a a' ha => .pure (hf a a' ha)

theorem modify {f f' : VisitState → VisitState}
    (hf : ∀ s t, s.Mirrors d t → (f s).Mirrors d (f' t)) :
    Mirrors d (modify f) (fun _ _ => True) (modify f') := by
  rintro s t _ _ hst ⟨⟩
  exact ⟨(), f' t, rfl, hf s t hst, trivial⟩

theorem get : Mirrors d get (VisitState.Mirrors d) get := by
  rintro s t _ _ hst ⟨⟩
  exact ⟨t, t, rfl, hst, hst⟩

theorem throw {n : Nat} (d : Diagnostic) {bare : Visit α'} : Mirrors n (throw d) R bare := by
  rintro s t _ _ _ ⟨⟩

/-- The visit without checks does nothing where the other one inserts a check. -/
theorem check {full : Visit α} {P : α → Prop} {a' : α'}
    (hv : ∀ t, Keeps (VisitState.Mirrors d · t) full P) (h : ∀ a, P a → R a a') :
    Mirrors d full R (Pure.pure a') := by
  intro s t a s' hst hfull
  obtain ⟨ht, ha⟩ := hv t s a s' hst hfull
  exact ⟨a', t, rfl, ht, h a ha⟩

theorem between {n : Nat} {enter leave : VisitState → VisitState} {full : Visit α}
    {bare : Visit α'} (henter : ∀ s t, s.Mirrors d t → (enter s).Mirrors n (enter t))
    (hleave : ∀ s t, s.Mirrors n t → (leave s).Mirrors d (leave t)) (hv : Mirrors n full R bare) :
    Mirrors d (full.between enter leave) R (bare.between enter leave) := by
  intro s t a s' hst h
  simp only [Visit.between] at h
  split at h
  · rename_i b u hfull
    cases h
    obtain ⟨a', u', hbare, hu, ha⟩ := hv _ _ _ _ (henter s t hst) hfull
    exact ⟨a', leave u', by rw [Visit.between, hbare], hleave u u' hu, ha⟩
  · cases h

theorem inScope {full : Visit α} {bare : Visit α'} (hv : Mirrors d full R bare) :
    Mirrors d full.inScope R bare.inScope :=
  .between (fun _ _ h => h.push) (fun _ _ h => h.pop) hv

/-- Both visits stop at the same depth. -/
theorem nested {full : Visit α} {bare : Visit α'} {a : α} {a' : α'}
    (ha : Limits.treeDepth ≤ d → R a a')
    (hv : d < Limits.treeDepth → Mirrors (d + 1) full R bare) :
    Mirrors d (nested a full) R (nested a' bare) := by
  intro s t b s' hst h
  rw [Visit.nested, hst.depth] at h
  rw [Visit.nested, hst.depth']
  split at h
  · rename_i hdeep
    cases h
    exact ⟨a', t, by rw [if_pos hdeep], hst, ha hdeep⟩
  · rename_i hdeep
    rw [if_neg hdeep]
    refine between (fun s t h => ?_) (fun s t h => ?_) (hv (Nat.lt_of_not_le hdeep)) s t b s' hst h
    · exact { h with depth := congrArg (· + 1) h.depth, depth' := congrArg (· + 1) h.depth' }
    · exact { h with depth := congrArg (· - 1) h.depth, depth' := congrArg (· - 1) h.depth' }

end Mirrors

/-- What is lowered on both sides is the same, and so is the error. -/
theorem mirrors_orFail (cx cx' : Setting) (span : Span) (r : Except LoweringError α) :
    Mirrors d (cx.orFail span r) (fun a a' => a = a' ∧ r = .ok a) (cx'.orFail span r) := by
  cases r with
  | ok a => exact .pure ⟨rfl, rfl⟩
  | error e => exact .throw _

theorem mirrors_recordUntyped (p p' : Pattern) :
    Mirrors d (recordUntyped p) (fun _ _ => True) (recordUntyped p') :=
  .modify fun _ _ h => h.record _ _ _ _

/-- A type recorded on one side only changes nothing. -/
theorem mirrors_recordTyped (p p' : Pattern) (type : StaticType) :
    Mirrors d (recordTyped p type) (fun _ _ => True) (recordUntyped p') :=
  .modify fun _ _ h => h.record _ _ _ _

theorem mirrors_recordNames (names : List String) :
    Mirrors d (recordNames names) (fun _ _ => True) (recordNames names) :=
  .modify fun _ _ h => h.record _ _ _ _

theorem mirrors_defer {n : Nat} (d : Definition) :
    Mirrors n (defer d) (fun _ _ => True) (defer d) :=
  .modify fun _ _ h => { h with pending := congrArg (· ++ [d]) h.pending }

theorem mirrors_noteTypes : Mirrors d noteTypes (fun _ _ => True) noteTypes :=
  .modify fun _ _ h => { h with hasTypes := rfl }

theorem mirrors_noteExtend : Mirrors d noteExtend (fun _ _ => True) noteExtend :=
  .modify fun _ _ h => { h with hasExtend := rfl }

theorem mirrors_pendingCount : Mirrors d pendingCount Eq pendingCount :=
  Mirrors.get.map fun _ _ h => congrArg List.length h.pending

theorem mirrors_flushSince (names : RuntimeNames) (start : Nat) :
    Mirrors d (flushSince names start)
      (fun stmts stmts' => stmts = stmts' ∧
        ∃ queue : List Definition, stmts = queue.map (·.toStmt names))
      (flushSince names start) := by
  rintro s t _ _ hst ⟨⟩
  refine ⟨_, _, rfl, { hst with pending := congrArg (List.take start) hst.pending }, ?_, ?_⟩
  · rw [hst.pending]
  · exact ⟨s.pending.drop start, rfl⟩

end Visit

end TypeGuard
