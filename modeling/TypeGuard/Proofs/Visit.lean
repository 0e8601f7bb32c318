import TypeGuard.Instrumentation.Visit

/-!
# What visits keep

Rules for showing that every successful visit keeps an invariant of the state, or leads from one to
another, and ends in a result of a certain kind: one rule for each way in which visits are put
together, and one for each operation.
-/

namespace TypeGuard

/-- Records of names open no scope. -/
theorem ScopeStack.outer_recordAll (s : ScopeStack) (names : List String) (entry : ScopeEntry) :
    (s.recordAll names entry).outer = s.outer := by
  induction names generalizing s with
  | nil => rfl
  | cons name names ih =>
    rw [recordAll, List.foldl_cons]
    exact ih (s.record name entry)

namespace Visit

variable {α β : Type} {I J : VisitState → Prop} {Q : α → Prop} {R : β → Prop}

/-- Where `I` holds before a visit that succeeds, `J` holds afterwards, and the result is of the
kind `Q`. -/
def Leads (I J : VisitState → Prop) (visit : Visit α) (Q : α → Prop) : Prop :=
  ∀ s a t, I s → visit s = .ok a t → J t ∧ Q a

/-- Where the invariant holds before a visit that succeeds, it holds afterwards, and the result is
of the kind `Q`. -/
def Keeps (I : VisitState → Prop) (visit : Visit α) (Q : α → Prop) : Prop :=
  ∀ s a t, I s → visit s = .ok a t → I t ∧ Q a

namespace Leads

variable {K I' J' : VisitState → Prop} {visit : Visit α}

theorem pure {a : α} (h : Q a) : Leads I I (Pure.pure a) Q := by
  rintro s _ _ hs ⟨⟩
  exact ⟨hs, h⟩

theorem bind {rest : α → Visit β} (hv : Leads I J visit Q)
    (hr : ∀ a, Q a → Leads J K (rest a) R) : Leads I K (visit >>= rest) R := by
  intro s b u hs h
  simp only [Bind.bind, EStateM.bind] at h
  split at h
  · rename_i a t hvisit
    obtain ⟨ht, ha⟩ := hv s a t hs hvisit
    exact hr a ha t b u ht h
  · cases h

/-- A visit whose result is put into a larger tree. -/
theorem map {f : α → β} (hv : Leads I J visit Q) (hf : ∀ a, Q a → R (f a)) :
    Leads I J (visit >>= fun a => Pure.pure (f a)) R :=
  hv.bind fun a ha => .pure (hf a ha)

theorem consequence {Q' : α → Prop} (hv : Leads I J visit Q) (hI : ∀ s, I' s → I s)
    (hJ : ∀ s, J s → J' s) (hQ : ∀ a, Q a → Q' a) : Leads I' J' visit Q' := by
  intro s a t hs hvisit
  obtain ⟨ht, ha⟩ := hv s a t (hI s hs) hvisit
  exact ⟨hJ t ht, hQ a ha⟩

theorem modify {f : VisitState → VisitState} (hf : ∀ s, I s → J (f s)) :
    Leads I J (modify f) fun _ => True := by
  rintro s _ _ hs ⟨⟩
  exact ⟨hf s hs, trivial⟩

/-- A visit between two changes of the state, which lead from one pair of invariants to another. -/
theorem between {enter leave : VisitState → VisitState} (henter : ∀ s, I s → I' (enter s))
    (hleave : ∀ s, J' s → J (leave s)) (hv : Leads I' J' visit Q) :
    Leads I J (visit.between enter leave) Q := by
  intro s a t hs h
  simp only [Visit.between] at h
  split at h
  · rename_i b u hvisit
    cases h
    obtain ⟨hu, hb⟩ := hv _ _ _ (henter s hs) hvisit
    exact ⟨hleave u hu, hb⟩
  · cases h

theorem keeps (h : Leads I I visit Q) : Keeps I visit Q := h

end Leads

namespace Keeps

theorem leads {visit : Visit α} (h : Keeps I visit Q) : Leads I I visit Q := h

theorem pure {a : α} (h : Q a) : Keeps I (pure a) Q := Leads.pure h

theorem bind {visit : Visit α} {rest : α → Visit β} (hv : Keeps I visit Q)
    (hr : ∀ a, Q a → Keeps I (rest a) R) : Keeps I (visit >>= rest) R := Leads.bind hv hr

theorem map {visit : Visit α} {f : α → β} (hv : Keeps I visit Q) (hf : ∀ a, Q a → R (f a)) :
    Keeps I (visit >>= fun a => Pure.pure (f a)) R :=
  hv.bind fun a ha => .pure (hf a ha)

theorem weaken {Q' : α → Prop} {visit : Visit α} (hv : Keeps I visit Q) (h : ∀ a, Q a → Q' a) :
    Keeps I visit Q' := hv.leads.consequence (fun _ hs => hs) (fun _ ht => ht) h

theorem modify {f : VisitState → VisitState} (hf : ∀ s, I s → I (f s)) :
    Keeps I (modify f) fun _ => True := Leads.modify hf

theorem get : Keeps I get I := by
  rintro s _ _ hs ⟨⟩
  exact ⟨hs, hs⟩

theorem throw (d : Diagnostic) : Keeps I (throw d : Visit α) Q := by
  rintro s _ _ _ ⟨⟩

/-- Between two changes of the state the visit may keep an invariant of its own. -/
theorem between {enter leave : VisitState → VisitState} {visit : Visit α}
    (henter : ∀ s, I s → J (enter s)) (hleave : ∀ s, J s → I (leave s)) (hv : Keeps J visit Q) :
    Keeps I (visit.between enter leave) Q := Leads.between henter hleave hv

end Keeps

theorem keeps_orFail (cx : Setting) (span : Span) (r : Except LoweringError α) :
    Keeps I (cx.orFail span r) fun a => r = .ok a := by
  cases r with
  | ok a => exact .pure rfl
  | error e => exact .throw _

/-! ### Depth -/

/-- The visit is `d` levels deep. -/
def AtDepth (d : Nat) (s : VisitState) : Prop := s.depth = d

namespace Keeps

variable {d : Nat} {visit : Visit α}

theorem inScope (hv : Keeps (AtDepth d) visit Q) : Keeps (AtDepth d) visit.inScope Q :=
  .between (fun _ h => h) (fun _ h => h) hv

/-- Above the greatest depth, a visit one level down takes place. -/
theorem nested {unvisited : α} (hd : d < Limits.treeDepth) (hv : Keeps (AtDepth (d + 1)) visit Q) :
    Keeps (AtDepth d) (nested unvisited visit) Q := by
  intro s a t hs h
  have hnot : ¬ Limits.treeDepth ≤ s.depth := by
    rw [show s.depth = d from hs]
    omega
  rw [Visit.nested, if_neg hnot] at h
  refine between (J := AtDepth (d + 1)) (fun s hs => ?_) (fun s hs => ?_) hv s a t hs h
  · simpa [AtDepth] using hs
  · simp only [AtDepth] at hs ⊢
    omega

end Keeps

theorem keeps_recordTyped (d : Nat) (p : Pattern) (type : StaticType) :
    Keeps (AtDepth d) (recordTyped p type) fun _ => True :=
  .modify fun _ h => h

theorem keeps_recordUntyped (d : Nat) (p : Pattern) :
    Keeps (AtDepth d) (recordUntyped p) fun _ => True :=
  .modify fun _ h => h

theorem keeps_recordNames (d : Nat) (names : List String) :
    Keeps (AtDepth d) (recordNames names) fun _ => True :=
  .modify fun _ h => h

theorem keeps_pendingCount : Keeps I pendingCount fun _ => True :=
  Keeps.get.map fun _ _ => trivial

theorem keeps_lookup (name : String) :
    Keeps I (lookup name) fun binding => ∃ s, I s ∧ binding = s.scopes.lookup name :=
  Keeps.get.map fun s hs => ⟨s, hs, rfl⟩

/-! ### Any state -/

/-- The invariant of visits of which only the result is of interest. -/
def AnyState (_ : VisitState) : Prop := True

theorem keeps_modify (f : VisitState → VisitState) : Keeps AnyState (modify f) fun _ => True :=
  .modify fun _ _ => trivial

namespace Keeps

variable {visit : Visit α}

theorem inScope_any (hv : Keeps AnyState visit Q) : Keeps AnyState visit.inScope Q :=
  .between (fun _ _ => trivial) (fun _ _ => trivial) hv

/-- At the greatest depth the tree is left as it is, and elsewhere the visit takes place. -/
theorem nested_any {unvisited : α} (hu : Q unvisited) (hv : Keeps AnyState visit Q) :
    Keeps AnyState (Visit.nested unvisited visit) Q := by
  intro s a t hs h
  rw [Visit.nested] at h
  split at h
  · cases h
    exact ⟨trivial, hu⟩
  · exact between (fun _ _ => trivial) (fun _ _ => trivial) hv s a t hs h

end Keeps

/-! ### Invariants of the scopes -/

/-- The invariant looks at nothing but the depth and the scopes. -/
def OfScopes (I : VisitState → Prop) : Prop :=
  ∀ s t, t.depth = s.depth → t.scopes = s.scopes → I s → I t

theorem ofScopes_atDepth (d : Nat) : OfScopes (AtDepth d) := fun _ _ hdepth _ hs =>
  hdepth.trans hs

theorem ofScopes_anyState : OfScopes AnyState := fun _ _ _ _ _ => trivial

section OfScopes

variable (hI : OfScopes I)

include hI

theorem OfScopes.noteAsserts (s : VisitState) (hs : I s) : I { s with hasAsserts := true } :=
  hI s _ rfl rfl hs

theorem keeps_defer (x : Definition) : Keeps I (defer x) fun _ => True :=
  .modify fun s hs => hI s _ rfl rfl hs

theorem keeps_noteTypes : Keeps I noteTypes fun _ => True := .modify fun s hs => hI s _ rfl rfl hs

theorem keeps_noteExtend : Keeps I noteExtend fun _ => True :=
  .modify fun s hs => hI s _ rfl rfl hs

theorem keeps_flushSince (names : RuntimeNames) (start : Nat) :
    Keeps I (flushSince names start)
      fun stmts => ∃ definitions : List Definition, stmts = definitions.map (·.toStmt names) := by
  rintro s _ _ hs ⟨⟩
  exact ⟨hI s _ rfl rfl hs, s.pending.drop start, rfl⟩

end OfScopes

end Visit

end TypeGuard
