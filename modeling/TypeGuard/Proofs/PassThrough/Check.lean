import TypeGuard.Instrumentation
import TypeGuard.Proofs.Everywhere

/-!
# Visits that change nothing

A plain tree has nothing that a visit takes out or turns into a check. Starting from a state in
which no name has a type and nothing is pending or needed, its visit ends in such a state again, so
that no check is ever inserted.
-/

namespace TypeGuard

open Visit Instrumentation

/-! ### Plain trees -/

def ImportSpecifier.isUnmarked : ImportSpecifier → Bool
  | .named _ _ kind => kind.isNone
  | .default _ | .namespace _ => true

def ImportDecl.isPlain (d : ImportDecl) : Bool :=
  d.kind == .value && d.specifiers.all ImportSpecifier.isUnmarked

/-- No annotation, type parameter or optional parameter, no cast, no type declaration, and no import
or export of anything but values. -/
def NodeTest.plain : NodeTest where
  expr
    | .cast _ _ _ _ => false
    | _ => true
  param p := p.type.isNone && !p.optional
  function func := func.returnType.isNone && func.typeParams.isEmpty
  member
    | .property _ type _ _ => type.isNone
    | .method _ _ _ _ => true
  classDecl decl := decl.typeParams.isEmpty
  declarator d := d.type.isNone
  stmt
    | .typeAlias _ | .interface _ => false
    | .import decl => decl.isPlain
    | .export _ _ _ kind => kind == .value
    | _ => true

namespace ImportSpecifier

theorem isTypeof_of_isUnmarked {s : ImportSpecifier} (h : s.isUnmarked = true) :
    s.isTypeof = false := by
  cases s with
  | named imported localName kind =>
    rw [isUnmarked, Option.isNone_iff_eq_none] at h
    subst h
    rfl
  | default | «namespace» => rfl

theorem toValue_of_isUnmarked {s : ImportSpecifier} (h : s.isUnmarked = true) : s.toValue = s := by
  cases s with
  | named imported localName kind =>
    rw [isUnmarked, Option.isNone_iff_eq_none] at h
    subst h
    rfl
  | default | «namespace» => rfl

end ImportSpecifier

/-- All that a plain import imports is values. -/
theorem ImportDecl.toValue?_of_isPlain {d : ImportDecl} (h : d.isPlain = true) :
    d.toValue? = some d := by
  obtain ⟨specifiers, source, kind⟩ := d
  simp only [isPlain, Bool.and_eq_true, beq_iff_eq, List.all_eq_true] at h
  obtain ⟨rfl, hspecifiers⟩ := h
  have hkept : specifiers.filter (fun s => !s.isTypeof) = specifiers := by
    refine List.filter_eq_self.mpr fun s hs => ?_
    rw [ImportSpecifier.isTypeof_of_isUnmarked (hspecifiers s hs)]
    rfl
  have hvalues : specifiers.map ImportSpecifier.toValue = specifiers := by
    refine (List.map_congr_left fun s hs => ?_).trans (List.map_id specifiers)
    exact ImportSpecifier.toValue_of_isUnmarked (hspecifiers s hs)
  simp [toValue?, hkept, hvalues]

/-! ### Idle states -/

namespace ScopeStack

variable {s : ScopeStack}

/-- No open scope has a name with a type. -/
def Untyped (s : ScopeStack) : Prop := ∀ scope ∈ s.toList, ∀ entry ∈ scope.entries, entry.2 = none

namespace Untyped

theorem record (h : s.Untyped) (name : String) : (s.record name none).Untyped := by
  intro scope hscope entry hentry
  rcases List.mem_cons.mp hscope with rfl | hscope
  · simp only [ScopeStack.record, Scope.record] at hentry
    split at hentry
    · exact h _ (List.mem_cons_self ..) entry hentry
    · rcases List.mem_append.mp hentry with hentry | hentry
      · exact h _ (List.mem_cons_self ..) entry hentry
      · rw [List.mem_singleton.mp hentry]
  · exact h scope (List.mem_cons_of_mem _ hscope) entry hentry

theorem recordAll (h : s.Untyped) (names : List String) : (s.recordAll names none).Untyped := by
  induction names generalizing s with
  | nil => exact h
  | cons name names ih => exact ih (h.record name)

theorem push (h : s.Untyped) : s.push.Untyped := by
  intro scope hscope
  rcases List.mem_cons.mp hscope with rfl | hscope
  · intro entry hentry
    cases hentry
  · exact h scope hscope

theorem pop (h : s.Untyped) : s.pop.Untyped := by
  obtain ⟨innermost, outer⟩ := s
  cases outer with
  | nil => exact h
  | cons scope scopes => exact fun x hx => h x (List.mem_cons_of_mem _ hx)

/-- No name resolves to a typed binding. -/
theorem lookup (h : s.Untyped) (name : String) : s.lookup name = none := by
  rw [ScopeStack.lookup]
  cases hfind : s.find? name with
  | none => rfl
  | some entry =>
    obtain ⟨scope, hscope, hget⟩ := List.exists_of_findSome?_eq_some hfind
    obtain ⟨before, after, hentries, -⟩ := List.lookup_eq_some_iff.mp hget
    have hmem : (name, entry) ∈ scope.entries := by simp [hentries]
    exact h scope hscope _ hmem

end Untyped

end ScopeStack

/-- Nothing is recorded with a type, no definition is pending, and the unit needs nothing so far. -/
structure VisitState.Idle (s : VisitState) : Prop where
  untyped : s.scopes.Untyped
  pending : s.pending = []
  hasTypes : s.hasTypes = false
  hasAsserts : s.hasAsserts = false
  hasExtend : s.hasExtend = false

/-! ### Visits of plain trees -/

namespace Visit

variable {α β : Type}

/-- From every idle state the visit succeeds with the given result, in an idle state. -/
def Returns (visit : Visit α) (a : α) : Prop := ∀ s, s.Idle → ∃ t, t.Idle ∧ visit s = .ok a t

namespace Returns

variable {visit : Visit α} {a : α} {b : β}

theorem pure (a : α) : Returns (pure a) a := fun s hs => ⟨s, hs, rfl⟩

theorem bind {rest : α → Visit β} (hv : Returns visit a) (hr : Returns (rest a) b) :
    Returns (visit >>= rest) b := by
  intro s hs
  obtain ⟨t, ht, hvisit⟩ := hv s hs
  obtain ⟨u, hu, hrest⟩ := hr t ht
  refine ⟨u, hu, ?_⟩
  simp only [Bind.bind, EStateM.bind, hvisit]
  exact hrest

/-- A visit whose result is put into a larger tree. -/
theorem map {f : α → β} (hv : Returns visit a) :
    Returns (visit >>= fun a => Pure.pure (f a)) (f a) :=
  hv.bind (.pure (f a))

theorem modify {f : VisitState → VisitState} (hf : ∀ s, s.Idle → (f s).Idle) :
    Returns (modify f) () :=
  fun s hs => ⟨f s, hf s hs, rfl⟩

/-- What is done with the state depends on it only as far as idle states differ. -/
theorem get {rest : VisitState → Visit β} (hr : ∀ s, s.Idle → Returns (rest s) b) :
    Returns (get >>= rest) b := by
  intro s hs
  exact hr s hs s hs

theorem between {enter leave : VisitState → VisitState} (henter : ∀ s, s.Idle → (enter s).Idle)
    (hleave : ∀ s, s.Idle → (leave s).Idle) (hv : Returns visit a) :
    Returns (visit.between enter leave) a := by
  intro s hs
  obtain ⟨t, ht, hvisit⟩ := hv (enter s) (henter s hs)
  refine ⟨leave t, hleave t ht, ?_⟩
  rw [Visit.between, hvisit]

theorem inScope (hv : Returns visit a) : Returns visit.inScope a :=
  .between (fun _ h => { h with untyped := h.untyped.push })
    (fun _ h => { h with untyped := h.untyped.pop }) hv

/-- At the greatest depth the tree is left as it is, and elsewhere it is left so by the visit. -/
theorem nested (hv : Returns visit a) : Returns (nested a visit) a := by
  intro s hs
  rw [Visit.nested]
  split
  · exact ⟨s, hs, rfl⟩
  · refine between (fun _ h => ?_) (fun _ h => ?_) hv s hs
    · exact { h with }
    · exact { h with }

end Returns

theorem returns_recordNames (names : List String) : Returns (recordNames names) () :=
  .modify fun _ h => { h with untyped := h.untyped.recordAll names }

theorem returns_recordUntyped (p : Pattern) : Returns (recordUntyped p) () :=
  .modify fun _ h => { h with untyped := h.untyped.recordAll p.boundNames }

theorem returns_pendingCount : Returns pendingCount 0 :=
  .get fun s hs => by
    rw [hs.pending]
    exact .pure 0

theorem returns_lookup (name : String) : Returns (lookup name) none :=
  .get fun s hs => by
    rw [hs.untyped.lookup]
    exact .pure none

end Visit

/-! ### Constructs -/

namespace Setting

variable (cx : Setting) (env : Environment) (span : Span)

theorem checkDeclared_returns (kind : VarKind) (id : Pattern) (label : String)
    (init : Option Expr) : Returns (cx.checkDeclared env kind span id none label init) init :=
  (returns_recordUntyped id).map

/-- No assigned name has a declared type. -/
theorem checkReassigned_returns (name : String) (value : Expr) :
    Returns (cx.checkReassigned env span name value) value :=
  (returns_lookup name).bind (.pure value)

theorem checkAssigned_returns (op : String) (target : AssignTarget) (value : Expr) :
    Returns (cx.checkAssigned env span op target value) value := by
  unfold checkAssigned
  split
  · split
    · exact cx.checkReassigned_returns env span _ value
    · exact .pure value
  · exact .pure value

end Setting

namespace Instrumentation

/-- A statement that the visit has kept. -/
def Visited.kept (s : Stmt) : Visited := ⟨some s, false⟩

theorem noticing_returns {visit : Visit (Option Stmt)} {s : Stmt} (hv : Returns visit (some s)) :
    Returns (noticing visit) (.kept s) :=
  returns_pendingCount.bind (hv.bind returns_pendingCount.map)

theorem any_defers_map_kept (stmts : List Stmt) :
    (stmts.map Visited.kept).any (·.defers) = false := by
  simp [Visited.kept]

theorem filterMap_map_kept (stmts : List Stmt) :
    (stmts.map Visited.kept).filterMap (·.stmt) = stmts := by
  rw [List.filterMap_map]
  exact List.filterMap_some

theorem statementList_returns {cx : Setting} {stmts : List Stmt} {visit : Visit (List Visited)}
    (hv : Returns visit (stmts.map .kept)) : Returns (statementList cx stmts visit) stmts := by
  refine (returns_recordNames _).bind (returns_pendingCount.bind (hv.bind (.get fun s _ => ?_)))
  rw [any_defers_map_kept, filterMap_map_kept]
  exact .pure stmts

end Instrumentation

end TypeGuard
