import Mathlib.Order.Defs.Unbundled
import TypeGuard.Instrumentation.Syntax
import TypeGuard.Proofs.Visit

/-!
# What visits leave alone

Every scope that a visit opens is closed and every level that it goes down is come up again, whether
the visit ends in a result or in a diagnostic. A visit of an expression `Restores` the scopes and
the depth; one of a statement `Widens` the innermost scope by further names. There is one rule for
each way in which visits are put together, for any relation of states that is reflexive and
transitive, and one for each operation.
-/

namespace TypeGuard

/-! ### Scopes that grow -/

namespace Scope

variable {s t u : Scope} {name : String}

/-- The second scope has the entries of the first one, and behind them those of further names. -/
def GrowsTo (s t : Scope) : Prop :=
  ∃ added, t.entries = s.entries ++ added ∧ ∀ x ∈ added, s.get? x.1 = none

theorem get?_append (s : Scope) (added : List (String × ScopeEntry)) (name : String) :
    get? ⟨s.entries ++ added⟩ name = (s.get? name).or (added.lookup name) :=
  List.lookup_append

theorem GrowsTo.refl (s : Scope) : s.GrowsTo s := ⟨[], (List.append_nil _).symm, nofun⟩

/-- An entry that is there is not altered. -/
theorem GrowsTo.get?_eq (h : s.GrowsTo t) {entry : ScopeEntry} (hname : s.get? name = some entry) :
    t.get? name = some entry := by
  obtain ⟨added, hentries, -⟩ := h
  obtain ⟨entries⟩ := t
  subst hentries
  rw [get?_append, hname, Option.some_or]

theorem GrowsTo.trans (h : s.GrowsTo t) (h' : t.GrowsTo u) : s.GrowsTo u := by
  obtain ⟨added, hentries, hnew⟩ := h
  obtain ⟨further, hfurther, hnewer⟩ := h'
  refine ⟨added ++ further, by rw [hfurther, hentries, List.append_assoc], fun x hx => ?_⟩
  obtain hx | hx := List.mem_append.mp hx
  · exact hnew x hx
  · cases hname : s.get? x.1 with
    | none => rfl
    | some entry =>
      have hkept := GrowsTo.get?_eq ⟨added, hentries, hnew⟩ hname
      rw [hnewer x hx] at hkept
      cases hkept

theorem growsTo_record (s : Scope) (name : String) (entry : ScopeEntry) :
    s.GrowsTo (s.record name entry) := by
  rw [record]
  split
  · exact .refl s
  · rename_i hnew
    refine ⟨[(name, entry)], rfl, fun x hx => ?_⟩
    rw [List.mem_singleton.mp hx]
    simpa [contains] using hnew

end Scope

theorem ScopeStack.growsTo_recordAll (s : ScopeStack) (names : List String) (entry : ScopeEntry) :
    s.innermost.GrowsTo (s.recordAll names entry).innermost := by
  induction names generalizing s with
  | nil => exact .refl _
  | cons name names ih =>
    rw [recordAll, List.foldl_cons]
    exact (s.innermost.growsTo_record name entry).trans (ih (s.record name entry))

/-! ### States before and after -/

namespace VisitState

variable {s t u : VisitState}

/-- The scopes and the depth are as they were. -/
structure Restores (s t : VisitState) : Prop where
  scopes : t.scopes = s.scopes
  depth : t.depth = s.depth

/-- The innermost scope has at most grown, and the others and the depth are as they were. -/
structure Widens (s t : VisitState) : Prop where
  outer : t.scopes.outer = s.scopes.outer
  innermost : s.scopes.innermost.GrowsTo t.scopes.innermost
  depth : t.depth = s.depth

theorem Restores.widens (h : s.Restores t) : s.Widens t where
  outer := by rw [h.scopes]
  innermost := by
    rw [h.scopes]
    exact .refl _
  depth := h.depth

theorem Widens.recordAll (s : VisitState) (names : List String) (entry : ScopeEntry) :
    s.Widens { s with scopes := s.scopes.recordAll names entry } where
  outer := s.scopes.outer_recordAll names entry
  innermost := s.scopes.growsTo_recordAll names entry
  depth := rfl

/-- What a scope of its own was widened by is forgotten when it is closed. -/
theorem Widens.closed (h : Widens { s with scopes := s.scopes.push } t) :
    s.Restores { t with scopes := t.scopes.pop } where
  scopes := by
    show t.scopes.pop = s.scopes
    rw [ScopeStack.pop, h.outer]
    rfl
  depth := h.depth

instance : IsPreorder VisitState Restores where
  refl _ := ⟨rfl, rfl⟩
  trans _ _ _ h h' := ⟨h'.scopes.trans h.scopes, h'.depth.trans h.depth⟩

instance : IsPreorder VisitState Widens where
  refl _ := ⟨rfl, .refl _, rfl⟩
  trans _ _ _ h h' :=
    ⟨h'.outer.trans h.outer, h.innermost.trans h'.innermost, h'.depth.trans h.depth⟩

end VisitState

/-! ### Rules -/

namespace Visit

open VisitState

variable {α β : Type} {R : VisitState → VisitState → Prop} {visit : Visit α}

/-- However the visit ends, the state then relates to that before it. -/
def Ends (R : VisitState → VisitState → Prop) (visit : Visit α) : Prop :=
  ∀ s, match visit s with
    | .ok _ t => R s t
    | .error _ t => R s t

namespace Ends

theorem ok (h : Ends R visit) {s t : VisitState} {a : α} (hrun : visit s = .ok a t) : R s t := by
  have hs := h s
  rwa [hrun] at hs

theorem error (h : Ends R visit) {s t : VisitState} {d : Diagnostic}
    (hrun : visit s = .error d t) : R s t := by
  have hs := h s
  rwa [hrun] at hs

theorem widens (h : Ends Restores visit) : Ends Widens visit := by
  intro s
  cases hrun : visit s with
  | ok a t => exact (h.ok hrun).widens
  | error d t => exact (h.error hrun).widens

/-- A visit between two changes of the state, which lead from one relation to another. -/
theorem between {R' : VisitState → VisitState → Prop} {enter leave : VisitState → VisitState}
    (hv : Ends R visit) (hchange : ∀ s t, R (enter s) t → R' s (leave t)) :
    Ends R' (visit.between enter leave) := by
  intro s
  rw [Visit.between]
  cases hrun : visit (enter s) with
  | ok a t => exact hchange s t (hv.ok hrun)
  | error d t => exact hchange s t (hv.error hrun)

theorem inScope (hv : Ends Widens visit) : Ends Restores visit.inScope :=
  hv.between fun _ _ h => h.closed

theorem modify {f : VisitState → VisitState} (hf : ∀ s, R s (f s)) : Ends R (modify f) := hf

section Preorder

variable [IsPreorder VisitState R]

theorem pure (a : α) : Ends R (Pure.pure a) := fun s => refl_of R s

theorem throw (d : Diagnostic) : Ends R (throw d : Visit α) := fun s => refl_of R s

theorem get : Ends R get := fun s => refl_of R s

theorem bind {rest : α → Visit β} (hv : Ends R visit) (hr : ∀ a, Ends R (rest a)) :
    Ends R (visit >>= rest) := by
  intro s
  simp only [Bind.bind, EStateM.bind]
  cases hrun : visit s with
  | error d t => exact hv.error hrun
  | ok a t =>
    have hst := hv.ok hrun
    dsimp only
    cases hrest : rest a t with
    | ok b u => exact trans_of R hst ((hr a).ok hrest)
    | error d u => exact trans_of R hst ((hr a).error hrest)

/-- A visit whose result is put into a larger tree. -/
theorem map {f : α → β} (hv : Ends R visit) : Ends R (visit >>= fun a => Pure.pure (f a)) :=
  hv.bind fun _ => .pure _

theorem orFail (cx : Setting) (span : Span) (r : Except LoweringError α) :
    Ends R (cx.orFail span r) := by
  cases r with
  | ok a => exact .pure a
  | error e => exact .throw _

theorem lookup (name : String) : Ends R (lookup name) := Ends.get.map

theorem pendingCount : Ends R pendingCount := Ends.get.map

/-- At the greatest depth the tree is left as it is, and elsewhere the visit takes place one level
down. -/
theorem nested {unvisited : α} (hv : Ends R visit)
    (hup : ∀ s t, R { s with depth := s.depth + 1 } t → R s { t with depth := t.depth - 1 }) :
    Ends R (Visit.nested unvisited visit) := by
  intro s
  by_cases hdeep : Limits.treeDepth ≤ s.depth
  · simp only [Visit.nested, if_pos hdeep]
    exact refl_of R s
  · simp only [Visit.nested, if_neg hdeep]
    exact hv.between hup s

end Preorder

theorem nestedRestores {unvisited : α} (hv : Ends Restores visit) :
    Ends Restores (Visit.nested unvisited visit) :=
  hv.nested fun _ _ h => ⟨h.scopes, congrArg (· - 1) h.depth⟩

theorem nestedWidens {unvisited : α} (hv : Ends Widens visit) :
    Ends Widens (Visit.nested unvisited visit) :=
  hv.nested fun _ _ h => ⟨h.outer, h.innermost, congrArg (· - 1) h.depth⟩

end Ends

/-! ### Operations -/

theorem ends_recordTyped (p : Pattern) (type : StaticType) : Ends Widens (recordTyped p type) :=
  .modify fun s => .recordAll s p.boundNames _

theorem ends_recordUntyped (p : Pattern) : Ends Widens (recordUntyped p) :=
  .modify fun s => .recordAll s p.boundNames none

theorem ends_recordNames (names : List String) : Ends Widens (recordNames names) :=
  .modify fun s => .recordAll s names none

theorem ends_defer (d : Definition) : Ends Restores (defer d) := .modify fun _ => ⟨rfl, rfl⟩

theorem ends_flushSince (names : RuntimeNames) (start : Nat) :
    Ends Restores (flushSince names start) := fun _ => ⟨rfl, rfl⟩

theorem ends_noteTypes : Ends Restores noteTypes := .modify fun _ => ⟨rfl, rfl⟩

theorem ends_noteAsserts : Ends Restores noteAsserts := .modify fun _ => ⟨rfl, rfl⟩

theorem ends_noteExtend : Ends Restores noteExtend := .modify fun _ => ⟨rfl, rfl⟩

end Visit

/-! ### Single constructs -/

namespace Setting

open Visit VisitState

variable (cx : Setting) (env : Environment) (span : Span)

theorem assertion_restores (value : Expr) (check : Combinator) (label : String) :
    Ends Restores (cx.assertion value check label) := ends_noteAsserts.map

theorem checkValue_restores (value : Expr) (type : StaticType) (optional : Bool) (label : String) :
    Ends Restores (cx.checkValue env span value type optional label) := by
  unfold checkValue
  split
  · exact .pure _
  · exact (Ends.orFail cx span _).bind fun _ => cx.assertion_restores _ _ _

theorem checkDeclared_widens (kind : VarKind) (id : Pattern) (type : Option StaticType)
    (label : String) (init : Option Expr) :
    Ends Widens (cx.checkDeclared env kind span id type label init) := by
  cases type with
  | none => exact (ends_recordUntyped id).map
  | some type =>
    simp only [checkDeclared]
    split
    · exact (ends_recordUntyped id).map
    · refine (ends_recordTyped id type).bind fun _ => ?_
      cases init with
      | none => exact .pure _
      | some value => exact (cx.checkValue_restores env span value type false label).widens.map

theorem checkReassigned_restores (name : String) (value : Expr) :
    Ends Restores (cx.checkReassigned env span name value) := by
  refine (Ends.lookup name).bind fun found => ?_
  split
  · split
    · exact .pure _
    · refine (Ends.orFail cx span _).bind fun check => ?_
      split
      · exact .pure _
      · exact cx.assertion_restores _ _ _
  · exact .pure _

theorem checkAssigned_restores (op : String) (target : AssignTarget) (value : Expr) :
    Ends Restores (cx.checkAssigned env span op target value) := by
  unfold checkAssigned
  split
  · split
    · exact cx.checkReassigned_restores env span _ value
    · exact .pure _
  · exact .pure _

theorem reified?_restores (type : StaticType) : Ends Restores (cx.reified? env span type) := by
  unfold reified?
  split
  · refine (Ends.orFail cx span _).bind fun kind => ?_
    split <;> exact .pure _
  · exact .pure _

theorem checkParam_restores (p : Param) : Ends Restores (cx.checkParam env span p) := by
  unfold checkParam
  split
  · split
    · exact .pure _
    · exact (cx.checkValue_restores env span _ _ _ _).map
  · exact .pure _

theorem returnCheck_restores (isAsync isGenerator : Bool) (type : Option StaticType) :
    Ends Restores (cx.returnCheck env span isAsync isGenerator type) := by
  unfold returnCheck
  split
  · split
    · exact .pure _
    · split
      · exact .pure _
      · exact (Ends.orFail cx span _).map
  · exact .pure _

theorem checkedBody_restores (isArrow isAsync : Bool) (checks : List Stmt)
    (check : Option Combinator) (body : FunctionBody) :
    Ends Restores (cx.checkedBody isArrow isAsync checks check body) := by
  unfold checkedBody
  split
  · exact (cx.assertion_restores _ _ _).map
  · exact .pure _

theorem refuseReserved_restores (name : String) : Ends Restores (cx.refuseReserved span name) := by
  unfold refuseReserved
  split
  · exact .throw _
  · exact .pure _

theorem declareType_restores (recursive : Bool) (id : String) (check : Combinator) :
    Ends Restores (cx.declareType recursive span id check) := by
  unfold declareType
  split
  · exact (ends_defer _).map
  · exact .pure _

theorem declareAlias_restores (d : TypeAlias) : Ends Restores (cx.declareAlias env d) :=
  (cx.refuseReserved_restores d.span d.id).bind fun _ => ends_noteTypes.bind fun _ =>
    (Ends.orFail cx d.span _).bind fun check =>
      cx.declareType_restores d.span d.recursive d.id check

theorem declareInterface_restores (d : InterfaceDecl) :
    Ends Restores (cx.declareInterface env d) := by
  refine (cx.refuseReserved_restores d.span d.id).bind fun _ => ends_noteTypes.bind fun _ => ?_
  split
  · exact (Ends.orFail cx d.span _).bind fun check =>
      cx.declareType_restores d.span d.recursive d.id check
  · exact ends_noteExtend.bind fun _ => (Ends.orFail cx d.span _).bind fun check =>
      cx.declareType_restores d.span d.recursive d.id check

end Setting

/-! ### Statement lists -/

namespace Instrumentation

open Visit VisitState

theorem noticing_widens {visit : Visit (Option Stmt)} (hv : Ends Widens visit) :
    Ends Widens (noticing visit) :=
  Ends.pendingCount.bind fun _ => hv.bind fun _ => Ends.pendingCount.map

theorem statementList_widens (cx : Setting) (stmts : List Stmt) {visit : Visit (List Visited)}
    (hv : Ends Widens visit) : Ends Widens (statementList cx stmts visit) := by
  refine (ends_recordNames _).bind fun _ => Ends.pendingCount.bind fun start =>
    hv.bind fun visited => Ends.get.bind fun state => ?_
  split
  · exact (ends_flushSince _ start).widens.map
  · exact .pure _

end Instrumentation

end TypeGuard
