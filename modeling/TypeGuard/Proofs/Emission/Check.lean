import TypeGuard.Proofs.Emission.Relation
import TypeGuard.Proofs.Lowering.References

/-!
# What single constructs insert

The visits of single constructs with what they log: assertions around values, constants in the place
of declared types, and the definitions that a list of statements takes from the queue.
-/

namespace TypeGuard

open Visit Instrumentation

/-! ### Assertions -/

namespace Setting

variable {cx : Setting} {d : Nat} {top : Bool}

theorem assertion_inserts (value : Expr) {check : Combinator} (h : check.usesExtend = false)
    (label : String) :
    Inserts d top (cx.assertion value check label) fun out log =>
      out = value.asserted cx.names.assert (check.toExpr cx.names.runtime) label ∧
        log = [.assertion check] := by
  rintro s _ _ _ _ ⟨⟩
  have hafter : s.After { s with hasAsserts := true } [.assertion check] [] :=
    { VisitState.After.refl s with
      hasTypes := (Bool.or_false _).symm
      hasAsserts := (Bool.or_true _).symm
      hasExtend := by simp [Inserted.usesExtend, Inserted.check, h]
      constants := fun h => by simp [Inserted.isDefinition] at h }
  exact ⟨_, [], hafter, rfl, rfl, rfl⟩

theorem assertion_guarded (value : Expr) {check : Combinator} (h : check.usesExtend = false)
    (label : String) : Inserts d top (cx.assertion value check label) (value.Guarded cx label) :=
  (assertion_inserts value h label).weaken fun _ _ ⟨hout, hlog⟩ => hout ▸ hlog ▸ .asserted check

theorem checkValue_guarded (env : Environment) (span : Span) (value : Expr) (type : StaticType)
    (optional : Bool) (label : String) :
    Inserts d top (cx.checkValue env span value type optional label) (value.Guarded cx label) := by
  unfold checkValue
  split
  · exact .pure .unchecked
  · refine .behind (silent_orFail cx span _) fun check hcheck => assertion_guarded value ?_ label
    have hplain := StaticType.usesExtend_lower hcheck
    cases optional <;> exact hplain

theorem checkDeclared_guarded (env : Environment) (kind : VarKind) (span : Span) (id : Pattern)
    (type : Option StaticType) (label : String) (init : Option Expr) :
    Inserts d top (cx.checkDeclared env kind span id type label init)
      (InitGuarded cx label init) := by
  have hunchecked : InitGuarded cx label init init [] := by
    cases init with
    | none => exact ⟨rfl, rfl⟩
    | some value => exact ⟨value, rfl, .unchecked⟩
  cases type with
  | none => exact .behind (silent_recordUntyped id) fun _ _ => .pure hunchecked
  | some type =>
    simp only [checkDeclared]
    split
    · exact .behind (silent_recordUntyped id) fun _ _ => .pure hunchecked
    · refine .behind (silent_recordTyped id type) fun _ _ => ?_
      cases init with
      | none => exact .pure hunchecked
      | some value =>
        exact (checkValue_guarded env span value type false label).map fun f _ hf => ⟨f, rfl, hf⟩

theorem checkReassigned_guarded (env : Environment) (span : Span) (name : String) (value : Expr) :
    Inserts d top (cx.checkReassigned env span name value) (value.Guarded cx name) := by
  refine .behind (silent_lookup name) fun found _ => ?_
  split
  · split
    · exact .pure .unchecked
    · refine .behind (silent_orFail cx span _) fun check hcheck => ?_
      split
      · exact .pure .unchecked
      · exact assertion_guarded value (StaticType.usesExtend_lower hcheck) name
  · exact .pure .unchecked

theorem checkAssigned_guarded (env : Environment) (span : Span) (op : String)
    (target : AssignTarget) (value : Expr) :
    Inserts d top (cx.checkAssigned env span op target value) fun out log =>
      ∃ name, value.Guarded cx name out log := by
  unfold checkAssigned
  split
  · rename_i name
    split
    · exact (checkReassigned_guarded env span name value).weaken fun _ _ h => ⟨name, h⟩
    · exact .pure ⟨name, .unchecked⟩
  · exact .pure ⟨"", .unchecked⟩

theorem checkParam_checks (env : Environment) (span : Span) (p : Param) :
    Inserts d top (cx.checkParam env span p) (p.Checks cx) := by
  unfold checkParam
  split
  · split
    · exact .pure (.inl ⟨rfl, rfl⟩)
    · exact (checkValue_guarded env span _ _ _ _).map fun f _ hf => .inr ⟨f, rfl, hf⟩
  · exact .pure (.inl ⟨rfl, rfl⟩)

theorem reified?_reifies (env : Environment) (span : Span) (type : StaticType) :
    Silent (cx.reified? env span type) fun target? =>
      match target? with
      | some target => Reifies env type target
      | none => ∀ target, ¬ Reifies env type target := by
  unfold reified?
  split
  · rename_i ref
    refine (silent_orFail cx span _).bind fun kind hkind => ?_
    split
    · exact .pure ⟨ref, rfl, hkind⟩
    · rename_i hother
      refine .pure ?_
      rintro target ⟨_, ⟨⟩, htarget⟩
      rw [hkind] at htarget
      cases htarget
      exact hother target rfl
  · rename_i hother
    refine .pure ?_
    rintro target ⟨ref, rfl, -⟩
    exact hother ref rfl

theorem returnCheck_silent (env : Environment) (span : Span) (isAsync isGenerator : Bool)
    (type : Option StaticType) :
    Silent (cx.returnCheck env span isAsync isGenerator type) fun check =>
      check.isSome = (type.isSome && !(cx.options.skipAsserts || isGenerator)) ∧
        ∀ c ∈ check, c.usesExtend = false := by
  unfold returnCheck
  split
  · split
    · rename_i hskip
      exact .pure ⟨by simp [hskip], nofun⟩
    · rename_i hskip
      have hchecked : (true && !(cx.options.skipAsserts || isGenerator)) = true := by
        simpa using hskip
      split
      · exact .pure ⟨hchecked.symm, fun c hc => by cases hc; rfl⟩
      · refine (silent_orFail cx span _).bind fun check hcheck => .pure ⟨hchecked.symm, ?_⟩
        rintro _ ⟨⟩
        exact StaticType.usesExtend_lower hcheck
  · exact .pure ⟨rfl, nofun⟩

theorem checkedBody_inserts (isArrow isAsync : Bool) (checks : List Stmt)
    {check : Option Combinator} (hcheck : ∀ c ∈ check, c.usesExtend = false)
    (body : FunctionBody) :
    Inserts d top (cx.checkedBody isArrow isAsync checks check body) fun out log =>
      log = check.toList.map .assertion ∧ cx.BodyChecked isArrow isAsync checks body check out := by
  cases check with
  | none => exact .pure ⟨rfl, .behind⟩
  | some check =>
    refine (assertion_inserts _ (hcheck check rfl) returnLabel).map fun value _ h => ?_
    obtain ⟨rfl, rfl⟩ := h
    exact ⟨rfl, .wrapped check⟩

/-! ### Declared types -/

end Setting

/-- The second state is the first one with a declared type noted, and the extend helper if its check
refers to it. -/
structure VisitState.Noted (s t : VisitState) (extending : Bool) : Prop where
  depth : t.depth = s.depth
  scopes : t.scopes = s.scopes
  pending : t.pending = s.pending
  hasTypes : t.hasTypes = true
  hasAsserts : t.hasAsserts = s.hasAsserts
  hasExtend : t.hasExtend = (s.hasExtend || extending)

namespace Setting

variable {cx : Setting} {d : Nat} {top : Bool}

theorem orFail_eq_ok {α : Type} {span : Span} {r : Except LoweringError α} {s t : VisitState}
    {a : α} (h : cx.orFail span r s = .ok a t) : r = .ok a ∧ t = s := by
  cases r with
  | ok b =>
    cases h
    exact ⟨rfl, rfl⟩
  | error e => cases h

/-- The constant is logged where the type was noted. -/
theorem declareType_declared {recursive : Bool} {span : Span} {id : String} {check : Combinator}
    {s t u : VisitState} {out : Stmt} (hnoted : s.Noted t check.usesExtend)
    (h : cx.declareType recursive span id check t = .ok out u) :
    ∃ log defs, s.After u log defs ∧
      TypeDeclared cx recursive span id check (some out) log defs := by
  cases recursive with
  | true =>
    cases h
    refine ⟨_, _, ?_, rfl, rfl, rfl⟩
    exact {
      depth := hnoted.depth
      outer := congrArg (·.outer.length) hnoted.scopes
      pending := congrArg (· ++ _) hnoted.pending
      hasTypes := hnoted.hasTypes.trans (Bool.or_true _).symm
      hasAsserts := hnoted.hasAsserts.trans (Bool.or_false _).symm
      hasExtend := hnoted.hasExtend.trans <| by
        simp [Inserted.usesExtend, Inserted.check, Combinator.usesExtend]
      constants := fun _ => rfl }
  | false =>
    cases h
    refine ⟨_, _, ?_, rfl, rfl, rfl⟩
    exact {
      depth := hnoted.depth
      outer := congrArg (·.outer.length) hnoted.scopes
      pending := hnoted.pending.trans (List.append_nil _).symm
      hasTypes := hnoted.hasTypes.trans (Bool.or_true _).symm
      hasAsserts := hnoted.hasAsserts.trans (Bool.or_false _).symm
      hasExtend := hnoted.hasExtend.trans <| by simp [Inserted.usesExtend, Inserted.check]
      constants := fun _ => rfl }

theorem refuseReserved_silent (span : Span) (name : String) :
    Silent (cx.refuseReserved span name) fun _ => True := by
  unfold refuseReserved
  split
  · exact .throw _
  · exact .pure trivial

theorem declareAlias_declared (env : Environment) (decl : TypeAlias) :
    Emits d top (cx.declareAlias env decl) fun out log defs => ∃ check,
      decl.right.lower (env.child decl.typeParams) (checkName decl.recursive decl.id) =
        .ok check ∧
      TypeDeclared cx decl.recursive decl.span decl.id check (some out) log defs := by
  refine .behind (refuseReserved_silent _ _) fun _ _ s out u _ _ h => ?_
  obtain ⟨_, t, ht, hdeclared⟩ := bind_eq_ok h
  cases ht
  obtain ⟨check, t, hcheck, hrun⟩ := bind_eq_ok hdeclared
  obtain ⟨hlower, rfl⟩ := orFail_eq_ok hcheck
  have hnoted : s.Noted { s with hasTypes := true } check.usesExtend :=
    ⟨rfl, rfl, rfl, rfl, rfl, by rw [StaticType.usesExtend_lower hlower, Bool.or_false]⟩
  obtain ⟨log, defs, hafter, hdecl⟩ := declareType_declared hnoted hrun
  exact ⟨log, defs, hafter, check, hlower, hdecl⟩

/-- The extend helper is noted for an interface with parents, whose check refers to it. -/
theorem declareInterface_declared (env : Environment) (decl : InterfaceDecl) :
    Emits d top (cx.declareInterface env decl) fun out log defs => ∃ check,
      decl.lowered env = .ok check ∧
      TypeDeclared cx decl.recursive decl.span decl.id check (some out) log defs := by
  refine .behind (refuseReserved_silent _ _) fun _ _ s out u _ _ h => ?_
  unfold InterfaceDecl.lowered
  obtain ⟨_, t, ht, hdeclared⟩ := bind_eq_ok h
  cases ht
  split at hdeclared
  · rename_i hparents
    obtain ⟨check, t, hcheck, hrun⟩ := bind_eq_ok hdeclared
    obtain ⟨hlower, rfl⟩ := orFail_eq_ok hcheck
    have hnoted : s.Noted { s with hasTypes := true } check.usesExtend :=
      ⟨rfl, rfl, rfl, rfl, rfl, by rw [ObjectShape.usesExtend_lower hlower, Bool.or_false]⟩
    obtain ⟨log, defs, hafter, hdecl⟩ := declareType_declared hnoted hrun
    exact ⟨log, defs, hafter, check, by rw [if_pos hparents, hlower], hdecl⟩
  · rename_i hparents
    obtain ⟨_, t, ht, hextending⟩ := bind_eq_ok hdeclared
    cases ht
    obtain ⟨check, t, hcheck, hrun⟩ := bind_eq_ok hextending
    obtain ⟨hlower, rfl⟩ := orFail_eq_ok hcheck
    have hnoted : s.Noted { s with hasTypes := true, hasExtend := true } check.usesExtend :=
      ⟨rfl, rfl, rfl, rfl, rfl, by rw [ObjectShape.usesExtend_lowerExtending hlower, Bool.or_true]⟩
    obtain ⟨log, defs, hafter, hdecl⟩ := declareType_declared hnoted hrun
    exact ⟨log, defs, hafter, check, by rw [if_neg hparents, hlower], hdecl⟩

end Setting

/-! ### Statement lists -/

namespace VisitState.After

variable {s t : VisitState} {l : List Inserted} {ds : List Definition}

/-- Definitions that are taken from the end of the queue are inserted. -/
theorem flushed (h : After s t l ds) :
    After s { t with pending := s.pending } (l ++ ds.map .definition) [] where
  depth := h.depth
  outer := h.outer
  pending := (List.append_nil _).symm
  hasTypes := by
    rw [List.any_append, Inserted.any_isConstant_definitions, Bool.or_false]
    exact h.hasTypes
  hasAsserts := by
    rw [List.any_append, Inserted.any_isAssertion_definitions, Bool.or_false]
    exact h.hasAsserts
  hasExtend := by
    rw [List.any_append, Inserted.any_usesExtend_definitions, List.any_nil, Bool.or_false]
    exact h.hasExtend
  constants hdefined := by
    simp only [List.any_append, Bool.or_eq_true, Inserted.any_isDefinition_definitions, ne_eq,
      not_true_eq_false, or_false] at hdefined
    rw [List.any_append, h.constants hdefined, Bool.true_or]

end VisitState.After

namespace Instrumentation

variable {cx : Setting} {R : Demands} {d : Nat} {top : Bool} {stmts : List Stmt}
variable {visit : Visit (List Visited)}
variable {each : List Visited → List Inserted → List Definition → Prop}

theorem noticing_emits {visit : Visit (Option Stmt)}
    {Q : Option Stmt → List Inserted → List Definition → Prop} (hv : Emits d top visit Q) :
    Emits d top (noticing visit) fun v log defs =>
      v.defers = !defs.isEmpty ∧ Q v.stmt log defs := by
  intro s v u hd htop h
  obtain ⟨_, _, hbefore, hrest⟩ := bind_eq_ok h
  cases hbefore
  obtain ⟨stmt, t, hvisit, hend⟩ := bind_eq_ok hrest
  cases hend
  obtain ⟨log, defs, hafter, hQ⟩ := hv s stmt u hd htop hvisit
  refine ⟨log, defs, hafter, ?_, hQ⟩
  -- the queue has grown by the definitions that were put off
  show decide (s.pending.length < u.pending.length) = !defs.isEmpty
  rw [hafter.pending]
  cases defs <;> simp

/-- What a run of a list of statements comes down to. -/
theorem statementList_eq_ok {s u : VisitState} {out : List Stmt}
    (h : statementList cx stmts visit s = .ok out u) (hv : Emits d top visit each)
    (hd : s.depth = d) (htop : s.scopes.atTopLevel = top) :
    ∃ vs t l defs, s.After t l defs ∧ each vs l defs ∧
      if vs.any (·.defers) && !top then
        out = withDefinitions (defs.map (·.toStmt cx.names.runtime)) vs ∧
          u = { t with pending := s.pending }
      else out = vs.filterMap (·.stmt) ∧ u = t := by
  obtain ⟨_, s', hnames, hrest⟩ := bind_eq_ok h
  have hstart := (silent_recordNames _ _ _ _ hnames).1
  obtain ⟨_, _, hcount, hvisited⟩ := bind_eq_ok hrest
  cases hcount
  obtain ⟨vs, t, hvisit, hrun⟩ := bind_eq_ok hvisited
  obtain ⟨l, defs, hafter, heach⟩ :=
    hv s' vs t (hstart.depth.trans hd) (hstart.atTopLevel.trans htop) hvisit
  have hst := hstart.trans hafter
  obtain ⟨_, _, hget, hend⟩ := bind_eq_ok hrun
  cases hget
  rw [hst.atTopLevel, htop] at hend
  refine ⟨vs, t, l, defs, hst, heach, ?_⟩
  split at hend
  · rename_i hflush
    rw [if_pos hflush]
    cases hend
    have hqueue : s'.pending = s.pending := by rw [hstart.pending, List.append_nil]
    have hpending : t.pending = s.pending ++ defs := hst.pending
    simp only [hqueue, hpending, List.drop_left, List.take_left, and_self]
  · rename_i hflush
    rw [if_neg hflush]
    cases hend
    exact ⟨rfl, rfl⟩

/-- A list within the unit writes all that its statements put off. -/
theorem statementList_becomes (hv : Emits d false visit each)
    (hdefers : ∀ vs l defs, each vs l defs → vs.any (·.defers) = !defs.isEmpty)
    (hR : ∀ vs l defs, each vs l defs →
      R.list d stmts (withDefinitions (defs.map (·.toStmt cx.names.runtime)) vs)) :
    Inserts d false (statementList cx stmts visit) (ListBecomes cx R d stmts each) := by
  intro s out u hd htop h
  obtain ⟨vs, t, l, defs, hafter, heach, hrun⟩ := statementList_eq_ok h hv hd htop
  rw [hdefers vs l defs heach, Bool.not_false, Bool.and_true] at hrun
  refine ⟨l ++ defs.map .definition, [], ?_⟩
  cases defs with
  | nil =>
    obtain ⟨rfl, rfl⟩ := hrun
    have hout := withDefinitions_nil vs
    refine ⟨by simpa using hafter, rfl, vs, l, [], heach, hout.symm, rfl, ?_⟩
    rw [← hout]
    exact hR vs l [] heach
  | cons x defs =>
    obtain ⟨rfl, rfl⟩ := hrun
    exact ⟨hafter.flushed, rfl, vs, l, x :: defs, heach, rfl, rfl, hR vs l _ heach⟩

/-- The list of the unit leaves them in the queue. -/
theorem statementList_unit (hv : Emits d true visit each) :
    Emits d true (statementList cx stmts visit) fun out log defs =>
      ∃ vs, each vs log defs ∧ out = vs.filterMap (·.stmt) := by
  intro s out u hd htop h
  obtain ⟨vs, t, l, defs, hafter, heach, hrun⟩ := statementList_eq_ok h hv hd htop
  rw [Bool.not_true, Bool.and_false] at hrun
  obtain ⟨rfl, rfl⟩ := hrun
  exact ⟨l, defs, hafter, vs, heach, rfl⟩

end Instrumentation

end TypeGuard
