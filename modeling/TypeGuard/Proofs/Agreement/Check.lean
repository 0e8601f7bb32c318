import TypeGuard.Proofs.Agreement.Relation
import TypeGuard.Proofs.Resolution.Syntax

/-!
# Visits in frames

The open scopes follow the regions of the frames around a tree, as in `Keeps.inRegion`, and every
frame has the type parameters of those around it. A check of a declared or assigned value is lowered
in the environment of the frame in which it stands.
-/

namespace TypeGuard

open Visit Instrumentation

/-! ### Scopes that follow frames -/

/-- The scopes follow the regions of the frames, which are nested. -/
structure FramesFollow (scopes : List Scope) (F : Frame) (Γ : List Frame) : Prop where
  follow : ScopesFollow scopes ((F :: Γ).map Frame.region)
  within : F.Within Γ

/-- The scopes follow the regions of the frames around the frame `F`. -/
structure FramesAround (outer : List Scope) (F : Frame) (Γ : List Frame) : Prop where
  follow : ScopesFollow outer (Γ.map Frame.region)
  within : F.Within Γ

namespace FramesFollow

variable {scopes : List Scope} {F : Frame} {Γ : List Frame} {r : Region}

/-- A scope is to be opened for a region with type parameters of its own. -/
theorem around_generic (h : FramesFollow scopes F Γ) (r : Region) (ps : List TypeParam) :
    FramesAround scopes (F.generic r ps) (F :: Γ) :=
  ⟨h.follow, h.within.generic r ps⟩

/-- A scope is to be opened for a region. -/
theorem around_inner (h : FramesFollow scopes F Γ) (r : Region) :
    FramesAround scopes (F.inner r) (F :: Γ) :=
  ⟨h.follow, h.within.inner r⟩

/-- No scope is opened for a region for which nothing is ever recorded. -/
theorem unopened_generic (h : FramesFollow scopes F Γ) (hr : r.recorded = [])
    (ps : List TypeParam) : FramesFollow scopes (F.generic r ps) (F :: Γ) :=
  ⟨.unopened hr h.follow, h.within.generic r ps⟩

theorem unopened_inner (h : FramesFollow scopes F Γ) (hr : r.recorded = []) :
    FramesFollow scopes (F.inner r) (F :: Γ) :=
  ⟨.unopened hr h.follow, h.within.inner r⟩

end FramesFollow

theorem FramesAround.record {outer : List Scope} {F : Frame} {Γ : List Frame}
    (h : FramesAround outer F Γ) (names : List String) : FramesAround outer (F.record names) Γ :=
  ⟨h.follow, h.within.record names⟩

namespace Visit

variable {α : Type} {visit : Visit α} {Q R : α → Prop} {I J : VisitState → Prop}

/-- What holds of a visit in all scopes that follow the frames holds in the innermost frame. -/
theorem Keeps.inFrame {d : Nat} {outer : List Scope} {F : Frame} {Γ : List Frame}
    (ho : FramesAround outer F Γ)
    (hv : ∀ σ, FramesFollow σ.toList F Γ → Keeps (InScopes d σ) visit Q) :
    Keeps (InRegion d F.region outer) visit Q :=
  .inRegion ho.follow fun σ hσ => hv σ ⟨hσ, ho.within⟩

theorem Leads.and (hQ : Leads I J visit Q) (hR : Leads I J visit R) :
    Leads I J visit fun a => Q a ∧ R a := by
  intro s a t hs hvisit
  obtain ⟨ht, ha⟩ := hQ s a t hs hvisit
  exact ⟨ht, ha, (hR s a t hs hvisit).2⟩

/-- What holds of the result in any state. -/
theorem Leads.andAny (hQ : Leads I J visit Q) (hR : Keeps AnyState visit R) :
    Leads I J visit fun a => Q a ∧ R a := by
  intro s a t hs hvisit
  obtain ⟨ht, ha⟩ := hQ s a t hs hvisit
  exact ⟨ht, ha, (hR s a t trivial hvisit).2⟩

end Visit

/-! ### Checks -/

namespace Setting

variable {cx : Setting}

/-- The check of a value is lowered in the environment of the visit. -/
theorem checkValue_lowered (env : Environment) (span : Span) (value : Expr) (type : StaticType)
    (label : String) :
    Keeps AnyState (cx.checkValue env span value type false label) fun out =>
      out = value ∨ ∃ check, type.lower env none = .ok check ∧
        out = value.asserted cx.names.assert (check.toExpr cx.names.runtime) label := by
  unfold checkValue
  split
  · exact .pure (.inl rfl)
  · refine (keeps_orFail cx span _).bind fun check hcheck => ?_
    refine (assertion_asserted ofScopes_anyState.noteAsserts value check label).weaken
      fun out hout => .inr ⟨check, hcheck, hout⟩

theorem checkDeclared_lowered (env : Environment) (kind : VarKind) (span : Span) (id : Pattern)
    (type : Option StaticType) (label : String) (init : Option Expr) :
    Keeps AnyState (cx.checkDeclared env kind span id type label init)
      (InitAgrees cx env type label init) := by
  cases type with
  | none => exact (keeps_modify _).map fun _ _ => .inl rfl
  | some declared =>
    simp only [checkDeclared]
    split
    · exact (keeps_modify _).map fun _ _ => .inl rfl
    · refine (keeps_modify _).bind fun _ _ => ?_
      cases init with
      | none => exact .pure (.inl rfl)
      | some value =>
        refine (checkValue_lowered env span value declared label).map fun out hout => ?_
        obtain rfl | ⟨check, hcheck, rfl⟩ := hout
        · exact .inl rfl
        · exact .inr ⟨declared, value, check, rfl, rfl, hcheck, rfl⟩

/-- The names of a declarator are recorded in its frame, in which its initial value is checked. -/
theorem checkDeclared_agrees {P : String → StaticType → List Region → Prop} {d : Nat}
    {outer : List Scope} {F : Frame} {rs : List Region} (kind : VarKind) (span : Span)
    (x : Declarator) {visited : Pattern} (label : String) (init : Option Expr)
    (hid : x.id.Scoped cx P F.env d rs visited)
    (h : kind ≠ .var → x.typedNames ⊆ F.region.declared) :
    Leads (InRegion d F.region outer) (InRegion d (F.record x.id.boundNames).region outer)
      (cx.checkDeclared F.env kind span visited x.type label init)
      (InitAgrees cx F.env x.type label init) := by
  have hrecords : Leads (InRegion d F.region outer)
      (InRegion d (F.region.record x.id.boundNames) outer)
      (cx.checkDeclared F.env kind span visited x.type label init)
      (cx.InitChecked kind x.type label init) :=
    checkDeclared_records F.env kind span x label init hid h
  have hlowered : Keeps AnyState (cx.checkDeclared F.env kind span visited x.type label init)
      (InitAgrees cx F.env x.type label init) :=
    checkDeclared_lowered F.env kind span visited x.type label init
  exact (hrecords.andAny hlowered).consequence (fun _ hs => hs) (fun _ ht => ht) fun _ ha => ha.2

/-- The check of an assigned value is that of a type that the name is seen with. -/
theorem checkAssigned_agrees {d : Nat} {σ : ScopeStack} {F : Frame} {Γ : List Frame}
    {rs : List Region} {P : String → StaticType → List Region → Prop}
    (hσ : FramesFollow σ.toList F Γ) (span : Span) (op : String) {target visited : AssignTarget}
    (value : Expr) (htarget : target.Scoped cx P F.env d rs visited) :
    Keeps (InScopes d σ) (cx.checkAssigned F.env span op visited value)
      (AssignedAgrees cx F Γ op target value) := by
  refine (checkAssigned_checked (ofScopes_atScopes d _).noteAsserts F.env span op visited
    value).weaken fun out hout => ?_
  cases hout with
  | unchecked => exact .inl rfl
  | @checked name s binding type check hop hname hs hlookup hleaf hcheck =>
    subst hname
    have hfind : σ.find? name = some (some binding) := by
      rw [← hs.2]
      exact Option.join_eq_some_iff.mp hlookup
    obtain ⟨G, hG⟩ := Frame.exists_seenFrom (hσ.follow.seenAs hfind hleaf)
    have hwithin : ∃ ps, F.env = G.env.child ps := by
      obtain rfl | hmem := List.mem_cons.mp hG.mem
      · exact ⟨[], rfl⟩
      · exact hσ.within G hmem
    obtain ⟨ps, hps⟩ := hwithin
    refine .inr ⟨hop, name, check, G, type, htarget.eq_ident, ⟨hG, ?_, hcheck, ps, hps, ?_⟩, rfl⟩
    · exact fun H hbound hrecorded => hG.eq_of_boundIn hbound hrecorded
    · intro hmentions
      rw [hps] at hcheck
      exact StaticType.lower_child hmentions hcheck

end Setting

end TypeGuard
