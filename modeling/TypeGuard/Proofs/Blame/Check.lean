import TypeGuard.Proofs.Blame.Site
import TypeGuard.Proofs.Resolution.Check

/-!
# Diagnostics of visits

A visit `Reports` a list of sites if a diagnostic that it ends in is caused by one of them. Where a
visit consists of several, the scopes in which a later one starts are those that the earlier ones
leave, so a visit that succeeds also leads from one invariant to another. There is one rule for each
way in which visits are put together, and the sites of the parts are appended in the order of the
visits. Then each construct that is checked is shown to report itself.
-/

namespace TypeGuard

namespace Visit

variable {cx : Setting} {α β : Type} {I J K I' J' : VisitState → Prop} {Q : α → Prop}
  {visit : Visit α} {sites sites' : List Site} {site : Site} {span : Span}

/-- Where `I` holds before the visit, `J` holds afterwards if it succeeds, and a diagnostic that it
ends in is caused by one of the sites. -/
structure Reports (cx : Setting) (I J : VisitState → Prop) (visit : Visit α)
    (sites : List Site) : Prop where
  leads : Leads I J visit fun _ => True
  caused : ∀ s d t, I s → visit s = .error d t → ∃ site ∈ sites, site.Causes cx.file d

/-! ### Rules -/

namespace Reports

/-- Of a visit that never fails any sites may be asked. -/
theorem succeeds (hleads : Leads I J visit Q) (h : ∀ s d t, visit s ≠ .error d t) :
    Reports cx I J visit sites where
  leads := hleads.consequence (fun _ hs => hs) (fun _ ht => ht) fun _ _ => trivial
  caused s d t _ hvisit := absurd hvisit (h s d t)

theorem pure (a : α) : Reports cx I I (Pure.pure a) sites :=
  succeeds (Q := fun _ => True) (.pure trivial) nofun

theorem get : Reports cx I I get sites := succeeds Keeps.get.leads nofun

theorem throw {d : Diagnostic} (h : site.Causes cx.file d) :
    Reports cx I I (throw d : Visit α) [site] where
  leads := (Keeps.throw d).leads
  caused := by
    rintro s _ t - ⟨⟩
    exact ⟨site, List.mem_singleton.mpr rfl, h⟩

theorem weaken (hv : Reports cx I J visit sites) (h : sites ⊆ sites') :
    Reports cx I J visit sites' where
  leads := hv.leads
  caused s d t hs hvisit := by
    obtain ⟨site, hmem, hcauses⟩ := hv.caused s d t hs hvisit
    exact ⟨site, h hmem, hcauses⟩

theorem consequence (hv : Reports cx I J visit sites) (hI : ∀ s, I' s → I s)
    (hJ : ∀ s, J s → J' s) : Reports cx I' J' visit sites where
  leads := hv.leads.consequence hI hJ fun _ _ => trivial
  caused s d t hs := hv.caused s d t (hI s hs)

/-- A visit may be known to lead to more than what its diagnostics are told from. -/
theorem along (hv : Reports cx I' J' visit sites) (hI : ∀ s, I s → I' s)
    (hleads : Leads I J visit Q) : Reports cx I J visit sites where
  leads := hleads.consequence (fun _ hs => hs) (fun _ ht => ht) fun _ _ => trivial
  caused s d t hs := hv.caused s d t (hI s hs)

/-- What follows a visit may depend on what is known of its result. -/
theorem bind_of {rest : α → Visit β} (hv : Reports cx I J visit sites) (hQ : Leads I J visit Q)
    (hr : ∀ a, Q a → Reports cx J K (rest a) sites') :
    Reports cx I K (visit >>= rest) (sites ++ sites') where
  leads := hQ.bind fun a ha => (hr a ha).leads
  caused s d t hs h := by
    simp only [Bind.bind, EStateM.bind] at h
    split at h
    · rename_i a u hvisit
      obtain ⟨hu, ha⟩ := hQ s a u hs hvisit
      obtain ⟨site, hmem, hcauses⟩ := (hr a ha).caused u d t hu h
      exact ⟨site, List.mem_append_right _ hmem, hcauses⟩
    · rename_i e u hvisit
      cases h
      obtain ⟨site, hmem, hcauses⟩ := hv.caused s d t hs hvisit
      exact ⟨site, List.mem_append_left _ hmem, hcauses⟩

theorem bind {rest : α → Visit β} (hv : Reports cx I J visit sites)
    (hr : ∀ a, Reports cx J K (rest a) sites') :
    Reports cx I K (visit >>= rest) (sites ++ sites') :=
  hv.bind_of hv.leads fun a _ => hr a

/-- Both visits report the same sites. -/
theorem bind_same {rest : α → Visit β} (hv : Reports cx I J visit sites)
    (hr : ∀ a, Reports cx J K (rest a) sites) : Reports cx I K (visit >>= rest) sites :=
  (hv.bind hr).weaken (List.append_subset.mpr ⟨List.Subset.refl _, List.Subset.refl _⟩)

/-- A visit whose result is put into a larger tree. -/
theorem map {f : α → β} (hv : Reports cx I J visit sites) :
    Reports cx I J (visit >>= fun a => Pure.pure (f a)) sites :=
  hv.bind_same fun _ => .pure _

theorem between {enter leave : VisitState → VisitState} (henter : ∀ s, I s → I' (enter s))
    (hleave : ∀ s, J' s → J (leave s)) (hv : Reports cx I' J' visit sites) :
    Reports cx I J (visit.between enter leave) sites where
  leads := .between henter hleave hv.leads
  caused s d t hs h := by
    simp only [Visit.between] at h
    split at h
    · cases h
    · rename_i e u hvisit
      cases h
      exact hv.caused _ d u (henter s hs) hvisit

end Reports

/-- The error of lowering an annotation of a construct. -/
theorem reports_orFail {r : Except LoweringError α} (hspan : site.construct.span = span)
    (hfails : ∀ e, r = .error e → site.Fails e) : Reports cx I I (cx.orFail span r) [site] := by
  cases r with
  | ok a => exact .pure a
  | error e =>
    rw [← hspan]
    exact .throw (.lowering (hfails e rfl))

theorem reports_pendingCount : Reports cx I I pendingCount sites := Reports.get.map

/-! ### Regions -/

section Regions

variable {d : Nat} {σ : ScopeStack} {r r' : Region} {outer : List Scope} {rs : List Region}

/-- What a visit reports in all scopes that follow the regions, it reports in the innermost
region. -/
theorem Reports.inRegion (ho : ScopesFollow outer rs)
    (hv : ∀ σ, ScopesFollow σ.toList (r :: rs) →
      Reports cx (InScopes d σ) (InScopes d σ) visit sites) :
    Reports cx (InRegion d r outer) (InRegion d r outer) visit sites where
  leads := (Keeps.inRegion ho fun σ hσ => (hv σ hσ).leads.keeps).leads
  caused := by
    rintro s e t ⟨hdepth, hopens⟩ hvisit
    exact (hv s.scopes (hopens.follows ho)).caused s e t ⟨hdepth, rfl⟩ hvisit

/-- A visit that records nothing. -/
theorem Reports.recordsNone
    (hv : Reports cx (InRegion d r outer) (InRegion d r outer) visit sites) :
    Reports cx (InRegion d r outer) (InRegion d (r.record []) outer) visit sites := by
  rw [Region.record_nil]
  exact hv

theorem Reports.within (hv : Reports cx I (InRegion d r outer) visit sites) :
    Reports cx I (Within d outer) visit sites :=
  hv.consequence (fun _ hs => hs) fun _ ht => ⟨ht.1, ht.2.outer_eq⟩

/-- A scope of its own is opened for a region without recorded names, and closed afterwards. -/
theorem Reports.openScope (declared : List (String × Option StaticType))
    (hv : Reports cx (InRegion d (.fresh declared) σ.toList) (Within d σ.toList) visit sites) :
    Reports cx (InScopes d σ) (InScopes d σ) visit.inScope sites where
  leads := (Keeps.openScope declared hv.leads).leads
  caused s e t hs h := by
    have hbetween : Reports cx (InScopes d σ) AnyState visit.inScope sites := by
      refine hv.between (fun s hs => ?_) fun _ _ => trivial
      obtain ⟨hdepth, hσ⟩ := hs
      refine ⟨hdepth, ?_⟩
      rw [← hσ]
      exact .push _ declared
    exact hbetween.caused s e t hs h

/-- One level down; the greatest depth is not visited. -/
theorem Reports.nested {I J J' : ScopeStack → Prop} {unvisited : α}
    (hv : Reports cx (AtScopes (d + 1) I) (AtScopes (d + 1) J) visit sites)
    (hdeep : Limits.treeDepth ≤ d → ∀ σ, I σ → J' σ)
    (hleave : d < Limits.treeDepth → ∀ σ, J σ → J' σ) :
    Reports cx (AtScopes d I) (AtScopes d J') (Visit.nested unvisited visit)
      (unlessTooDeep d sites) where
  leads := (hv.leads.nested hdeep hleave).consequence (fun _ hs => hs) (fun _ ht => ht)
    fun _ _ => trivial
  caused := by
    rintro s e t ⟨rfl, hI⟩ h
    rw [Visit.nested] at h
    split at h
    · cases h
    · rename_i hnot
      rw [unlessTooDeep, if_neg hnot]
      refine (hv.between (I := AtScopes s.depth I) (J := AnyState) (fun u hu => ?_)
        (fun _ _ => trivial)).caused s e t ⟨rfl, hI⟩ h
      exact ⟨congrArg (· + 1) hu.1, hu.2⟩

/-- An expression one level down. -/
theorem Reports.nestedScopes {unvisited : α}
    (hv : Reports cx (InScopes (d + 1) σ) (InScopes (d + 1) σ) visit sites) :
    Reports cx (InScopes d σ) (InScopes d σ) (Visit.nested unvisited visit)
      (unlessTooDeep d sites) :=
  hv.nested (fun _ _ h => h) fun _ _ h => h

/-- A statement one level down records its names in the same region. -/
theorem Reports.nestedRegion {unvisited : α} {names : List String}
    (hv : Reports cx (InRegion (d + 1) r outer) (InRegion (d + 1) (r.record names) outer) visit
      sites) :
    Reports cx (InRegion d r outer)
      (InRegion d (r.record (if Limits.treeDepth ≤ d then [] else names)) outer)
      (Visit.nested unvisited visit) (unlessTooDeep d sites) := by
  have hany : Reports cx (InRegion d r outer) (AtScopes d fun _ => True)
      (Visit.nested unvisited visit) (unlessTooDeep d sites) :=
    hv.nested (fun _ _ _ => trivial) fun _ _ _ => trivial
  exact hany.along (fun _ hs => hs) (Leads.nestedRegion hv.leads)

theorem reports_recordNames (d : Nat) (r : Region) (outer : List Scope) (names : List String) :
    Reports cx (InRegion d r outer) (InRegion d (r.record names) outer) (recordNames names)
      sites :=
  .succeeds (leads_recordNames d r outer names) nofun

theorem reports_recordUntyped (d : Nat) (r : Region) (outer : List Scope) (p : Pattern) :
    Reports cx (InRegion d r outer) (InRegion d (r.record p.boundNames) outer) (recordUntyped p)
      sites :=
  .succeeds (leads_recordUntyped d r outer p) nofun

end Regions

end Visit

/-! ### Single constructs -/

theorem StaticType.lower_eq_error_of_classify {env : Environment} {ref : GenericRef}
    {e : LoweringError} (h : ref.classify env = .error e) (name : Option String) :
    (generic ref).lower env name = .error e := by
  show (Lowering.generic env _ ref name).map _ = _
  rw [Lowering.generic, h]
  rfl

namespace Setting

open Visit

variable {cx : Setting} {I : VisitState → Prop} {env : Environment} {span : Span}
  {rs : List Region} {site : Site} {sites : List Site} {value : Expr} {type : StaticType}

/-- A cast that reifies a type may fail to classify it, and then its lowering fails alike. -/
theorem reports_reified? {inner : Expr} {optional : Bool} :
    Reports cx I I (cx.reified? env span type) [⟨.cast inner type optional span, env, rs⟩] := by
  unfold reified?
  split
  · rename_i ref
    refine (reports_orFail rfl fun e he => .cast ?_).bind_same fun kind => ?_
    · exact StaticType.lower_eq_error_of_classify he none
    · split <;> exact .pure _
  · exact .pure _

theorem reports_returnCheck (func : Function) :
    Reports cx I I (cx.returnCheck (env.child func.typeParams) func.span func.isAsync
      func.isGenerator func.returnType) [⟨.function func, env, rs⟩] := by
  unfold returnCheck
  split
  · rename_i type htype
    split
    · exact .pure _
    · split
      · exact .pure _
      · exact (reports_orFail rfl fun e he => .result htype he).map
  · exact .pure _

theorem reports_refuseReserved (site : Site) {name : String} (hspan : site.construct.span = span)
    (hname : site.construct.typeName? = some name) :
    Reports cx I I (cx.refuseReserved span name) [site] := by
  unfold refuseReserved
  split
  · rename_i hreserved
    rw [← hspan]
    exact .throw (.reserved hname hreserved)
  · exact .pure _

section OfScopes

variable (hI : OfScopes I)

include hI

theorem reports_assertion (check : Combinator) (label : String) :
    Reports cx I I (cx.assertion value check label) sites :=
  .succeeds (assertion_asserted hI.noteAsserts value check label).leads nofun

theorem reports_checkValue (site : Site) (hspan : site.construct.span = span)
    (hfails : ∀ e, type.lower env none = .error e → site.Fails e) (optional : Bool)
    (label : String) :
    Reports cx I I (cx.checkValue env span value type optional label) [site] := by
  unfold checkValue
  split
  · exact .pure _
  · exact (reports_orFail hspan hfails).bind_same fun _ => reports_assertion hI _ label

theorem reports_checkParam {func : Function} {p : Param} (hp : p ∈ func.params) :
    Reports cx I I (cx.checkParam (env.child func.typeParams) func.span p)
      [⟨.function func, env, rs⟩] := by
  unfold checkParam
  split
  · rename_i type htype
    split
    · exact .pure _
    · exact (reports_checkValue hI _ rfl (fun e he => .param hp htype he) _ _).map
  · exact .pure _

theorem reports_checkedBody (isArrow isAsync : Bool) (checks : List Stmt)
    (check : Option Combinator) (body : FunctionBody) :
    Reports cx I I (cx.checkedBody isArrow isAsync checks check body) sites := by
  cases check with
  | none => exact .pure _
  | some check => exact (reports_assertion hI check returnLabel).map

theorem reports_declareType (recursive : Bool) (id : String) (check : Combinator) :
    Reports cx I I (cx.declareType recursive span id check) sites := by
  refine .succeeds (declareType_constant hI recursive span id check).leads ?_
  cases recursive <;> exact nofun

/-- The constant of a type declaration, once its name has been found free. -/
theorem reports_constant {lowered : Except LoweringError Combinator}
    (hspan : site.construct.span = span) (hfails : ∀ e, lowered = .error e → site.Fails e)
    (recursive : Bool) (id : String) :
    Reports cx I I (cx.orFail span lowered >>= fun check => cx.declareType recursive span id check)
      [site] :=
  (reports_orFail hspan hfails).bind_same fun check => reports_declareType hI recursive id check

theorem reports_declareAlias (decl : TypeAlias) :
    Reports cx I I (cx.declareAlias env decl) [⟨.typeAlias decl, env, rs⟩] :=
  (reports_refuseReserved ⟨.typeAlias decl, env, rs⟩ rfl rfl).bind_same fun _ =>
    (Reports.succeeds (keeps_noteTypes hI).leads nofun).bind_same fun _ =>
      reports_constant hI rfl (fun _ he => .typeAlias he) _ _

theorem reports_declareInterface (decl : InterfaceDecl) :
    Reports cx I I (cx.declareInterface env decl) [⟨.interface decl, env, rs⟩] := by
  refine (reports_refuseReserved ⟨.interface decl, env, rs⟩ rfl rfl).bind_same fun _ =>
    (Reports.succeeds (keeps_noteTypes hI).leads nofun).bind_same fun _ => ?_
  split
  · rename_i hparents
    refine reports_constant hI rfl (fun e he => .interface ?_) _ _
    rw [InterfaceDecl.lowered, if_pos hparents]
    exact he
  · rename_i hparents
    refine (Reports.succeeds (keeps_noteExtend hI).leads nofun).bind_same fun _ =>
      reports_constant hI rfl (fun e he => .interface ?_) _ _
    rw [InterfaceDecl.lowered, if_neg hparents]
    exact he

end OfScopes

/-- The names are recorded first, which never fails. -/
theorem reports_checkDeclared (kind : VarKind) (declSpan : Span) (d : Declarator)
    (visited : Pattern) (label : String) (init : Option Expr) :
    Reports cx AnyState AnyState
      (cx.checkDeclared env kind (d.span.orElse declSpan) visited d.type label init)
      [⟨.declarator kind declSpan d, env, rs⟩] := by
  let site : Site := ⟨.declarator kind declSpan d, env, rs⟩
  have hrecord (f : VisitState → VisitState) : Reports cx AnyState AnyState (modify f) [site] :=
    .succeeds (keeps_modify f).leads nofun
  unfold checkDeclared
  split
  · rename_i type htype
    split
    · exact (hrecord _).map
    · rename_i hchecked
      refine (hrecord _).bind_same fun _ => ?_
      split
      · refine (reports_checkValue ofScopes_anyState site rfl (fun e he => ?_) false label).map
        exact .declarator (fun hkind => hchecked (.inl hkind)) htype he
      · exact .pure _
  · exact (hrecord _).map

/-- What an assigned name is looked up as in scopes that follow the regions is what it was declared
with there. -/
theorem reports_checkAssigned {d : Nat} {σ : ScopeStack} (hσ : ScopesFollow σ.toList rs)
    (op : String) {target visited : AssignTarget} (assigned : Expr)
    (htarget : target.Scoped cx FoundAs env d rs visited) :
    Reports cx (InScopes d σ) (InScopes d σ) (cx.checkAssigned env span op visited value)
      [⟨.assign op target assigned span, env, rs⟩] := by
  unfold checkAssigned
  split
  · rename_i name
    obtain rfl := htarget.eq_ident
    split
    · rename_i hchecks
      obtain ⟨rfl, -⟩ := hchecks
      have hlookup : Reports cx (InScopes d σ) (InScopes d σ) (lookup name) [] := Reports.get.map
      refine hlookup.bind_of (keeps_lookup name).leads fun found hfound => ?_
      obtain ⟨s, hs, rfl⟩ := hfound
      split
      · rename_i type htype
        obtain ⟨binding, hbinding, hleaf⟩ := Option.bind_eq_some_iff.mp htype
        have hfind : σ.find? name = some (some binding) := by
          rw [← hs.2]
          exact Option.join_eq_some_iff.mp hbinding
        have hfound : FoundAs name type rs := (hσ.seenAs hfind hleaf).foundAs
        split
        · exact .pure _
        · refine (reports_orFail rfl fun e he => .assign hfound he).bind_same fun check => ?_
          split
          · exact .pure _
          · exact reports_assertion (ofScopes_atScopes d _) check name
      · exact .pure _
    · exact .pure _
  · exact .pure _

end Setting

/-! ### Statement lists -/

namespace Instrumentation

open Visit

variable {cx : Setting} {d : Nat} {outer : List Scope} {r r' : Region} {sites : List Site}

theorem reports_noticing {visit : Visit (Option Stmt)} {I J : VisitState → Prop}
    (hv : Reports cx I J visit sites) : Reports cx I J (noticing visit) sites :=
  reports_pendingCount.bind_same fun _ => hv.bind_same fun _ => reports_pendingCount.map

/-- A list records its functions and classes, then each of its statements is visited. -/
theorem reports_statementList {stmts : List Stmt} {visit : Visit (List Visited)}
    (hv : Reports cx (InRegion d (r.record (declaredNames stmts)) outer) (InRegion d r' outer) visit
      sites) :
    Reports cx (InRegion d r outer) (InRegion d r' outer) (statementList cx stmts visit) sites := by
  refine (reports_recordNames d r outer _).bind_same fun _ =>
    reports_pendingCount.bind_same fun start => hv.bind_same fun vs =>
      Reports.get.bind_same fun s => ?_
  split
  · have hflush := keeps_flushSince (ofScopes_atScopes d (·.Opens r' outer)) cx.names.runtime start
    exact (Reports.succeeds hflush.leads nofun).map
  · exact .pure _

/-- A block is a list of statements in a scope of its own. -/
theorem reports_block {σ : ScopeStack} {stmts : List Stmt} {visit : Visit (List Visited)}
    (hv : Reports cx (InRegion d ((Region.ofBlock stmts).record (declaredNames stmts)) σ.toList)
      (InRegion d r' σ.toList) visit sites) :
    Reports cx (InScopes d σ) (InScopes d σ) (inScope (statementList cx stmts visit)) sites :=
  .openScope (stmtsLexicalNames stmts) (reports_statementList hv).within

end Instrumentation

end TypeGuard
