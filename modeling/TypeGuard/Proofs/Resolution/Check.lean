import TypeGuard.Proofs.Resolution.Relation

/-!
# Visits in regions

Within an expression the scopes stay as they are; a statement of a list records names in the
innermost scope, which fits the region of the list before and afterwards. A check of a reassignment
reads its type off scopes that follow the regions around it, and no other check looks at the scopes.
-/

namespace TypeGuard

open Visit Instrumentation

/-- The innermost scope fits the region, and the others are those given. -/
structure ScopeStack.Opens (σ : ScopeStack) (r : Region) (outer : List Scope) : Prop where
  fits : σ.innermost.Fits r
  outer_eq : σ.outer = outer

namespace ScopeStack.Opens

variable {σ : ScopeStack} {r r' : Region} {outer : List Scope} {rs : List Region}

theorem recordAll {names : List String} {entry : ScopeEntry} (h : σ.Opens r outer)
    (hentry : ∀ name ∈ names, ∀ binding type, entry = some binding →
      binding.pattern.leafType? binding.type name = some type → (name, some type) ∈ r.declared) :
    (σ.recordAll names entry).Opens (r.record names) outer where
  fits := fits_recordAll h.fits hentry
  outer_eq := by rw [outer_recordAll, h.outer_eq]

theorem recordAll_untyped (h : σ.Opens r outer) (names : List String) :
    (σ.recordAll names none).Opens (r.record names) outer := by
  refine h.recordAll fun name _ binding type hentry => ?_
  cases hentry

theorem weaken (h : σ.Opens r outer) (hrecorded : r'.recorded ⊆ r.recorded)
    (hdeclared : r.declared ⊆ r'.declared) : σ.Opens r' outer :=
  ⟨h.fits.weaken hrecorded hdeclared, h.outer_eq⟩

theorem follows (h : σ.Opens r outer) (ho : ScopesFollow outer rs) :
    ScopesFollow σ.toList (r :: rs) := by
  rw [ScopeStack.toList, h.outer_eq]
  exact .opened h.fits ho

theorem push (σ : ScopeStack) (declared : List (String × Option StaticType)) :
    σ.push.Opens (.fresh declared) σ.toList :=
  ⟨.empty declared, rfl⟩

end ScopeStack.Opens

theorem ScopeStack.pop_eq {σ τ : ScopeStack} (h : σ.outer = τ.toList) : σ.pop = τ := by
  rw [pop, h]
  rfl

/-! ### Rules -/

namespace Visit

variable {α : Type} {d : Nat} {σ : ScopeStack} {r r' : Region} {outer : List Scope}
  {rs : List Region} {visit : Visit α} {Q : α → Prop}

/-- The visit is `d` levels deep, in scopes of which `I` holds. -/
def AtScopes (d : Nat) (I : ScopeStack → Prop) (s : VisitState) : Prop := s.depth = d ∧ I s.scopes

/-- The scopes are those given. -/
abbrev InScopes (d : Nat) (σ : ScopeStack) : VisitState → Prop := AtScopes d (· = σ)

/-- The innermost scope fits the region, within the given ones. -/
abbrev InRegion (d : Nat) (r : Region) (outer : List Scope) : VisitState → Prop :=
  AtScopes d (·.Opens r outer)

/-- The innermost scope is any one within the given ones. -/
abbrev Within (d : Nat) (outer : List Scope) : VisitState → Prop := AtScopes d (·.outer = outer)

/-- What holds of a visit in all scopes that follow the regions holds in the innermost region. -/
theorem Keeps.inRegion (ho : ScopesFollow outer rs)
    (hv : ∀ σ, ScopesFollow σ.toList (r :: rs) → Keeps (InScopes d σ) visit Q) :
    Keeps (InRegion d r outer) visit Q := by
  rintro s a t ⟨hdepth, hopens⟩ hvisit
  obtain ⟨⟨ht, hsame⟩, ha⟩ := hv s.scopes (hopens.follows ho) s a t ⟨hdepth, rfl⟩ hvisit
  refine ⟨⟨ht, ?_⟩, ha⟩
  rw [hsame]
  exact hopens

/-- A visit that records nothing. -/
theorem Keeps.leadsRegion (hv : Keeps (InRegion d r outer) visit Q) :
    Leads (InRegion d r outer) (InRegion d (r.record []) outer) visit Q := by
  rw [Region.record_nil]
  exact hv.leads

theorem Leads.within {I : VisitState → Prop} (hv : Leads I (InRegion d r outer) visit Q) :
    Leads I (Within d outer) visit Q :=
  hv.consequence (fun _ h => h) (fun _ h => ⟨h.1, h.2.outer_eq⟩) fun _ h => h

/-- A scope of its own is opened for a region without recorded names, and closed afterwards. -/
theorem Keeps.openScope (declared : List (String × Option StaticType))
    (hv : Leads (InRegion d (.fresh declared) σ.toList) (Within d σ.toList) visit Q) :
    Keeps (InScopes d σ) visit.inScope Q := by
  refine Leads.between (fun s hs => ?_) (fun s hs => ?_) hv
  · obtain ⟨hdepth, hσ⟩ := hs
    refine ⟨hdepth, ?_⟩
    rw [← hσ]
    exact .push _ declared
  · exact ⟨hs.1, ScopeStack.pop_eq hs.2⟩

/-- One level down; at the greatest depth the tree is left as it is. -/
theorem Leads.nested {I J J' : ScopeStack → Prop} {unvisited : α}
    (hv : Leads (AtScopes (d + 1) I) (AtScopes (d + 1) J) visit Q)
    (hdeep : Limits.treeDepth ≤ d → ∀ σ, I σ → J' σ)
    (hleave : d < Limits.treeDepth → ∀ σ, J σ → J' σ) :
    Leads (AtScopes d I) (AtScopes d J') (Visit.nested unvisited visit)
      (UnlessDeep d unvisited Q) := by
  rintro s a t ⟨rfl, hI⟩ h
  rw [Visit.nested] at h
  split at h
  · rename_i hle
    cases h
    exact ⟨⟨rfl, hdeep hle _ hI⟩, fun _ => rfl, fun hlt => absurd hle (Nat.not_le.mpr hlt)⟩
  · rename_i hnot
    have hlt := Nat.not_le.mp hnot
    have hbetween : Leads (AtScopes s.depth I) (AtScopes s.depth J')
        (visit.between (fun s => { s with depth := s.depth + 1 })
          fun s => { s with depth := s.depth - 1 }) Q := by
      refine Leads.between (fun u hu => ?_) (fun u hu => ?_) hv
      · exact ⟨congrArg (· + 1) hu.1, hu.2⟩
      · exact ⟨congrArg (· - 1) hu.1, hleave hlt _ hu.2⟩
    obtain ⟨ht, ha⟩ := hbetween s a t ⟨rfl, hI⟩ h
    exact ⟨ht, fun hle => absurd hle hnot, fun _ => ha⟩

/-- An expression one level down. -/
theorem Keeps.nestedScopes {unvisited : α} (hv : Keeps (InScopes (d + 1) σ) visit Q) :
    Keeps (InScopes d σ) (Visit.nested unvisited visit) (UnlessDeep d unvisited Q) :=
  Leads.nested hv (fun _ _ h => h) fun _ _ h => h

/-- A statement one level down records its names in the same region. -/
theorem Leads.nestedRegion {unvisited : α} {names : List String}
    (hv : Leads (InRegion (d + 1) r outer) (InRegion (d + 1) (r.record names) outer) visit Q) :
    Leads (InRegion d r outer)
      (InRegion d (r.record (if Limits.treeDepth ≤ d then [] else names)) outer)
      (Visit.nested unvisited visit) (UnlessDeep d unvisited Q) := by
  refine hv.nested (fun hle σ h => ?_) (fun hlt σ h => ?_)
  · rw [if_pos hle, Region.record_nil]
    exact h
  · rw [if_neg (Nat.not_le.mpr hlt)]
    exact h

theorem leads_recordNames (d : Nat) (r : Region) (outer : List Scope) (names : List String) :
    Leads (InRegion d r outer) (InRegion d (r.record names) outer) (recordNames names)
      fun _ => True :=
  .modify fun _ h => ⟨h.1, h.2.recordAll_untyped names⟩

theorem leads_recordUntyped (d : Nat) (r : Region) (outer : List Scope) (p : Pattern) :
    Leads (InRegion d r outer) (InRegion d (r.record p.boundNames) outer) (recordUntyped p)
      fun _ => True :=
  .modify fun _ h => ⟨h.1, h.2.recordAll_untyped p.boundNames⟩

theorem leads_recordTyped (d : Nat) (outer : List Scope) {p : Pattern} {type : StaticType}
    (h : ∀ name ∈ p.boundNames, ∀ leaf, p.leafType? type name = some leaf →
      (name, some leaf) ∈ r.declared) :
    Leads (InRegion d r outer) (InRegion d (r.record p.boundNames) outer) (recordTyped p type)
      fun _ => True := by
  refine .modify fun s hs => ⟨hs.1, hs.2.recordAll fun name hname binding leaf hentry hleaf => ?_⟩
  cases hentry
  exact h name hname leaf hleaf

theorem ofScopes_atScopes (d : Nat) (I : ScopeStack → Prop) : OfScopes (AtScopes d I) := by
  intro s t hdepth hscopes hs
  refine ⟨hdepth.trans hs.1, ?_⟩
  rw [hscopes]
  exact hs.2

end Visit

/-! ### Visited patterns -/

section Patterns

variable {cx : Setting} {P : String → StaticType → List Region → Prop} {env : Environment} {d : Nat}
  {rs : List Region}

/-- An identifier is the target of an assignment only if it was one before the visit. -/
theorem AssignTarget.Scoped.eq_ident {target : AssignTarget} {name : String}
    (h : target.Scoped cx P env d rs (.pattern (.ident name))) :
    target = .pattern (.ident name) := by
  cases target with
  | expr e =>
    obtain ⟨f, h, -⟩ := h
    cases h
  | pattern p =>
    obtain ⟨q, h, hp⟩ := h
    cases h
    cases p with
    | ident _ =>
      cases hp
      rfl
    | object _ | array _ | rest _ =>
      obtain ⟨_, h, -⟩ := hp
      cases h
    | default _ _ =>
      obtain ⟨_, _, h, -⟩ := hp
      cases h

theorem PropKey.Scoped.static? {key key' : PropKey} (h : key.Scoped cx P env d rs key') :
    key'.static? = key.static? := by
  cases key with
  | computed _ =>
    obtain ⟨_, rfl, -⟩ := h
    rfl
  | ident _ | str _ | num _ =>
    cases h
    rfl

mutual
/-- A visited pattern binds the names that it bound before. -/
theorem Pattern.Scoped.boundNames {p q : Pattern} (h : p.Scoped cx P env d rs q) :
    q.boundNames = p.boundNames := by
  match p, h with
  | .ident _, h =>
    cases h
    rfl
  | .object props, h =>
    obtain ⟨fs, rfl, hprops⟩ := h
    exact patternPropsScoped_bound hprops
  | .array elems, h =>
    obtain ⟨fs, rfl, helems⟩ := h
    exact patternsScoped_bound helems
  | .default left right, h =>
    obtain ⟨f, g, rfl, hleft, -⟩ := h
    rw [Pattern.boundNames, Pattern.boundNames, Pattern.Scoped.boundNames hleft]
  | .rest inner, h =>
    obtain ⟨f, rfl, hinner⟩ := h
    rw [Pattern.boundNames, Pattern.boundNames, Pattern.Scoped.boundNames hinner]

theorem patternPropsScoped_bound {ps qs : List PatternProp}
    (h : patternPropsScoped cx P env d rs ps qs) : boundByProps qs = boundByProps ps := by
  match ps, h with
  | [], h =>
    cases h
    rfl
  | .keyValue key value shorthand :: ps, h =>
    obtain ⟨f, fs, rfl, ⟨g, w, rfl, -, hvalue⟩, hps⟩ := h
    rw [boundByProps, boundByProps, Pattern.Scoped.boundNames hvalue, patternPropsScoped_bound hps]
  | .rest inner :: ps, h =>
    obtain ⟨f, fs, rfl, ⟨g, rfl, hinner⟩, hps⟩ := h
    rw [boundByProps, boundByProps, Pattern.Scoped.boundNames hinner, patternPropsScoped_bound hps]

theorem patternsScoped_bound {ps qs : List (Option Pattern)}
    (h : patternsScoped cx P env d rs ps qs) : boundByElems qs = boundByElems ps := by
  match ps, h with
  | [], h =>
    cases h
    rfl
  | some p :: ps, h =>
    obtain ⟨f, fs, rfl, hp, hps⟩ := h
    rw [boundByElems, boundByElems, Pattern.Scoped.boundNames hp, patternsScoped_bound hps]
  | none :: ps, h =>
    obtain ⟨fs, rfl, hps⟩ := h
    rw [boundByElems, boundByElems, patternsScoped_bound hps]
end

mutual
/-- In a visited pattern every name stands at the path where it stood before. -/
theorem Pattern.Scoped.pathWithin? {p q : Pattern} (h : p.Scoped cx P env d rs q) (leaf : String)
    (n : Nat) : q.pathWithin? leaf n = p.pathWithin? leaf n := by
  match n with
  | 0 => rw [Pattern.pathWithin?, Pattern.pathWithin?]
  | n + 1 =>
    match p, h with
    | .ident _, h =>
      cases h
      rfl
    | .object props, h =>
      obtain ⟨fs, rfl, hprops⟩ := h
      rw [Pattern.pathWithin?, Pattern.pathWithin?, patternPropsScoped_path hprops leaf n]
    | .array elems, h =>
      obtain ⟨fs, rfl, helems⟩ := h
      rw [Pattern.pathWithin?, Pattern.pathWithin?, patternsScoped_path helems leaf n 0]
    | .default left right, h =>
      obtain ⟨f, g, rfl, hleft, -⟩ := h
      rw [Pattern.pathWithin?, Pattern.pathWithin?, Pattern.Scoped.pathWithin? hleft leaf n]
    | .rest inner, h =>
      obtain ⟨f, rfl, -⟩ := h
      rw [Pattern.pathWithin?, Pattern.pathWithin?]

theorem patternPropsScoped_path {ps qs : List PatternProp}
    (h : patternPropsScoped cx P env d rs ps qs) (leaf : String) (n : Nat) :
    propsPath? leaf n qs = propsPath? leaf n ps := by
  match ps, h with
  | [], h =>
    cases h
    rfl
  | .keyValue key value shorthand :: ps, h =>
    obtain ⟨f, fs, rfl, ⟨g, w, rfl, hkey, hvalue⟩, hps⟩ := h
    rw [propsPath?, propsPath?, PropKey.Scoped.static? hkey,
      Pattern.Scoped.pathWithin? hvalue leaf n, patternPropsScoped_path hps leaf n]
  | .rest inner :: ps, h =>
    obtain ⟨f, fs, rfl, ⟨g, rfl, -⟩, hps⟩ := h
    rw [propsPath?, propsPath?, patternPropsScoped_path hps leaf n]

theorem patternsScoped_path {ps qs : List (Option Pattern)}
    (h : patternsScoped cx P env d rs ps qs) (leaf : String) (n i : Nat) :
    elemsPath? leaf n i qs = elemsPath? leaf n i ps := by
  match ps, h with
  | [], h =>
    cases h
    rfl
  | some p :: ps, h =>
    obtain ⟨f, fs, rfl, hp, hps⟩ := h
    have hrest := patternsScoped_path hps leaf n (i + 1)
    have hpath := Pattern.Scoped.pathWithin? hp leaf n
    cases p with
    | rest inner =>
      obtain ⟨g, rfl, hinner⟩ := hp
      rw [elemsPath?, elemsPath?, Pattern.Scoped.pathWithin? hinner leaf n, hrest]
    | ident _ =>
      cases hp
      rw [elemsPath?, elemsPath?, hrest]
      all_goals nofun
    | object _ | array _ =>
      obtain ⟨_, rfl, -⟩ := hp
      rw [elemsPath?, elemsPath?, hpath, hrest]
      all_goals nofun
    | default _ _ =>
      obtain ⟨_, _, rfl, -⟩ := hp
      rw [elemsPath?, elemsPath?, hpath, hrest]
      all_goals nofun
  | none :: ps, h =>
    obtain ⟨fs, rfl, hps⟩ := h
    rw [elemsPath?, elemsPath?, patternsScoped_path hps leaf n (i + 1)]
end

/-- The parts of the declared type are the same for a visited pattern. -/
theorem Pattern.Scoped.leafType? {p q : Pattern} (h : p.Scoped cx P env d rs q) (type : StaticType)
    (leaf : String) : q.leafType? type leaf = p.leafType? type leaf := by
  rw [Pattern.leafType?, Pattern.leafType?, Pattern.pathTo?, Pattern.pathTo?, h.pathWithin?]

end Patterns

/-! ### Checks -/

namespace Setting

variable {cx : Setting} {d : Nat} {I : ScopeStack → Prop} {σ : ScopeStack} {r : Region}
  {outer : List Scope} {rs : List Region}

/-- The names of a declarator are recorded, with their types only if the region declares these. -/
theorem checkDeclared_records {P : String → StaticType → List Region → Prop} (env : Environment)
    (kind : VarKind) (span : Span) (x : Declarator) {visited : Pattern} (label : String)
    (init : Option Expr) (hid : x.id.Scoped cx P env d rs visited)
    (h : kind ≠ .var → x.typedNames ⊆ r.declared) :
    Leads (InRegion d r outer) (InRegion d (r.record x.id.boundNames) outer)
      (cx.checkDeclared env kind span visited x.type label init)
      (cx.InitChecked kind x.type label init) := by
  rw [← hid.boundNames]
  refine checkDeclared_checked (ofScopes_atScopes d _).noteAsserts env kind span visited x.type
    label init (leads_recordUntyped d r outer visited) fun hkind type htype => ?_
  refine leads_recordTyped d outer fun name hname leaf hleaf => ?_
  rw [hid.boundNames] at hname
  rw [hid.leafType?] at hleaf
  exact h hkind (Declarator.mem_typedNames hname htype hleaf)

/-- The type of a check of a reassignment is one that the name is found as. -/
theorem checkAssigned_scoped (hσ : ScopesFollow σ.toList rs) (env : Environment) (span : Span)
    (op : String) {target visited : AssignTarget} (value : Expr)
    (htarget : target.Scoped cx FoundAs env d rs visited) :
    Keeps (InScopes d σ) (cx.checkAssigned env span op visited value)
      (AssignedScoped cx FoundAs env rs op target value) := by
  refine (checkAssigned_checked (ofScopes_atScopes d _).noteAsserts env span op visited
    value).weaken fun out hout => ?_
  cases hout with
  | unchecked => exact .inl rfl
  | @checked name s binding type check hop hname hs hlookup hleaf hcheck =>
    subst hname
    have hfind : σ.find? name = some (some binding) := by
      rw [← hs.2]
      exact Option.join_eq_some_iff.mp hlookup
    have hfound : FoundAs name type rs := (hσ.seenAs hfind hleaf).foundAs
    exact .inr ⟨hop, name, type, check, htarget.eq_ident, hfound, hcheck, rfl⟩

end Setting

/-! ### Statement lists -/

namespace Instrumentation

variable {cx : Setting} {d : Nat} {outer : List Scope} {r r' : Region}

/-- A list records its functions and classes, then each of its statements is visited. -/
theorem statementList_scoped {stmts : List Stmt} {visit : Visit (List Visited)}
    {each : List Visited → Prop}
    (hv : Leads (InRegion d (r.record (declaredNames stmts)) outer) (InRegion d r' outer) visit
      each) :
    Leads (InRegion d r outer) (InRegion d r' outer) (statementList cx stmts visit)
      (ListOf cx each) :=
  leads_statementList (ofScopes_atScopes d _) (leads_recordNames d r outer _) hv

/-- A block is a list of statements in a scope of its own. -/
theorem block_scoped (cx : Setting) {σ : ScopeStack} {stmts : List Stmt}
    {visit : Visit (List Visited)} {each : List Visited → Prop}
    (hv : Leads (InRegion d ((Region.ofBlock stmts).record (declaredNames stmts)) σ.toList)
      (InRegion d r' σ.toList) visit each) :
    Keeps (InScopes d σ) (inScope (statementList cx stmts visit)) (ListOf cx each) :=
  .openScope (stmtsLexicalNames stmts) (statementList_scoped hv).within

end Instrumentation

end TypeGuard
