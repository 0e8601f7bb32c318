import TypeGuard.Proofs.Blame.Check
import TypeGuard.Proofs.Resolution.Syntax

/-!
# Diagnostics of visited trees

The visit of a tree reports the sites of the tree. The induction follows the visit, and makes the
same assumptions as the resolution of assigned names does: that the open scopes follow the regions
around an expression, and that the region of a list declares the names of its statements.
-/

namespace TypeGuard

open Visit Instrumentation Setting

variable (cx : Setting)

mutual
theorem Expr.instrument_reports {σ : ScopeStack} {rs : List Region}
    (hσ : ScopesFollow σ.toList rs) (env : Environment) (d : Nat) (e : Expr) :
    Reports cx (InScopes d σ) (InScopes d σ) (e.instrument cx env) (e.sites env d rs) := by
  unfold Expr.instrument Expr.sites
  refine .nestedScopes ?_
  match e with
  | .ident _ | .this | .super | .null | .bool _ | .num _ | .str _ | .regex _ _ => exact .pure _
  | .template quasis exprs => exact (instrumentExprs_report hσ env (d + 1) exprs).map
  | .taggedTemplate tag quasis exprs =>
    exact (tag.instrument_reports hσ env (d + 1)).bind fun _ =>
      (instrumentExprs_report hσ env (d + 1) exprs).map
  | .array elems => exact (instrumentElems_report hσ env (d + 1) elems).map
  | .object props => exact (instrumentProps_report hσ env (d + 1) props).map
  | .function func =>
    -- nothing is ever recorded for the own name of a function or class expression
    have hown : ScopesFollow σ.toList (.ownName func.id :: rs) := .unopened rfl hσ
    exact (func.instrument_reports hown env (d + 1)).map
  | .class decl =>
    have hown : ScopesFollow σ.toList (.ownName decl.id :: rs) := .unopened rfl hσ
    exact (decl.instrument_reports hown env (d + 1)).map
  | .member obj name => exact (obj.instrument_reports hσ env (d + 1)).map
  | .index obj key =>
    exact (obj.instrument_reports hσ env (d + 1)).bind fun _ =>
      (key.instrument_reports hσ env (d + 1)).map
  | .call callee args =>
    exact (callee.instrument_reports hσ env (d + 1)).bind fun _ =>
      (instrumentExprs_report hσ env (d + 1) args).map
  | .new callee args =>
    exact (callee.instrument_reports hσ env (d + 1)).bind fun _ =>
      (instrumentExprs_report hσ env (d + 1) args).map
  | .unary op arg => exact (arg.instrument_reports hσ env (d + 1)).map
  | .update op isPrefix arg => exact (arg.instrument_reports hσ env (d + 1)).map
  | .binary op left right =>
    exact (left.instrument_reports hσ env (d + 1)).bind fun _ =>
      (right.instrument_reports hσ env (d + 1)).map
  | .conditional test consequent alternate =>
    exact (test.instrument_reports hσ env (d + 1)).bind fun _ =>
      (consequent.instrument_reports hσ env (d + 1)).bind fun _ =>
        (alternate.instrument_reports hσ env (d + 1)).map
  | .assign op target value span =>
    refine (value.instrument_reports hσ env (d + 1)).bind fun f =>
      (target.instrument_reports hσ env (d + 1)).bind_of
        (target.instrument_scoped cx hσ env (d + 1)) fun t ht => ?_
    exact (reports_checkAssigned hσ op value ht).map
  | .seq exprs => exact (instrumentExprs_report hσ env (d + 1) exprs).map
  | .spread arg => exact (arg.instrument_reports hσ env (d + 1)).map
  | .await arg => exact (arg.instrument_reports hσ env (d + 1)).map
  | .yield arg delegate => exact (instrumentOptExpr_reports hσ env (d + 1) arg).map
  | .paren inner => exact (inner.instrument_reports hσ env (d + 1)).map
  | .cast inner type optional span =>
    let site : Site := ⟨.cast inner type optional span, env, rs⟩
    have hsite : [site] ⊆ site :: inner.sites env (d + 1) rs :=
      List.cons_subset_cons _ (List.nil_subset _)
    refine (reports_reified?.weaken hsite).bind_same fun target? => ?_
    cases target? with
    | some target => exact .pure _
    | none =>
      have hinner := inner.instrument_reports hσ env (d + 1)
      refine (hinner.weaken (List.subset_cons_self _ _)).bind_same fun f => ?_
      split
      · exact .pure _
      · exact (reports_checkValue (ofScopes_atScopes _ _) site rfl (fun e he => .cast he) optional
          inner.label).weaken hsite

theorem instrumentExprs_report {σ : ScopeStack} {rs : List Region}
    (hσ : ScopesFollow σ.toList rs) (env : Environment) (d : Nat) (es : List Expr) :
    Reports cx (InScopes d σ) (InScopes d σ) (instrumentExprs cx env es)
      (exprsSites env d rs es) := by
  match es with
  | [] => exact .pure _
  | e :: es =>
    exact (e.instrument_reports hσ env d).bind fun _ => (instrumentExprs_report hσ env d es).map

theorem instrumentOptExpr_reports {σ : ScopeStack} {rs : List Region}
    (hσ : ScopesFollow σ.toList rs) (env : Environment) (d : Nat) (e : Option Expr) :
    Reports cx (InScopes d σ) (InScopes d σ) (instrumentOptExpr cx env e)
      (optExprSites env d rs e) := by
  match e with
  | some e => exact (e.instrument_reports hσ env d).map
  | none => exact .pure _

theorem instrumentElems_report {σ : ScopeStack} {rs : List Region}
    (hσ : ScopesFollow σ.toList rs) (env : Environment) (d : Nat) (es : List (Option Expr)) :
    Reports cx (InScopes d σ) (InScopes d σ) (instrumentElems cx env es)
      (elemsSites env d rs es) := by
  match es with
  | [] => exact .pure _
  | some e :: es =>
    exact (e.instrument_reports hσ env d).bind fun _ => (instrumentElems_report hσ env d es).map
  | none :: es => exact (instrumentElems_report hσ env d es).map

theorem PropKey.instrument_reports {σ : ScopeStack} {rs : List Region}
    (hσ : ScopesFollow σ.toList rs) (env : Environment) (d : Nat) (key : PropKey) :
    Reports cx (InScopes d σ) (InScopes d σ) (key.instrument cx env) (key.sites env d rs) := by
  match key with
  | .computed e => exact (e.instrument_reports hσ env d).map
  | .ident _ | .str _ | .num _ => exact .pure _

theorem ObjectProp.instrument_reports {σ : ScopeStack} {rs : List Region}
    (hσ : ScopesFollow σ.toList rs) (env : Environment) (d : Nat) (p : ObjectProp) :
    Reports cx (InScopes d σ) (InScopes d σ) (p.instrument cx env) (p.sites env d rs) := by
  match p with
  | .keyValue key value shorthand =>
    exact (key.instrument_reports hσ env d).bind fun _ => (value.instrument_reports hσ env d).map
  | .method key func =>
    exact (key.instrument_reports hσ env d).bind fun _ => (func.instrument_reports hσ env d).map
  | .spread arg => exact (arg.instrument_reports hσ env d).map

theorem instrumentProps_report {σ : ScopeStack} {rs : List Region}
    (hσ : ScopesFollow σ.toList rs) (env : Environment) (d : Nat) (ps : List ObjectProp) :
    Reports cx (InScopes d σ) (InScopes d σ) (instrumentProps cx env ps)
      (objectPropsSites env d rs ps) := by
  match ps with
  | [] => exact .pure _
  | p :: ps =>
    exact (p.instrument_reports hσ env d).bind fun _ => (instrumentProps_report hσ env d ps).map

theorem AssignTarget.instrument_reports {σ : ScopeStack} {rs : List Region}
    (hσ : ScopesFollow σ.toList rs) (env : Environment) (d : Nat) (target : AssignTarget) :
    Reports cx (InScopes d σ) (InScopes d σ) (target.instrument cx env)
      (target.sites env d rs) := by
  match target with
  | .pattern p => exact (p.instrument_reports hσ env d).map
  | .expr e => exact (e.instrument_reports hσ env d).map

theorem Pattern.instrument_reports {σ : ScopeStack} {rs : List Region}
    (hσ : ScopesFollow σ.toList rs) (env : Environment) (d : Nat) (p : Pattern) :
    Reports cx (InScopes d σ) (InScopes d σ) (p.instrument cx env) (p.sites env d rs) := by
  match p with
  | .ident _ => exact .pure _
  | .object props => exact (instrumentPatternProps_report hσ env d props).map
  | .array elems => exact (instrumentPatterns_report hσ env d elems).map
  | .default left right =>
    exact (left.instrument_reports hσ env d).bind fun _ => (right.instrument_reports hσ env d).map
  | .rest inner => exact (inner.instrument_reports hσ env d).map

theorem PatternProp.instrument_reports {σ : ScopeStack} {rs : List Region}
    (hσ : ScopesFollow σ.toList rs) (env : Environment) (d : Nat) (p : PatternProp) :
    Reports cx (InScopes d σ) (InScopes d σ) (p.instrument cx env) (p.sites env d rs) := by
  match p with
  | .keyValue key value shorthand =>
    exact (key.instrument_reports hσ env d).bind fun _ => (value.instrument_reports hσ env d).map
  | .rest inner => exact (inner.instrument_reports hσ env d).map

theorem instrumentPatternProps_report {σ : ScopeStack} {rs : List Region}
    (hσ : ScopesFollow σ.toList rs) (env : Environment) (d : Nat) (ps : List PatternProp) :
    Reports cx (InScopes d σ) (InScopes d σ) (instrumentPatternProps cx env ps)
      (patternPropsSites env d rs ps) := by
  match ps with
  | [] => exact .pure _
  | p :: ps =>
    exact (p.instrument_reports hσ env d).bind fun _ =>
      (instrumentPatternProps_report hσ env d ps).map

theorem instrumentPatterns_report {σ : ScopeStack} {rs : List Region}
    (hσ : ScopesFollow σ.toList rs) (env : Environment) (d : Nat) (ps : List (Option Pattern)) :
    Reports cx (InScopes d σ) (InScopes d σ) (instrumentPatterns cx env ps)
      (patternsSites env d rs ps) := by
  match ps with
  | [] => exact .pure _
  | some p :: ps =>
    exact (p.instrument_reports hσ env d).bind fun _ =>
      (instrumentPatterns_report hσ env d ps).map
  | none :: ps => exact (instrumentPatterns_report hσ env d ps).map

/-- The checks of parameters point at the function. -/
theorem instrumentParams_report {outer : List Scope} {rs : List Region}
    (ho : ScopesFollow outer rs) (env : Environment) (d : Nat) (r : Region) (func : Function)
    (ps : List Param) (hps : ps ⊆ func.params) :
    Reports cx (InRegion d r outer) (InRegion d (r.record (paramNames ps)) outer)
      (instrumentParams cx (env.child func.typeParams) func.span ps)
      (⟨.function func, env, rs⟩ :: paramsSites (env.child func.typeParams) d r rs ps) := by
  match ps, hps with
  | [], _ => exact Reports.recordsNone (.pure _)
  | ⟨pattern, type, optional⟩ :: ps, hps =>
    obtain ⟨hp, hrest⟩ := List.cons_subset.mp hps
    rw [show paramNames (⟨pattern, type, optional⟩ :: ps) = pattern.boundNames ++ paramNames ps
      from rfl, ← Region.record_record]
    have hpattern := Reports.inRegion (d := d) (r := r.record pattern.boundNames) ho
      fun σ hσ => pattern.instrument_reports hσ (env.child func.typeParams) d
    have hcheck : Reports cx (InRegion d (r.record pattern.boundNames) outer) _ _
        [⟨.function func, env, rs⟩] := reports_checkParam (ofScopes_atScopes d _) hp
    have hfurther := instrumentParams_report ho env d (r.record pattern.boundNames) func ps hrest
    refine (reports_recordUntyped d r outer pattern).bind_same fun _ => ?_
    refine (hpattern.bind fun f => hcheck.bind fun checks => hfurther.map).weaken ?_
    intro site hsite
    simp only [paramsSites, List.mem_append, List.mem_cons, List.not_mem_nil] at hsite ⊢
    tauto

theorem FunctionBody.instrument_reports {outer : List Scope} {rs : List Region}
    (ho : ScopesFollow outer rs) (env : Environment) (d : Nat) (r : Region) (body : FunctionBody)
    (hbody : body.bodyNames ⊆ r.declared) :
    Reports cx (InRegion d r outer) (Within d outer) (body.instrument cx env)
      (body.sites env d r rs) := by
  match body with
  | .block stmts =>
    have hnames : stmtsLexicalNames stmts ⊆ r.declared := fun x hx =>
      hbody (List.mem_append_right _ hx)
    have heach := instrumentEach_report ho env d
      (r.record (varNames stmts ++ declaredNames stmts)) stmts hnames
    rw [← Region.record_record] at heach
    refine (reports_recordNames d r outer _).bind_same fun _ => ?_
    rw [FunctionBody.sites, ← Region.record_record]
    exact (reports_statementList heach).map.within
  | .expr value =>
    have hvalue := Reports.inRegion (d := d) (r := r) ho fun σ hσ =>
      value.instrument_reports hσ env d
    exact hvalue.map.within

theorem Function.instrument_reports {σ : ScopeStack} {rs : List Region}
    (hσ : ScopesFollow σ.toList rs) (env : Environment) (d : Nat) (func : Function) :
    Reports cx (InScopes d σ) (InScopes d σ) (func.instrument cx env) (func.sites env d rs) := by
  match func with
  | ⟨id, params, body, returnType, typeParams, isAsync, isArrow, isGenerator, span⟩ =>
    let func : Function :=
      ⟨id, params, body, returnType, typeParams, isAsync, isArrow, isGenerator, span⟩
    refine .openScope (untypedNames (paramNames params)) ?_
    have hparams := instrumentParams_report hσ env d (.ofParams params) func params
      (List.Subset.refl _)
    have hbody := body.instrument_reports hσ (env.child typeParams) d (.ofBody params body)
      (List.subset_append_right _ _)
    -- the body is visited in the scope of the parameters, which fits the region of the body as well
    have hfirst : Reports cx
        (InRegion d ((Region.ofParams params).record (paramNames params)) σ.toList)
        (Within d σ.toList) (body.instrument cx (env.child typeParams))
        (body.sites (env.child typeParams) d (.ofBody params body) rs) :=
      hbody.consequence (fun s hs => ⟨hs.1, hs.2.weaken (List.Subset.refl _)
        (List.subset_append_left _ _)⟩) fun _ h => h
    have hreturn : Reports cx (Within d σ.toList) _ _ [⟨.function func, env, rs⟩] :=
      reports_returnCheck func
    refine (hparams.bind fun visited => hfirst.bind fun f => hreturn.bind_same fun check =>
      (reports_checkedBody (ofScopes_atScopes d _) isArrow isAsync visited.2 check f).map).weaken ?_
    intro site hsite
    simp only [Function.sites, List.mem_append, List.mem_cons, List.not_mem_nil] at hsite ⊢
    tauto

theorem ClassMember.instrument_reports {σ : ScopeStack} {rs : List Region}
    (hσ : ScopesFollow σ.toList rs) (env : Environment) (d : Nat) (m : ClassMember) :
    Reports cx (InScopes d σ) (InScopes d σ) (m.instrument cx env) (m.sites env d rs) := by
  match m with
  | .method key kind isStatic func =>
    exact (key.instrument_reports hσ env d).bind fun _ => (func.instrument_reports hσ env d).map
  | .property key type value isStatic =>
    exact (key.instrument_reports hσ env d).bind fun _ =>
      (instrumentOptExpr_reports hσ env d value).map

theorem instrumentMembers_report {σ : ScopeStack} {rs : List Region}
    (hσ : ScopesFollow σ.toList rs) (env : Environment) (d : Nat) (ms : List ClassMember) :
    Reports cx (InScopes d σ) (InScopes d σ) (instrumentMembers cx env ms)
      (membersSites env d rs ms) := by
  match ms with
  | [] => exact .pure _
  | m :: ms =>
    exact (m.instrument_reports hσ env d).bind fun _ => (instrumentMembers_report hσ env d ms).map

theorem Class.instrument_reports {σ : ScopeStack} {rs : List Region}
    (hσ : ScopesFollow σ.toList rs) (env : Environment) (d : Nat) (decl : Class) :
    Reports cx (InScopes d σ) (InScopes d σ) (decl.instrument cx env) (decl.sites env d rs) := by
  match decl with
  | ⟨id, superClass, typeParams, body, span⟩ =>
    exact (instrumentOptExpr_reports hσ (env.child typeParams) d superClass).bind fun _ =>
      (instrumentMembers_report hσ (env.child typeParams) d body).map

theorem instrumentDeclarators_report {outer : List Scope} {rs : List Region}
    (ho : ScopesFollow outer rs) (env : Environment) (d : Nat) (r : Region) (kind : VarKind)
    (declSpan : Span) (ds : List Declarator)
    (hds : kind ≠ .var → ds.flatMap Declarator.typedNames ⊆ r.declared) :
    Reports cx (InRegion d r outer)
      (InRegion d (r.record (ds.flatMap fun x => x.id.boundNames)) outer)
      (instrumentDeclarators cx env kind declSpan ds)
      (declaratorsSites env d kind declSpan r rs ds) := by
  match ds, hds with
  | [], _ => exact Reports.recordsNone (.pure _)
  | ⟨id, type, init, span⟩ :: ds, hds =>
    have hinit := Reports.inRegion (d := d) (r := r) ho fun σ hσ =>
      instrumentOptExpr_reports hσ env d init
    have hid := Reports.inRegion (d := d) (r := r) ho fun σ hσ =>
      id.instrument_reports hσ env d
    have hvisited := Keeps.inRegion (d := d) (r := r) ho fun σ hσ =>
      id.instrument_scoped cx hσ env d
    have hfirst : kind ≠ .var → Declarator.typedNames ⟨id, type, init, span⟩ ⊆ r.declared :=
      fun hkind => (List.append_subset.mp (hds hkind)).1
    have hrest : kind ≠ .var → ds.flatMap Declarator.typedNames ⊆ r.declared :=
      fun hkind => (List.append_subset.mp (hds hkind)).2
    let x : Declarator := ⟨id, type, init, span⟩
    refine hinit.bind fun g => hid.bind_of hvisited.leads fun f hf => ?_
    rw [List.flatMap_cons, ← Region.record_record]
    have hrecords : Leads (InRegion d r outer) (InRegion d (r.record id.boundNames) outer) _ _ :=
      checkDeclared_records env kind (span.orElse declSpan) x id.label g hf hfirst
    have hcheck : Reports cx (InRegion d r outer) _ _
        [⟨.declarator kind declSpan x, env, r :: rs⟩] :=
      (reports_checkDeclared kind declSpan x f id.label g).along (fun _ _ => trivial) hrecords
    exact hcheck.bind fun _ =>
      (instrumentDeclarators_report ho env d (r.record id.boundNames) kind declSpan ds hrest).map

theorem VarDecl.instrument_reports {outer : List Scope} {rs : List Region}
    (ho : ScopesFollow outer rs) (env : Environment) (d : Nat) (r : Region) (decl : VarDecl)
    (hdecl : decl.lexicalNames ⊆ r.declared) :
    Reports cx (InRegion d r outer) (InRegion d (r.record decl.boundNames) outer)
      (decl.instrument cx env) (decl.sites env d r rs) := by
  match decl with
  | ⟨kind, declarators, span⟩ =>
    have hds : kind ≠ .var → declarators.flatMap Declarator.typedNames ⊆ r.declared := by
      intro hkind
      rw [VarDecl.lexicalNames, if_neg hkind] at hdecl
      exact hdecl
    exact (instrumentDeclarators_report ho env d r kind span declarators hds).map

theorem ForInit.instrument_reports {outer : List Scope} {rs : List Region}
    (ho : ScopesFollow outer rs) (env : Environment) (d : Nat) (r : Region) (i : ForInit)
    (hi : i.lexicalNames ⊆ r.declared) :
    Reports cx (InRegion d r outer) (InRegion d (r.record i.recordedNames) outer)
      (i.instrument cx env) (i.sites env d r rs) := by
  match i with
  | .varDecl decl => exact (decl.instrument_reports ho env d r hi).map
  | .expr value =>
    have hvalue := Reports.inRegion (d := d) (r := r) ho fun σ hσ =>
      value.instrument_reports hσ env d
    exact hvalue.map.recordsNone

theorem instrumentForInit_reports {outer : List Scope} {rs : List Region}
    (ho : ScopesFollow outer rs) (env : Environment) (d : Nat) (r : Region) (i : Option ForInit)
    (hi : (i.map ForInit.lexicalNames).getD [] ⊆ r.declared) :
    Reports cx (InRegion d r outer)
      (InRegion d (r.record ((i.map ForInit.recordedNames).getD [])) outer)
      (instrumentForInit cx env i) (optForInitSites env d r rs i) := by
  match i with
  | some i => exact (i.instrument_reports ho env d r hi).map
  | none => exact Reports.recordsNone (.pure _)

theorem ForHead.instrument_reports {outer : List Scope} {rs : List Region}
    (ho : ScopesFollow outer rs) (env : Environment) (d : Nat) (r : Region) (head : ForHead)
    (hhead : head.lexicalNames ⊆ r.declared) :
    Reports cx (InRegion d r outer) (InRegion d (r.record head.recordedNames) outer)
      (head.instrument cx env) (head.sites env d r rs) := by
  match head with
  | .varDecl decl => exact (decl.instrument_reports ho env d r hhead).map
  | .target target =>
    have htarget := Reports.inRegion (d := d) (r := r) ho fun σ hσ =>
      target.instrument_reports hσ env d
    exact htarget.map.recordsNone

theorem instrumentHandler_reports {σ : ScopeStack} {rs : List Region}
    (hσ : ScopesFollow σ.toList rs) (env : Environment) (d : Nat) (handler : Option CatchClause) :
    Reports cx (InScopes d σ) (InScopes d σ) (instrumentHandler cx env handler)
      (handlerSites env d rs handler) := by
  match handler with
  | some ⟨some param, stmts⟩ =>
    have hparam := Reports.inRegion (d := d) (r := .ofCatch param stmts) hσ fun τ hτ =>
      param.instrument_reports hτ env d
    have heach := instrumentEach_report hσ env d
      ((Region.ofCatch param stmts).record (declaredNames stmts)) stmts
      (List.subset_append_right _ _)
    refine .openScope (untypedNames param.boundNames ++ stmtsLexicalNames stmts) ?_
    refine (reports_recordUntyped d _ _ param).bind_same fun _ => ?_
    exact (hparam.bind fun _ => (reports_statementList heach).map).within
  | some ⟨none, stmts⟩ =>
    have heach := instrumentEach_report hσ env d
      ((Region.ofBlock stmts).record (declaredNames stmts)) stmts (List.Subset.refl _)
    refine .openScope (stmtsLexicalNames stmts) ?_
    exact (reports_statementList heach).map.within
  | none => exact .pure _

theorem instrumentFinalizer_reports {σ : ScopeStack} {rs : List Region}
    (hσ : ScopesFollow σ.toList rs) (env : Environment) (d : Nat) (finalizer : Option (List Stmt)) :
    Reports cx (InScopes d σ) (InScopes d σ) (instrumentFinalizer cx env finalizer)
      (finalizerSites env d rs finalizer) := by
  match finalizer with
  | some stmts =>
    have heach := instrumentEach_report hσ env d
      ((Region.ofBlock stmts).record (declaredNames stmts)) stmts (List.Subset.refl _)
    exact (reports_block heach).map
  | none => exact .pure _

theorem instrumentCases_report {outer : List Scope} {rs : List Region}
    (ho : ScopesFollow outer rs) (env : Environment) (d : Nat) (r : Region) (cs : List SwitchCase)
    (hcs : cs.flatMap (fun c => stmtsLexicalNames c.consequent) ⊆ r.declared) :
    Reports cx (InRegion d r outer) (Within d outer) (instrumentCases cx env cs)
      (casesSites env d r rs cs) := by
  match cs with
  | [] => exact Reports.within (.pure _)
  | ⟨test, stmts⟩ :: cs =>
    obtain ⟨hstmts, hrest⟩ := List.append_subset.mp hcs
    have htest := Reports.inRegion (d := d) (r := r) ho fun σ hσ =>
      instrumentOptExpr_reports hσ env d test
    have heach := instrumentEach_report ho env d (r.record (declaredNames stmts)) stmts hstmts
    rw [Region.record_record] at heach
    exact htest.bind fun _ => (reports_statementList heach).bind fun _ =>
      (instrumentCases_report ho env d (r.record (stmtsRecordedNames d stmts)) cs hrest).map

theorem instrumentEach_report {outer : List Scope} {rs : List Region}
    (ho : ScopesFollow outer rs) (env : Environment) (d : Nat) (r : Region) (ss : List Stmt)
    (hss : stmtsLexicalNames ss ⊆ r.declared) :
    Reports cx (InRegion d r outer)
      (InRegion d (r.record (ss.flatMap (Stmt.recordedNames d))) outer)
      (instrumentEach cx env ss) (stmtsSites env d r rs ss) := by
  match ss with
  | [] => exact Reports.recordsNone (.pure _)
  | s :: ss =>
    obtain ⟨hs, hrest⟩ := List.append_subset.mp hss
    rw [List.flatMap_cons, ← Region.record_record]
    exact (reports_noticing (s.instrument_reports ho env d r hs)).bind fun _ =>
      (instrumentEach_report ho env d (r.record (s.recordedNames d)) ss hrest).map

theorem instrumentAlternate_reports {outer : List Scope} {rs : List Region}
    (ho : ScopesFollow outer rs) (env : Environment) (d : Nat) (r : Region) (s : Option Stmt) :
    (match s with | some s => s.lexicalNames | none => []) ⊆ r.declared →
    Reports cx (InRegion d r outer)
      (InRegion d (r.record (match s with | some s => s.recordedNames d | none => [])) outer)
      (instrumentAlternate cx env s) (alternateSites env d r rs s) := by
  intro hs
  match s, hs with
  | some s, hs => exact (s.instrument_reports ho env d r hs).map
  | none, _ => exact Reports.recordsNone (.pure _)

theorem Stmt.instrument_reports {outer : List Scope} {rs : List Region}
    (ho : ScopesFollow outer rs) (env : Environment) (d : Nat) (r : Region) (s : Stmt)
    (hs : s.lexicalNames ⊆ r.declared) :
    Reports cx (InRegion d r outer) (InRegion d (r.record (s.recordedNames d)) outer)
      (s.instrument cx env) (s.sites env d r rs) := by
  unfold Stmt.recordedNames Stmt.instrument Stmt.sites
  refine .nestedRegion ?_
  match s, hs with
  | .expr value, _ =>
    have hvalue := Reports.inRegion (d := d + 1) (r := r) ho fun σ hσ =>
      value.instrument_reports hσ env (d + 1)
    exact hvalue.map.recordsNone
  | .varDecl decl, hs => exact (decl.instrument_reports ho env (d + 1) r hs).map
  | .function func, _ =>
    have hfunc := Reports.inRegion (d := d + 1) (r := r) ho fun σ hσ =>
      func.instrument_reports hσ env (d + 1)
    exact hfunc.map.recordsNone
  | .class decl, _ =>
    have hdecl := Reports.inRegion (d := d + 1) (r := r) ho fun σ hσ =>
      decl.instrument_reports hσ env (d + 1)
    exact hdecl.map.recordsNone
  | .ret arg, _ =>
    have harg := Reports.inRegion (d := d + 1) (r := r) ho fun σ hσ =>
      instrumentOptExpr_reports hσ env (d + 1) arg
    exact harg.map.recordsNone
  | .ifElse test consequent alternate, hs =>
    rw [Stmt.lexicalNames_ifElse] at hs
    obtain ⟨hthen, helse⟩ := List.append_subset.mp hs
    have htest := Reports.inRegion (d := d + 1) (r := r) ho fun σ hσ =>
      test.instrument_reports hσ env (d + 1)
    rw [← Region.record_record]
    exact htest.bind fun _ =>
      (consequent.instrument_reports ho env (d + 1) r hthen).bind fun _ =>
        (instrumentAlternate_reports ho env (d + 1)
          (r.record (consequent.recordedNames (d + 1))) alternate helse).map
  | .block stmts, _ =>
    have hblock := Reports.inRegion (d := d + 1) (r := r) ho fun σ hσ =>
      reports_block <| instrumentEach_report hσ env (d + 1)
        ((Region.ofBlock stmts).record (declaredNames stmts)) stmts (List.Subset.refl _)
    exact hblock.map.recordsNone
  | .throw arg, _ =>
    have harg := Reports.inRegion (d := d + 1) (r := r) ho fun σ hσ =>
      arg.instrument_reports hσ env (d + 1)
    exact harg.map.recordsNone
  | .forLoop init test update body, _ =>
    let names := (init.map ForInit.lexicalNames).getD []
    let head := (Region.ofLoop names body).record ((init.map ForInit.recordedNames).getD [])
    refine Reports.recordsNone <| Reports.inRegion ho fun σ hσ =>
      Reports.openScope (names ++ body.lexicalNames) ?_
    have htest := Reports.inRegion (d := d + 1) (r := head) hσ fun τ hτ =>
      instrumentOptExpr_reports hτ env (d + 1) test
    have hupdate := Reports.inRegion (d := d + 1) (r := head) hσ fun τ hτ =>
      instrumentOptExpr_reports hτ env (d + 1) update
    exact ((instrumentForInit_reports hσ env (d + 1) (.ofLoop names body) init
      (List.subset_append_left _ _)).bind fun _ => htest.bind fun _ => hupdate.bind fun _ =>
        (body.instrument_reports hσ env (d + 1) head (List.subset_append_right _ _)).map).within
  | .forIn left right body, _ =>
    -- what the loop runs over is visited before the scope of the head is opened
    have hright := Reports.inRegion (d := d + 1) (r := r) ho fun σ hσ => by
      have hhead : ScopesFollow σ.toList (.fresh left.lexicalNames :: r :: rs) := .unopened rfl hσ
      exact right.instrument_reports hhead env (d + 1)
    refine Reports.recordsNone <| hright.bind fun _ => Reports.inRegion ho fun σ hσ =>
      Reports.openScope (left.lexicalNames ++ body.lexicalNames) ?_
    exact ((left.instrument_reports hσ env (d + 1) (.ofLoop left.lexicalNames body)
      (List.subset_append_left _ _)).bind fun _ =>
        (body.instrument_reports hσ env (d + 1) _ (List.subset_append_right _ _)).map).within
  | .forOf left right body isAwait, _ =>
    have hright := Reports.inRegion (d := d + 1) (r := r) ho fun σ hσ => by
      have hhead : ScopesFollow σ.toList (.fresh left.lexicalNames :: r :: rs) := .unopened rfl hσ
      exact right.instrument_reports hhead env (d + 1)
    refine Reports.recordsNone <| hright.bind fun _ => Reports.inRegion ho fun σ hσ =>
      Reports.openScope (left.lexicalNames ++ body.lexicalNames) ?_
    exact ((left.instrument_reports hσ env (d + 1) (.ofLoop left.lexicalNames body)
      (List.subset_append_left _ _)).bind fun _ =>
        (body.instrument_reports hσ env (d + 1) _ (List.subset_append_right _ _)).map).within
  | .while test body, hs =>
    have htest := Reports.inRegion (d := d + 1) (r := r) ho fun σ hσ =>
      test.instrument_reports hσ env (d + 1)
    exact htest.bind fun _ => (body.instrument_reports ho env (d + 1) r hs).map
  | .doWhile body test, hs =>
    have htest := Reports.inRegion (d := d + 1)
      (r := r.record (body.recordedNames (d + 1))) ho fun σ hσ =>
        test.instrument_reports hσ env (d + 1)
    exact (body.instrument_reports ho env (d + 1) r hs).bind fun _ => htest.map
  | .tryCatch stmts handler finalizer, _ =>
    have hblock := Reports.inRegion (d := d + 1) (r := r) ho fun σ hσ =>
      reports_block <| instrumentEach_report hσ env (d + 1)
        ((Region.ofBlock stmts).record (declaredNames stmts)) stmts (List.Subset.refl _)
    have hhandler := Reports.inRegion (d := d + 1) (r := r) ho fun σ hσ =>
      instrumentHandler_reports hσ env (d + 1) handler
    have hfinalizer := Reports.inRegion (d := d + 1) (r := r) ho fun σ hσ =>
      instrumentFinalizer_reports hσ env (d + 1) finalizer
    exact Reports.recordsNone <| hblock.bind fun _ => hhandler.bind fun _ => hfinalizer.map
  | .switch discriminant cases, _ =>
    have hdiscriminant := Reports.inRegion (d := d + 1) (r := r) ho fun σ hσ =>
      discriminant.instrument_reports hσ env (d + 1)
    have hcases := Reports.inRegion (d := d + 1) (r := r) ho fun σ hσ =>
      Reports.openScope _ <| instrumentCases_report hσ env (d + 1) (.ofCases cases) cases
        (List.Subset.refl _)
    exact Reports.recordsNone <| hdiscriminant.bind fun _ => hcases.map
  | .labeled label body, hs => exact (body.instrument_reports ho env (d + 1) r hs).map
  | .break _, _ | .continue _, _ | .empty, _ => exact Reports.recordsNone (.pure _)
  | .typeAlias decl, _ =>
    exact (reports_declareAlias (ofScopes_atScopes _ _) decl).map.recordsNone
  | .interface decl, _ =>
    exact (reports_declareInterface (ofScopes_atScopes _ _) decl).map.recordsNone
  | .import decl, _ => exact Reports.recordsNone (.pure _)
  | .export (some declaration) specifiers source kind, hs =>
    refine (declaration.instrument_reports ho env (d + 1) r hs).bind_same fun f => ?_
    cases f <;> exact .pure _
  | .export none specifiers source kind, _ => exact Reports.recordsNone (.pure _)
  | .exportDefault value, _ =>
    have hvalue := Reports.inRegion (d := d + 1) (r := r) ho fun σ hσ =>
      value.instrument_reports hσ env (d + 1)
    exact hvalue.map.recordsNone
end

end TypeGuard
