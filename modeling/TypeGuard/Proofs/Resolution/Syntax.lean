import TypeGuard.Proofs.Resolution.Check

/-!
# Visited trees in their regions

Every visited tree relates to the tree as it was, with the checks of reassignments those of types
that the names are found as in the regions around them. The induction follows the visit. What it
assumes of an expression is that the open scopes follow the regions around it, and of a statement
that the outer scopes do and that the region of its list declares its names.
-/

namespace TypeGuard

open Visit Instrumentation

variable (cx : Setting)

mutual
theorem Expr.instrument_scoped {σ : ScopeStack} {rs : List Region}
    (hσ : ScopesFollow σ.toList rs) (env : Environment) (d : Nat) (e : Expr) :
    Keeps (InScopes d σ) (e.instrument cx env) (e.Scoped cx FoundAs env d rs) := by
  unfold Expr.instrument Expr.Scoped
  refine .nestedScopes ?_
  match e with
  | .ident _ | .this | .super | .null | .bool _ | .num _ | .str _ | .regex _ _ => exact .pure rfl
  | .template quasis exprs =>
    exact (instrumentExprs_scoped hσ env (d + 1) exprs).map fun fs h => ⟨fs, rfl, h⟩
  | .taggedTemplate tag quasis exprs =>
    exact (tag.instrument_scoped hσ env (d + 1)).bind fun f htag =>
      (instrumentExprs_scoped hσ env (d + 1) exprs).map fun fs h => ⟨f, fs, rfl, htag, h⟩
  | .array elems =>
    exact (instrumentElems_scoped hσ env (d + 1) elems).map fun fs h => ⟨fs, rfl, h⟩
  | .object props =>
    exact (instrumentProps_scoped hσ env (d + 1) props).map fun fs h => ⟨fs, rfl, h⟩
  | .function func =>
    -- nothing is ever recorded for the own name of a function or class expression
    have hown : ScopesFollow σ.toList (.ownName func.id :: rs) := .unopened rfl hσ
    exact (func.instrument_scoped hown env (d + 1)).map fun f h => ⟨f, rfl, h⟩
  | .class decl =>
    have hown : ScopesFollow σ.toList (.ownName decl.id :: rs) := .unopened rfl hσ
    exact (decl.instrument_scoped hown env (d + 1)).map fun f h => ⟨f, rfl, h⟩
  | .member obj name =>
    exact (obj.instrument_scoped hσ env (d + 1)).map fun f h => ⟨f, rfl, h⟩
  | .index obj key =>
    exact (obj.instrument_scoped hσ env (d + 1)).bind fun f hobj =>
      (key.instrument_scoped hσ env (d + 1)).map fun g hkey => ⟨f, g, rfl, hobj, hkey⟩
  | .call callee args =>
    exact (callee.instrument_scoped hσ env (d + 1)).bind fun f hcallee =>
      (instrumentExprs_scoped hσ env (d + 1) args).map fun fs h => ⟨f, fs, rfl, hcallee, h⟩
  | .new callee args =>
    exact (callee.instrument_scoped hσ env (d + 1)).bind fun f hcallee =>
      (instrumentExprs_scoped hσ env (d + 1) args).map fun fs h => ⟨f, fs, rfl, hcallee, h⟩
  | .unary op arg =>
    exact (arg.instrument_scoped hσ env (d + 1)).map fun f h => ⟨f, rfl, h⟩
  | .update op isPrefix arg =>
    exact (arg.instrument_scoped hσ env (d + 1)).map fun f h => ⟨f, rfl, h⟩
  | .binary op left right =>
    exact (left.instrument_scoped hσ env (d + 1)).bind fun f hleft =>
      (right.instrument_scoped hσ env (d + 1)).map fun g hright => ⟨f, g, rfl, hleft, hright⟩
  | .conditional test consequent alternate =>
    exact (test.instrument_scoped hσ env (d + 1)).bind fun f htest =>
      (consequent.instrument_scoped hσ env (d + 1)).bind fun g hthen =>
        (alternate.instrument_scoped hσ env (d + 1)).map fun h helse =>
          ⟨f, g, h, rfl, htest, hthen, helse⟩
  | .assign op target value span =>
    refine (value.instrument_scoped hσ env (d + 1)).bind fun f hvalue =>
      (target.instrument_scoped hσ env (d + 1)).bind fun t htarget => ?_
    exact (Setting.checkAssigned_scoped hσ env span op f htarget).map fun checked hchecked =>
      ⟨t, f, checked, rfl, htarget, hvalue, hchecked⟩
  | .seq exprs =>
    exact (instrumentExprs_scoped hσ env (d + 1) exprs).map fun fs h => ⟨fs, rfl, h⟩
  | .spread arg =>
    exact (arg.instrument_scoped hσ env (d + 1)).map fun f h => ⟨f, rfl, h⟩
  | .await arg =>
    exact (arg.instrument_scoped hσ env (d + 1)).map fun f h => ⟨f, rfl, h⟩
  | .yield arg delegate =>
    exact (instrumentOptExpr_scoped hσ env (d + 1) arg).map fun f h => ⟨f, rfl, h⟩
  | .paren inner =>
    exact (inner.instrument_scoped hσ env (d + 1)).map fun f h => ⟨f, rfl, h⟩
  | .cast inner type optional span =>
    refine (Setting.keeps_reified? env span type).bind fun target? _ => ?_
    cases target? with
    | some target => exact .pure (.inl ⟨target, rfl⟩)
    | none =>
      refine (inner.instrument_scoped hσ env (d + 1)).bind fun f hinner => ?_
      split
      · exact .pure (.inr ⟨f, hinner, .inl rfl⟩)
      · exact (Setting.checkValue_checked (ofScopes_atScopes _ _).noteAsserts env span f type
          optional inner.label).weaken fun out hout => .inr ⟨f, hinner, .inr hout⟩

theorem instrumentExprs_scoped {σ : ScopeStack} {rs : List Region}
    (hσ : ScopesFollow σ.toList rs) (env : Environment) (d : Nat) (es : List Expr) :
    Keeps (InScopes d σ) (instrumentExprs cx env es) (exprsScoped cx FoundAs env d rs es) := by
  match es with
  | [] => exact .pure rfl
  | e :: es =>
    exact (e.instrument_scoped hσ env d).bind fun f he =>
      (instrumentExprs_scoped hσ env d es).map fun fs hes => ⟨f, fs, rfl, he, hes⟩

theorem instrumentOptExpr_scoped {σ : ScopeStack} {rs : List Region}
    (hσ : ScopesFollow σ.toList rs) (env : Environment) (d : Nat) (e : Option Expr) :
    Keeps (InScopes d σ) (instrumentOptExpr cx env e) (optExprScoped cx FoundAs env d rs e) := by
  match e with
  | some e => exact (e.instrument_scoped hσ env d).map fun f h => ⟨f, rfl, h⟩
  | none => exact .pure rfl

theorem instrumentElems_scoped {σ : ScopeStack} {rs : List Region}
    (hσ : ScopesFollow σ.toList rs) (env : Environment) (d : Nat) (es : List (Option Expr)) :
    Keeps (InScopes d σ) (instrumentElems cx env es) (elemsScoped cx FoundAs env d rs es) := by
  match es with
  | [] => exact .pure rfl
  | some e :: es =>
    exact (e.instrument_scoped hσ env d).bind fun f he =>
      (instrumentElems_scoped hσ env d es).map fun fs hes => ⟨f, fs, rfl, he, hes⟩
  | none :: es =>
    exact (instrumentElems_scoped hσ env d es).map fun fs h => ⟨fs, rfl, h⟩

theorem PropKey.instrument_scoped {σ : ScopeStack} {rs : List Region}
    (hσ : ScopesFollow σ.toList rs) (env : Environment) (d : Nat) (key : PropKey) :
    Keeps (InScopes d σ) (key.instrument cx env) (key.Scoped cx FoundAs env d rs) := by
  match key with
  | .computed e => exact (e.instrument_scoped hσ env d).map fun f h => ⟨f, rfl, h⟩
  | .ident _ | .str _ | .num _ => exact .pure rfl

theorem ObjectProp.instrument_scoped {σ : ScopeStack} {rs : List Region}
    (hσ : ScopesFollow σ.toList rs) (env : Environment) (d : Nat) (p : ObjectProp) :
    Keeps (InScopes d σ) (p.instrument cx env) (p.Scoped cx FoundAs env d rs) := by
  match p with
  | .keyValue key value shorthand =>
    exact (key.instrument_scoped hσ env d).bind fun f hkey =>
      (value.instrument_scoped hσ env d).map fun g hvalue => ⟨f, g, rfl, hkey, hvalue⟩
  | .method key func =>
    exact (key.instrument_scoped hσ env d).bind fun f hkey =>
      (func.instrument_scoped hσ env d).map fun g hfunc => ⟨f, g, rfl, hkey, hfunc⟩
  | .spread arg => exact (arg.instrument_scoped hσ env d).map fun f h => ⟨f, rfl, h⟩

theorem instrumentProps_scoped {σ : ScopeStack} {rs : List Region}
    (hσ : ScopesFollow σ.toList rs) (env : Environment) (d : Nat) (ps : List ObjectProp) :
    Keeps (InScopes d σ) (instrumentProps cx env ps)
      (objectPropsScoped cx FoundAs env d rs ps) := by
  match ps with
  | [] => exact .pure rfl
  | p :: ps =>
    exact (p.instrument_scoped hσ env d).bind fun f hp =>
      (instrumentProps_scoped hσ env d ps).map fun fs hps => ⟨f, fs, rfl, hp, hps⟩

theorem AssignTarget.instrument_scoped {σ : ScopeStack} {rs : List Region}
    (hσ : ScopesFollow σ.toList rs) (env : Environment) (d : Nat) (target : AssignTarget) :
    Keeps (InScopes d σ) (target.instrument cx env) (target.Scoped cx FoundAs env d rs) := by
  match target with
  | .pattern p => exact (p.instrument_scoped hσ env d).map fun f h => ⟨f, rfl, h⟩
  | .expr e => exact (e.instrument_scoped hσ env d).map fun f h => ⟨f, rfl, h⟩

theorem Pattern.instrument_scoped {σ : ScopeStack} {rs : List Region}
    (hσ : ScopesFollow σ.toList rs) (env : Environment) (d : Nat) (p : Pattern) :
    Keeps (InScopes d σ) (p.instrument cx env) (p.Scoped cx FoundAs env d rs) := by
  match p with
  | .ident _ => exact .pure rfl
  | .object props =>
    exact (instrumentPatternProps_scoped hσ env d props).map fun fs h => ⟨fs, rfl, h⟩
  | .array elems =>
    exact (instrumentPatterns_scoped hσ env d elems).map fun fs h => ⟨fs, rfl, h⟩
  | .default left right =>
    exact (left.instrument_scoped hσ env d).bind fun f hleft =>
      (right.instrument_scoped hσ env d).map fun g hright => ⟨f, g, rfl, hleft, hright⟩
  | .rest inner => exact (inner.instrument_scoped hσ env d).map fun f h => ⟨f, rfl, h⟩

theorem PatternProp.instrument_scoped {σ : ScopeStack} {rs : List Region}
    (hσ : ScopesFollow σ.toList rs) (env : Environment) (d : Nat) (p : PatternProp) :
    Keeps (InScopes d σ) (p.instrument cx env) (p.Scoped cx FoundAs env d rs) := by
  match p with
  | .keyValue key value shorthand =>
    exact (key.instrument_scoped hσ env d).bind fun f hkey =>
      (value.instrument_scoped hσ env d).map fun g hvalue => ⟨f, g, rfl, hkey, hvalue⟩
  | .rest inner => exact (inner.instrument_scoped hσ env d).map fun f h => ⟨f, rfl, h⟩

theorem instrumentPatternProps_scoped {σ : ScopeStack} {rs : List Region}
    (hσ : ScopesFollow σ.toList rs) (env : Environment) (d : Nat) (ps : List PatternProp) :
    Keeps (InScopes d σ) (instrumentPatternProps cx env ps)
      (patternPropsScoped cx FoundAs env d rs ps) := by
  match ps with
  | [] => exact .pure rfl
  | p :: ps =>
    exact (p.instrument_scoped hσ env d).bind fun f hp =>
      (instrumentPatternProps_scoped hσ env d ps).map fun fs hps => ⟨f, fs, rfl, hp, hps⟩

theorem instrumentPatterns_scoped {σ : ScopeStack} {rs : List Region}
    (hσ : ScopesFollow σ.toList rs) (env : Environment) (d : Nat) (ps : List (Option Pattern)) :
    Keeps (InScopes d σ) (instrumentPatterns cx env ps)
      (patternsScoped cx FoundAs env d rs ps) := by
  match ps with
  | [] => exact .pure rfl
  | some p :: ps =>
    exact (p.instrument_scoped hσ env d).bind fun f hp =>
      (instrumentPatterns_scoped hσ env d ps).map fun fs hps => ⟨f, fs, rfl, hp, hps⟩
  | none :: ps =>
    exact (instrumentPatterns_scoped hσ env d ps).map fun fs h => ⟨fs, rfl, h⟩

theorem instrumentParams_scoped {outer : List Scope} {rs : List Region}
    (ho : ScopesFollow outer rs) (env : Environment) (d : Nat) (r : Region) (span : Span)
    (ps : List Param) :
    Leads (InRegion d r outer) (InRegion d (r.record (paramNames ps)) outer)
      (instrumentParams cx env span ps)
      fun out => paramsScoped cx FoundAs env d r rs ps out.1 := by
  match ps with
  | [] =>
    rw [show paramNames [] = [] from rfl, Region.record_nil]
    exact .pure rfl
  | ⟨pattern, type, optional⟩ :: ps =>
    rw [show paramNames (⟨pattern, type, optional⟩ :: ps) = pattern.boundNames ++ paramNames ps
      from rfl, ← Region.record_record]
    refine (leads_recordUntyped d r outer pattern).bind fun _ _ => ?_
    have hpattern := Keeps.inRegion (d := d) (r := r.record pattern.boundNames) ho fun σ hσ =>
      pattern.instrument_scoped hσ env d
    refine hpattern.leads.bind fun f hf => ?_
    refine (Setting.checkParam_checked (ofScopes_atScopes d _).noteAsserts env span _).leads.bind
      fun checks _ => ?_
    exact (instrumentParams_scoped ho env d _ span ps).map fun rest hps =>
      ⟨f, rest.1, rfl, hf, hps⟩

theorem FunctionBody.instrument_scoped {outer : List Scope} {rs : List Region}
    (ho : ScopesFollow outer rs) (env : Environment) (d : Nat) (r : Region) (body : FunctionBody)
    (hbody : body.bodyNames ⊆ r.declared) :
    Leads (InRegion d r outer) (Within d outer) (body.instrument cx env)
      (body.Scoped cx FoundAs env d r rs) := by
  match body with
  | .block stmts =>
    have hnames : stmtsLexicalNames stmts ⊆ r.declared := fun x hx =>
      hbody (List.mem_append_right _ hx)
    refine (leads_recordNames d r outer _).bind fun _ _ => ?_
    have heach := instrumentEach_scoped ho env d
      (r.record (varNames stmts ++ declaredNames stmts)) stmts hnames
    rw [← Region.record_record] at heach
    refine ((statementList_scoped heach).map fun fs h => ?_).within
    rw [Region.record_record] at h
    exact ⟨fs, rfl, h⟩
  | .expr value =>
    have hvalue := Keeps.inRegion (d := d) (r := r) ho fun σ hσ => value.instrument_scoped hσ env d
    exact (hvalue.leads.map fun f h => ⟨f, rfl, h⟩).within

theorem Function.instrument_scoped {σ : ScopeStack} {rs : List Region}
    (hσ : ScopesFollow σ.toList rs) (env : Environment) (d : Nat) (func : Function) :
    Keeps (InScopes d σ) (func.instrument cx env) (func.Scoped cx FoundAs env d rs) := by
  match func with
  | ⟨id, params, body, returnType, typeParams, isAsync, isArrow, isGenerator, span⟩ =>
    refine .openScope (untypedNames (paramNames params)) ?_
    refine (instrumentParams_scoped hσ (env.child typeParams) d (.ofParams params) span params).bind
      fun visited hparams => ?_
    have hbody := body.instrument_scoped hσ (env.child typeParams) d (.ofBody params body)
      (List.subset_append_right _ _)
    -- the body is visited in the scope of the parameters, which fits the region of the body as well
    have hfirst : Leads (InRegion d ((Region.ofParams params).record (paramNames params)) σ.toList)
        (Within d σ.toList) _ _ :=
      hbody.consequence (fun s hs => ⟨hs.1, hs.2.weaken (List.Subset.refl _)
        (List.subset_append_left _ _)⟩) (fun _ h => h) fun _ h => h
    refine hfirst.bind fun f hf => ?_
    refine (Setting.returnCheck_isSome _ span isAsync isGenerator returnType).leads.bind
      fun check _ => ?_
    exact (Setting.checkedBody_checked (ofScopes_atScopes d _).noteAsserts isArrow isAsync visited.2
      check f).leads.map fun out hout => ⟨visited.2, f, check, hparams, hf, hout⟩

theorem ClassMember.instrument_scoped {σ : ScopeStack} {rs : List Region}
    (hσ : ScopesFollow σ.toList rs) (env : Environment) (d : Nat) (m : ClassMember) :
    Keeps (InScopes d σ) (m.instrument cx env) (m.Scoped cx FoundAs env d rs) := by
  match m with
  | .method key kind isStatic func =>
    exact (key.instrument_scoped hσ env d).bind fun f hkey =>
      (func.instrument_scoped hσ env d).map fun g hfunc => ⟨f, g, rfl, hkey, hfunc⟩
  | .property key type value isStatic =>
    exact (key.instrument_scoped hσ env d).bind fun f hkey =>
      (instrumentOptExpr_scoped hσ env d value).map fun g hvalue => ⟨f, g, rfl, hkey, hvalue⟩

theorem instrumentMembers_scoped {σ : ScopeStack} {rs : List Region}
    (hσ : ScopesFollow σ.toList rs) (env : Environment) (d : Nat) (ms : List ClassMember) :
    Keeps (InScopes d σ) (instrumentMembers cx env ms) (membersScoped cx FoundAs env d rs ms) := by
  match ms with
  | [] => exact .pure rfl
  | m :: ms =>
    exact (m.instrument_scoped hσ env d).bind fun f hm =>
      (instrumentMembers_scoped hσ env d ms).map fun fs hms => ⟨f, fs, rfl, hm, hms⟩

theorem Class.instrument_scoped {σ : ScopeStack} {rs : List Region}
    (hσ : ScopesFollow σ.toList rs) (env : Environment) (d : Nat) (decl : Class) :
    Keeps (InScopes d σ) (decl.instrument cx env) (decl.Scoped cx FoundAs env d rs) := by
  match decl with
  | ⟨id, superClass, typeParams, body, span⟩ =>
    exact (instrumentOptExpr_scoped hσ (env.child typeParams) d superClass).bind fun f hsuper =>
      (instrumentMembers_scoped hσ (env.child typeParams) d body).map fun fs hbody =>
        ⟨f, fs, rfl, hsuper, hbody⟩

theorem instrumentDeclarators_scoped {outer : List Scope} {rs : List Region}
    (ho : ScopesFollow outer rs) (env : Environment) (d : Nat) (r : Region) (kind : VarKind)
    (declSpan : Span) (ds : List Declarator)
    (hds : kind ≠ .var → ds.flatMap Declarator.typedNames ⊆ r.declared) :
    Leads (InRegion d r outer) (InRegion d (r.record (ds.flatMap fun x => x.id.boundNames)) outer)
      (instrumentDeclarators cx env kind declSpan ds)
      (declaratorsScoped cx FoundAs env d kind r rs ds) := by
  match ds with
  | [] =>
    rw [List.flatMap_nil, Region.record_nil]
    exact .pure rfl
  | ⟨id, type, init, span⟩ :: ds =>
    have hinit := Keeps.inRegion (d := d) (r := r) ho fun σ hσ =>
      instrumentOptExpr_scoped hσ env d init
    have hid := Keeps.inRegion (d := d) (r := r) ho fun σ hσ => id.instrument_scoped hσ env d
    refine hinit.leads.bind fun g hg => hid.leads.bind fun f hf => ?_
    have hfirst : kind ≠ .var → Declarator.typedNames ⟨id, type, init, span⟩ ⊆ r.declared :=
      fun hkind => (List.append_subset.mp (hds hkind)).1
    have hrest : kind ≠ .var → ds.flatMap Declarator.typedNames ⊆ r.declared :=
      fun hkind => (List.append_subset.mp (hds hkind)).2
    rw [List.flatMap_cons, ← Region.record_record]
    refine (Setting.checkDeclared_records env kind _ ⟨id, type, init, span⟩ id.label g hf
      hfirst).bind fun checked hchecked => ?_
    exact (instrumentDeclarators_scoped ho env d (r.record id.boundNames) kind declSpan ds
      hrest).map fun fs hfs => ⟨f, g, checked, fs, rfl, hf, hg, hchecked, hfs⟩

theorem VarDecl.instrument_scoped {outer : List Scope} {rs : List Region}
    (ho : ScopesFollow outer rs) (env : Environment) (d : Nat) (r : Region) (decl : VarDecl)
    (hdecl : decl.lexicalNames ⊆ r.declared) :
    Leads (InRegion d r outer) (InRegion d (r.record decl.boundNames) outer)
      (decl.instrument cx env) (decl.Scoped cx FoundAs env d r rs) := by
  match decl with
  | ⟨kind, declarators, span⟩ =>
    have hds : kind ≠ .var → declarators.flatMap Declarator.typedNames ⊆ r.declared := by
      intro hkind
      rw [VarDecl.lexicalNames, if_neg hkind] at hdecl
      exact hdecl
    exact (instrumentDeclarators_scoped ho env d r kind span declarators hds).map
      fun fs h => ⟨fs, rfl, h⟩

theorem ForInit.instrument_scoped {outer : List Scope} {rs : List Region}
    (ho : ScopesFollow outer rs) (env : Environment) (d : Nat) (r : Region) (i : ForInit)
    (hi : i.lexicalNames ⊆ r.declared) :
    Leads (InRegion d r outer) (InRegion d (r.record i.recordedNames) outer)
      (i.instrument cx env) (i.Scoped cx FoundAs env d r rs) := by
  match i with
  | .varDecl decl => exact (decl.instrument_scoped ho env d r hi).map fun f h => ⟨f, rfl, h⟩
  | .expr value =>
    have hvalue := Keeps.inRegion (d := d) (r := r) ho fun σ hσ => value.instrument_scoped hσ env d
    rw [ForInit.recordedNames, Region.record_nil]
    exact hvalue.leads.map fun f h => ⟨f, rfl, h⟩

theorem instrumentForInit_scoped {outer : List Scope} {rs : List Region}
    (ho : ScopesFollow outer rs) (env : Environment) (d : Nat) (r : Region) (i : Option ForInit)
    (hi : (i.map ForInit.lexicalNames).getD [] ⊆ r.declared) :
    Leads (InRegion d r outer)
      (InRegion d (r.record ((i.map ForInit.recordedNames).getD [])) outer)
      (instrumentForInit cx env i) (optForInitScoped cx FoundAs env d r rs i) := by
  match i with
  | some i => exact (i.instrument_scoped ho env d r hi).map fun f h => ⟨f, rfl, h⟩
  | none =>
    rw [Option.map_none, Option.getD_none, Region.record_nil]
    exact .pure rfl

theorem ForHead.instrument_scoped {outer : List Scope} {rs : List Region}
    (ho : ScopesFollow outer rs) (env : Environment) (d : Nat) (r : Region) (head : ForHead)
    (hhead : head.lexicalNames ⊆ r.declared) :
    Leads (InRegion d r outer) (InRegion d (r.record head.recordedNames) outer)
      (head.instrument cx env) (head.Scoped cx FoundAs env d r rs) := by
  match head with
  | .varDecl decl => exact (decl.instrument_scoped ho env d r hhead).map fun f h => ⟨f, rfl, h⟩
  | .target target =>
    have htarget := Keeps.inRegion (d := d) (r := r) ho fun σ hσ =>
      target.instrument_scoped hσ env d
    rw [ForHead.recordedNames, Region.record_nil]
    exact htarget.leads.map fun f h => ⟨f, rfl, h⟩

theorem instrumentHandler_scoped {σ : ScopeStack} {rs : List Region}
    (hσ : ScopesFollow σ.toList rs) (env : Environment) (d : Nat) (handler : Option CatchClause) :
    Keeps (InScopes d σ) (instrumentHandler cx env handler)
      (handlerScoped cx FoundAs env d rs handler) := by
  match handler with
  | some ⟨some param, stmts⟩ =>
    refine .openScope (untypedNames param.boundNames ++ stmtsLexicalNames stmts) ?_
    refine (leads_recordUntyped d _ _ param).bind fun _ _ => ?_
    have hparam := Keeps.inRegion (d := d) (r := .ofCatch param stmts) hσ fun τ hτ =>
      param.instrument_scoped hτ env d
    refine hparam.leads.bind fun f hf => ?_
    have heach := instrumentEach_scoped hσ env d
      ((Region.ofCatch param stmts).record (declaredNames stmts)) stmts
      (List.subset_append_right _ _)
    exact ((statementList_scoped heach).map fun fs h => ⟨f, fs, rfl, hf, h⟩).within
  | some ⟨none, stmts⟩ =>
    have heach := instrumentEach_scoped hσ env d
      ((Region.ofBlock stmts).record (declaredNames stmts)) stmts (List.Subset.refl _)
    refine .openScope (stmtsLexicalNames stmts) ?_
    exact ((statementList_scoped heach).map fun fs h => ⟨fs, rfl, h⟩).within
  | none => exact .pure rfl

theorem instrumentFinalizer_scoped {σ : ScopeStack} {rs : List Region}
    (hσ : ScopesFollow σ.toList rs) (env : Environment) (d : Nat) (finalizer : Option (List Stmt)) :
    Keeps (InScopes d σ) (instrumentFinalizer cx env finalizer)
      (finalizerScoped cx FoundAs env d rs finalizer) := by
  match finalizer with
  | some stmts =>
    have heach := instrumentEach_scoped hσ env d
      ((Region.ofBlock stmts).record (declaredNames stmts)) stmts (List.Subset.refl _)
    exact (block_scoped cx heach).map fun fs h => ⟨fs, rfl, h⟩
  | none => exact .pure rfl

theorem instrumentCases_scoped {outer : List Scope} {rs : List Region}
    (ho : ScopesFollow outer rs) (env : Environment) (d : Nat) (r : Region) (cs : List SwitchCase)
    (hcs : cs.flatMap (fun c => stmtsLexicalNames c.consequent) ⊆ r.declared) :
    Leads (InRegion d r outer) (Within d outer) (instrumentCases cx env cs)
      (casesScoped cx FoundAs env d r rs cs) := by
  match cs with
  | [] => exact Leads.within (.pure rfl)
  | ⟨test, stmts⟩ :: cs =>
    obtain ⟨hstmts, hrest⟩ := List.append_subset.mp hcs
    have htest := Keeps.inRegion (d := d) (r := r) ho fun σ hσ =>
      instrumentOptExpr_scoped hσ env d test
    have heach := instrumentEach_scoped ho env d (r.record (declaredNames stmts)) stmts hstmts
    rw [Region.record_record] at heach
    refine htest.leads.bind fun f hf => (statementList_scoped heach).bind fun fs hfs => ?_
    exact (instrumentCases_scoped ho env d (r.record (stmtsRecordedNames d stmts)) cs hrest).map
      fun gs hgs => ⟨f, fs, gs, rfl, hf, hfs, hgs⟩

theorem instrumentEach_scoped {outer : List Scope} {rs : List Region}
    (ho : ScopesFollow outer rs) (env : Environment) (d : Nat) (r : Region) (ss : List Stmt)
    (hss : stmtsLexicalNames ss ⊆ r.declared) :
    Leads (InRegion d r outer) (InRegion d (r.record (ss.flatMap (Stmt.recordedNames d))) outer)
      (instrumentEach cx env ss) (eachScoped cx FoundAs env d r rs ss) := by
  match ss with
  | [] => exact Keeps.leadsRegion (.pure rfl)
  | s :: ss =>
    obtain ⟨hs, hrest⟩ := List.append_subset.mp hss
    rw [List.flatMap_cons, ← Region.record_record]
    refine (leads_noticing (s.instrument_scoped ho env d r hs)).bind fun v hv => ?_
    exact (instrumentEach_scoped ho env d (r.record (s.recordedNames d)) ss hrest).map
      fun vs hvs => ⟨v, vs, rfl, hv, hvs⟩

theorem instrumentAlternate_scoped {outer : List Scope} {rs : List Region}
    (ho : ScopesFollow outer rs) (env : Environment) (d : Nat) (r : Region) (s : Option Stmt) :
    (match s with | some s => s.lexicalNames | none => []) ⊆ r.declared →
    Leads (InRegion d r outer)
      (InRegion d (r.record (match s with | some s => s.recordedNames d | none => [])) outer)
      (instrumentAlternate cx env s) (alternateScoped cx FoundAs env d r rs s) := by
  intro hs
  match s, hs with
  | some s, hs =>
    exact (s.instrument_scoped ho env d r hs).map fun f h => ⟨f, rfl, h⟩
  | none, _ => exact Keeps.leadsRegion (.pure rfl)

theorem Stmt.instrument_scoped {outer : List Scope} {rs : List Region}
    (ho : ScopesFollow outer rs) (env : Environment) (d : Nat) (r : Region) (s : Stmt)
    (hs : s.lexicalNames ⊆ r.declared) :
    Leads (InRegion d r outer) (InRegion d (r.record (s.recordedNames d)) outer)
      (s.instrument cx env) (s.Scoped cx FoundAs env d r rs) := by
  unfold Stmt.recordedNames Stmt.instrument Stmt.Scoped
  refine .nestedRegion ?_
  match s, hs with
  | .expr value, _ =>
    have hvalue := Keeps.inRegion (d := d + 1) (r := r) ho fun σ hσ =>
      value.instrument_scoped hσ env (d + 1)
    exact Keeps.leadsRegion <| hvalue.map fun f h => ⟨f, rfl, h⟩
  | .varDecl decl, hs =>
    exact (decl.instrument_scoped ho env (d + 1) r hs).map fun f h => ⟨f, rfl, h⟩
  | .function func, _ =>
    have hfunc := Keeps.inRegion (d := d + 1) (r := r) ho fun σ hσ =>
      func.instrument_scoped hσ env (d + 1)
    exact Keeps.leadsRegion <| hfunc.map fun f h => ⟨f, rfl, h⟩
  | .class decl, _ =>
    have hdecl := Keeps.inRegion (d := d + 1) (r := r) ho fun σ hσ =>
      decl.instrument_scoped hσ env (d + 1)
    exact Keeps.leadsRegion <| hdecl.map fun f h => ⟨f, rfl, h⟩
  | .ret arg, _ =>
    have harg := Keeps.inRegion (d := d + 1) (r := r) ho fun σ hσ =>
      instrumentOptExpr_scoped hσ env (d + 1) arg
    exact Keeps.leadsRegion <| harg.map fun f h => ⟨f, rfl, h⟩
  | .ifElse test consequent alternate, hs =>
    rw [Stmt.lexicalNames_ifElse] at hs
    obtain ⟨hthen, helse⟩ := List.append_subset.mp hs
    have htest := Keeps.inRegion (d := d + 1) (r := r) ho fun σ hσ =>
      test.instrument_scoped hσ env (d + 1)
    rw [← Region.record_record]
    refine htest.leads.bind fun f hf =>
      (consequent.instrument_scoped ho env (d + 1) r hthen).bind fun g hg => ?_
    refine (instrumentAlternate_scoped ho env (d + 1)
      (r.record (consequent.recordedNames (d + 1))) alternate helse).map fun h hh => ?_
    exact ⟨f, g, h, rfl, hf, hg, hh⟩
  | .block stmts, _ =>
    have hblock := Keeps.inRegion (d := d + 1) (r := r) ho fun σ hσ =>
      block_scoped cx <| instrumentEach_scoped hσ env (d + 1)
        ((Region.ofBlock stmts).record (declaredNames stmts)) stmts (List.Subset.refl _)
    exact Keeps.leadsRegion <| hblock.map fun fs h => ⟨fs, rfl, h⟩
  | .throw arg, _ =>
    have harg := Keeps.inRegion (d := d + 1) (r := r) ho fun σ hσ =>
      arg.instrument_scoped hσ env (d + 1)
    exact Keeps.leadsRegion <| harg.map fun f h => ⟨f, rfl, h⟩
  | .forLoop init test update body, _ =>
    let names := (init.map ForInit.lexicalNames).getD []
    let head := (Region.ofLoop names body).record ((init.map ForInit.recordedNames).getD [])
    refine Keeps.leadsRegion <| Keeps.inRegion ho fun σ hσ =>
      Keeps.openScope (names ++ body.lexicalNames) ?_
    have htest := Keeps.inRegion (d := d + 1) (r := head) hσ fun τ hτ =>
      instrumentOptExpr_scoped hτ env (d + 1) test
    have hupdate := Keeps.inRegion (d := d + 1) (r := head) hσ fun τ hτ =>
      instrumentOptExpr_scoped hτ env (d + 1) update
    refine (instrumentForInit_scoped hσ env (d + 1) (.ofLoop names body) init
      (List.subset_append_left _ _)).bind fun f hf => ?_
    refine htest.leads.bind fun g hg => hupdate.leads.bind fun h hh => ?_
    exact ((body.instrument_scoped hσ env (d + 1) head (List.subset_append_right _ _)).map
      fun b hb => ⟨f, g, h, b, rfl, hf, hg, hh, hb⟩).within
  | .forIn left right body, _ =>
    -- what the loop runs over is visited before the scope of the head is opened
    have hright := Keeps.inRegion (d := d + 1) (r := r) ho fun σ hσ => by
      have hhead : ScopesFollow σ.toList (.fresh left.lexicalNames :: r :: rs) := .unopened rfl hσ
      exact right.instrument_scoped hhead env (d + 1)
    refine Keeps.leadsRegion <| hright.bind fun g hg => Keeps.inRegion ho fun σ hσ =>
      Keeps.openScope (left.lexicalNames ++ body.lexicalNames) ?_
    refine (left.instrument_scoped hσ env (d + 1) (.ofLoop left.lexicalNames body)
      (List.subset_append_left _ _)).bind fun f hf => ?_
    exact ((body.instrument_scoped hσ env (d + 1) _ (List.subset_append_right _ _)).map
      fun b hb => ⟨f, g, b, rfl, hg, hf, hb⟩).within
  | .forOf left right body isAwait, _ =>
    have hright := Keeps.inRegion (d := d + 1) (r := r) ho fun σ hσ => by
      have hhead : ScopesFollow σ.toList (.fresh left.lexicalNames :: r :: rs) := .unopened rfl hσ
      exact right.instrument_scoped hhead env (d + 1)
    refine Keeps.leadsRegion <| hright.bind fun g hg => Keeps.inRegion ho fun σ hσ =>
      Keeps.openScope (left.lexicalNames ++ body.lexicalNames) ?_
    refine (left.instrument_scoped hσ env (d + 1) (.ofLoop left.lexicalNames body)
      (List.subset_append_left _ _)).bind fun f hf => ?_
    exact ((body.instrument_scoped hσ env (d + 1) _ (List.subset_append_right _ _)).map
      fun b hb => ⟨f, g, b, rfl, hg, hf, hb⟩).within
  | .while test body, hs =>
    have htest := Keeps.inRegion (d := d + 1) (r := r) ho fun σ hσ =>
      test.instrument_scoped hσ env (d + 1)
    exact htest.leads.bind fun f hf => (body.instrument_scoped ho env (d + 1) r hs).map
      fun b hb => ⟨f, b, rfl, hf, hb⟩
  | .doWhile body test, hs =>
    have htest := Keeps.inRegion (d := d + 1) (r := r.record (body.recordedNames (d + 1))) ho
      fun σ hσ => test.instrument_scoped hσ env (d + 1)
    exact (body.instrument_scoped ho env (d + 1) r hs).bind fun b hb =>
      htest.leads.map fun f hf => ⟨f, b, rfl, hb, hf⟩
  | .tryCatch stmts handler finalizer, _ =>
    have hblock := Keeps.inRegion (d := d + 1) (r := r) ho fun σ hσ =>
      block_scoped cx <| instrumentEach_scoped hσ env (d + 1)
        ((Region.ofBlock stmts).record (declaredNames stmts)) stmts (List.Subset.refl _)
    have hhandler := Keeps.inRegion (d := d + 1) (r := r) ho fun σ hσ =>
      instrumentHandler_scoped hσ env (d + 1) handler
    have hfinalizer := Keeps.inRegion (d := d + 1) (r := r) ho fun σ hσ =>
      instrumentFinalizer_scoped hσ env (d + 1) finalizer
    exact Keeps.leadsRegion <| hblock.bind fun fs hfs => hhandler.bind fun f hf =>
      hfinalizer.map fun g hg => ⟨fs, f, g, rfl, hfs, hf, hg⟩
  | .switch discriminant cases, _ =>
    have hdiscriminant := Keeps.inRegion (d := d + 1) (r := r) ho fun σ hσ =>
      discriminant.instrument_scoped hσ env (d + 1)
    have hcases := Keeps.inRegion (d := d + 1) (r := r) ho fun σ hσ =>
      Keeps.openScope _ <| instrumentCases_scoped hσ env (d + 1) (.ofCases cases) cases
        (List.Subset.refl _)
    exact Keeps.leadsRegion <| hdiscriminant.bind fun f hf =>
      hcases.map fun gs hgs => ⟨f, gs, rfl, hf, hgs⟩
  | .labeled label body, hs =>
    exact (body.instrument_scoped ho env (d + 1) r hs).map fun b hb => ⟨b, rfl, hb⟩
  | .break _, _ | .continue _, _ | .empty, _ => exact Keeps.leadsRegion (.pure rfl)
  | .typeAlias decl, _ =>
    refine Keeps.leadsRegion <|
      (Setting.declareAlias_constant (ofScopes_atScopes _ _) env decl).map fun out h => ?_
    obtain ⟨check, rfl⟩ := h
    exact ⟨check, rfl⟩
  | .interface decl, _ =>
    refine Keeps.leadsRegion <|
      (Setting.declareInterface_constant (ofScopes_atScopes _ _) env decl).map fun out h => ?_
    obtain ⟨check, rfl⟩ := h
    exact ⟨check, rfl⟩
  | .import decl, _ => exact Keeps.leadsRegion (.pure rfl)
  | .export (some declaration) specifiers source kind, hs =>
    refine (declaration.instrument_scoped ho env (d + 1) r hs).bind fun f hf => ?_
    cases f with
    | some f => exact .pure ⟨some f, rfl, hf⟩
    | none => exact .pure ⟨none, rfl, hf⟩
  | .export none specifiers source kind, _ => exact Keeps.leadsRegion (.pure rfl)
  | .exportDefault value, _ =>
    have hvalue := Keeps.inRegion (d := d + 1) (r := r) ho fun σ hσ =>
      value.instrument_scoped hσ env (d + 1)
    exact Keeps.leadsRegion <| hvalue.map fun f h => ⟨f, rfl, h⟩
end

end TypeGuard
