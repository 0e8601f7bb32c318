import TypeGuard.Proofs.Agreement.Check

/-!
# Visited trees in their frames

Every visited tree relates to the tree as it was, with the checks of declarations and reassignments
lowered in the environments of their frames. The induction follows the visit, as that of
`Expr.instrument_scoped` does, from which it takes the names that a visited pattern binds. What it
assumes of an expression is that the open scopes follow the frames around it, and of a statement
that the outer scopes do and that the frame of its list declares its names.
-/

namespace TypeGuard

open Visit Instrumentation

variable (cx : Setting)

mutual
theorem Expr.instrument_agrees {σ : ScopeStack} {F : Frame} {Γ : List Frame}
    (hσ : FramesFollow σ.toList F Γ) (d : Nat) (e : Expr) :
    Keeps (InScopes d σ) (e.instrument cx F.env) (e.Agrees cx d F Γ) := by
  unfold Expr.instrument Expr.Agrees
  refine .nestedScopes ?_
  match e with
  | .ident _ | .this | .super | .null | .bool _ | .num _ | .str _ | .regex _ _ => exact .pure rfl
  | .template quasis exprs =>
    exact (instrumentExprs_agree hσ (d + 1) exprs).map fun fs h => ⟨fs, rfl, h⟩
  | .taggedTemplate tag quasis exprs =>
    exact (tag.instrument_agrees hσ (d + 1)).bind fun f htag =>
      (instrumentExprs_agree hσ (d + 1) exprs).map fun fs h => ⟨f, fs, rfl, htag, h⟩
  | .array elems =>
    exact (instrumentElems_agree hσ (d + 1) elems).map fun fs h => ⟨fs, rfl, h⟩
  | .object props =>
    exact (instrumentProps_agree hσ (d + 1) props).map fun fs h => ⟨fs, rfl, h⟩
  | .function func =>
    -- nothing is ever recorded for the own name of a function or class expression
    have hown : FramesFollow σ.toList (F.inner (.ownName func.id)) (F :: Γ) := hσ.unopened_inner rfl
    exact (func.instrument_agrees hown (d + 1)).map fun f h => ⟨f, rfl, h⟩
  | .class decl =>
    have hown : FramesFollow σ.toList (F.inner (.ownName decl.id)) (F :: Γ) := hσ.unopened_inner rfl
    exact (decl.instrument_agrees hown (d + 1)).map fun f h => ⟨f, rfl, h⟩
  | .member obj name =>
    exact (obj.instrument_agrees hσ (d + 1)).map fun f h => ⟨f, rfl, h⟩
  | .index obj key =>
    exact (obj.instrument_agrees hσ (d + 1)).bind fun f hobj =>
      (key.instrument_agrees hσ (d + 1)).map fun g hkey => ⟨f, g, rfl, hobj, hkey⟩
  | .call callee args =>
    exact (callee.instrument_agrees hσ (d + 1)).bind fun f hcallee =>
      (instrumentExprs_agree hσ (d + 1) args).map fun fs h => ⟨f, fs, rfl, hcallee, h⟩
  | .new callee args =>
    exact (callee.instrument_agrees hσ (d + 1)).bind fun f hcallee =>
      (instrumentExprs_agree hσ (d + 1) args).map fun fs h => ⟨f, fs, rfl, hcallee, h⟩
  | .unary op arg =>
    exact (arg.instrument_agrees hσ (d + 1)).map fun f h => ⟨f, rfl, h⟩
  | .update op isPrefix arg =>
    exact (arg.instrument_agrees hσ (d + 1)).map fun f h => ⟨f, rfl, h⟩
  | .binary op left right =>
    exact (left.instrument_agrees hσ (d + 1)).bind fun f hleft =>
      (right.instrument_agrees hσ (d + 1)).map fun g hright => ⟨f, g, rfl, hleft, hright⟩
  | .conditional test consequent alternate =>
    exact (test.instrument_agrees hσ (d + 1)).bind fun f htest =>
      (consequent.instrument_agrees hσ (d + 1)).bind fun g hthen =>
        (alternate.instrument_agrees hσ (d + 1)).map fun h helse =>
          ⟨f, g, h, rfl, htest, hthen, helse⟩
  | .assign op target value span =>
    have htarget := ((target.instrument_agrees hσ (d + 1)).leads.and
      (target.instrument_scoped cx hσ.follow F.env (d + 1)).leads).keeps
    refine (value.instrument_agrees hσ (d + 1)).bind fun f hvalue => htarget.bind fun t ht => ?_
    exact (Setting.checkAssigned_agrees hσ span op f ht.2).map fun checked hchecked =>
      ⟨t, f, checked, rfl, ht.1, hvalue, hchecked⟩
  | .seq exprs =>
    exact (instrumentExprs_agree hσ (d + 1) exprs).map fun fs h => ⟨fs, rfl, h⟩
  | .spread arg =>
    exact (arg.instrument_agrees hσ (d + 1)).map fun f h => ⟨f, rfl, h⟩
  | .await arg =>
    exact (arg.instrument_agrees hσ (d + 1)).map fun f h => ⟨f, rfl, h⟩
  | .yield arg delegate =>
    exact (instrumentOptExpr_agrees hσ (d + 1) arg).map fun f h => ⟨f, rfl, h⟩
  | .paren inner =>
    exact (inner.instrument_agrees hσ (d + 1)).map fun f h => ⟨f, rfl, h⟩
  | .cast inner type optional span =>
    refine (Setting.keeps_reified? F.env span type).bind fun target? _ => ?_
    cases target? with
    | some target => exact .pure (.inl ⟨target, rfl⟩)
    | none =>
      refine (inner.instrument_agrees hσ (d + 1)).bind fun f hinner => ?_
      split
      · exact .pure (.inr ⟨f, hinner, .inl rfl⟩)
      · exact (Setting.checkValue_checked (ofScopes_atScopes _ _).noteAsserts F.env span f type
          optional inner.label).weaken fun out hout => .inr ⟨f, hinner, .inr hout⟩

theorem instrumentExprs_agree {σ : ScopeStack} {F : Frame} {Γ : List Frame}
    (hσ : FramesFollow σ.toList F Γ) (d : Nat) (es : List Expr) :
    Keeps (InScopes d σ) (instrumentExprs cx F.env es) (exprsAgree cx d F Γ es) := by
  match es with
  | [] => exact .pure rfl
  | e :: es =>
    exact (e.instrument_agrees hσ d).bind fun f he =>
      (instrumentExprs_agree hσ d es).map fun fs hes => ⟨f, fs, rfl, he, hes⟩

theorem instrumentOptExpr_agrees {σ : ScopeStack} {F : Frame} {Γ : List Frame}
    (hσ : FramesFollow σ.toList F Γ) (d : Nat) (e : Option Expr) :
    Keeps (InScopes d σ) (instrumentOptExpr cx F.env e) (optExprAgrees cx d F Γ e) := by
  match e with
  | some e => exact (e.instrument_agrees hσ d).map fun f h => ⟨f, rfl, h⟩
  | none => exact .pure rfl

theorem instrumentElems_agree {σ : ScopeStack} {F : Frame} {Γ : List Frame}
    (hσ : FramesFollow σ.toList F Γ) (d : Nat) (es : List (Option Expr)) :
    Keeps (InScopes d σ) (instrumentElems cx F.env es) (elemsAgree cx d F Γ es) := by
  match es with
  | [] => exact .pure rfl
  | some e :: es =>
    exact (e.instrument_agrees hσ d).bind fun f he =>
      (instrumentElems_agree hσ d es).map fun fs hes => ⟨f, fs, rfl, he, hes⟩
  | none :: es =>
    exact (instrumentElems_agree hσ d es).map fun fs h => ⟨fs, rfl, h⟩

theorem PropKey.instrument_agrees {σ : ScopeStack} {F : Frame} {Γ : List Frame}
    (hσ : FramesFollow σ.toList F Γ) (d : Nat) (key : PropKey) :
    Keeps (InScopes d σ) (key.instrument cx F.env) (key.Agrees cx d F Γ) := by
  match key with
  | .computed e => exact (e.instrument_agrees hσ d).map fun f h => ⟨f, rfl, h⟩
  | .ident _ | .str _ | .num _ => exact .pure rfl

theorem ObjectProp.instrument_agrees {σ : ScopeStack} {F : Frame} {Γ : List Frame}
    (hσ : FramesFollow σ.toList F Γ) (d : Nat) (p : ObjectProp) :
    Keeps (InScopes d σ) (p.instrument cx F.env) (p.Agrees cx d F Γ) := by
  match p with
  | .keyValue key value shorthand =>
    exact (key.instrument_agrees hσ d).bind fun f hkey =>
      (value.instrument_agrees hσ d).map fun g hvalue => ⟨f, g, rfl, hkey, hvalue⟩
  | .method key func =>
    exact (key.instrument_agrees hσ d).bind fun f hkey =>
      (func.instrument_agrees hσ d).map fun g hfunc => ⟨f, g, rfl, hkey, hfunc⟩
  | .spread arg => exact (arg.instrument_agrees hσ d).map fun f h => ⟨f, rfl, h⟩

theorem instrumentProps_agree {σ : ScopeStack} {F : Frame} {Γ : List Frame}
    (hσ : FramesFollow σ.toList F Γ) (d : Nat) (ps : List ObjectProp) :
    Keeps (InScopes d σ) (instrumentProps cx F.env ps)
      (objectPropsAgree cx d F Γ ps) := by
  match ps with
  | [] => exact .pure rfl
  | p :: ps =>
    exact (p.instrument_agrees hσ d).bind fun f hp =>
      (instrumentProps_agree hσ d ps).map fun fs hps => ⟨f, fs, rfl, hp, hps⟩

theorem AssignTarget.instrument_agrees {σ : ScopeStack} {F : Frame} {Γ : List Frame}
    (hσ : FramesFollow σ.toList F Γ) (d : Nat) (target : AssignTarget) :
    Keeps (InScopes d σ) (target.instrument cx F.env) (target.Agrees cx d F Γ) := by
  match target with
  | .pattern p => exact (p.instrument_agrees hσ d).map fun f h => ⟨f, rfl, h⟩
  | .expr e => exact (e.instrument_agrees hσ d).map fun f h => ⟨f, rfl, h⟩

theorem Pattern.instrument_agrees {σ : ScopeStack} {F : Frame} {Γ : List Frame}
    (hσ : FramesFollow σ.toList F Γ) (d : Nat) (p : Pattern) :
    Keeps (InScopes d σ) (p.instrument cx F.env) (p.Agrees cx d F Γ) := by
  match p with
  | .ident _ => exact .pure rfl
  | .object props =>
    exact (instrumentPatternProps_agree hσ d props).map fun fs h => ⟨fs, rfl, h⟩
  | .array elems =>
    exact (instrumentPatterns_agree hσ d elems).map fun fs h => ⟨fs, rfl, h⟩
  | .default left right =>
    exact (left.instrument_agrees hσ d).bind fun f hleft =>
      (right.instrument_agrees hσ d).map fun g hright => ⟨f, g, rfl, hleft, hright⟩
  | .rest inner => exact (inner.instrument_agrees hσ d).map fun f h => ⟨f, rfl, h⟩

theorem PatternProp.instrument_agrees {σ : ScopeStack} {F : Frame} {Γ : List Frame}
    (hσ : FramesFollow σ.toList F Γ) (d : Nat) (p : PatternProp) :
    Keeps (InScopes d σ) (p.instrument cx F.env) (p.Agrees cx d F Γ) := by
  match p with
  | .keyValue key value shorthand =>
    exact (key.instrument_agrees hσ d).bind fun f hkey =>
      (value.instrument_agrees hσ d).map fun g hvalue => ⟨f, g, rfl, hkey, hvalue⟩
  | .rest inner => exact (inner.instrument_agrees hσ d).map fun f h => ⟨f, rfl, h⟩

theorem instrumentPatternProps_agree {σ : ScopeStack} {F : Frame} {Γ : List Frame}
    (hσ : FramesFollow σ.toList F Γ) (d : Nat) (ps : List PatternProp) :
    Keeps (InScopes d σ) (instrumentPatternProps cx F.env ps)
      (patternPropsAgree cx d F Γ ps) := by
  match ps with
  | [] => exact .pure rfl
  | p :: ps =>
    exact (p.instrument_agrees hσ d).bind fun f hp =>
      (instrumentPatternProps_agree hσ d ps).map fun fs hps => ⟨f, fs, rfl, hp, hps⟩

theorem instrumentPatterns_agree {σ : ScopeStack} {F : Frame} {Γ : List Frame}
    (hσ : FramesFollow σ.toList F Γ) (d : Nat) (ps : List (Option Pattern)) :
    Keeps (InScopes d σ) (instrumentPatterns cx F.env ps)
      (patternsAgree cx d F Γ ps) := by
  match ps with
  | [] => exact .pure rfl
  | some p :: ps =>
    exact (p.instrument_agrees hσ d).bind fun f hp =>
      (instrumentPatterns_agree hσ d ps).map fun fs hps => ⟨f, fs, rfl, hp, hps⟩
  | none :: ps =>
    exact (instrumentPatterns_agree hσ d ps).map fun fs h => ⟨fs, rfl, h⟩

theorem instrumentParams_agree {outer : List Scope} {F : Frame} {Γ : List Frame}
    (ho : FramesAround outer F Γ) (d : Nat) (span : Span)
    (ps : List Param) :
    Leads (InRegion d F.region outer) (InRegion d (F.region.record (paramNames ps)) outer)
      (instrumentParams cx F.env span ps) fun out => paramsAgree cx d F Γ ps out.1 := by
  match ps with
  | [] =>
    rw [show paramNames [] = [] from rfl, Region.record_nil]
    exact .pure rfl
  | ⟨pattern, type, optional⟩ :: ps =>
    rw [show paramNames (⟨pattern, type, optional⟩ :: ps) = pattern.boundNames ++ paramNames ps
      from rfl, ← Region.record_record]
    refine (leads_recordUntyped d F.region outer pattern).bind fun _ _ => ?_
    have hpattern := Keeps.inFrame (d := d) (ho.record pattern.boundNames) fun σ hσ =>
      pattern.instrument_agrees hσ d
    refine hpattern.leads.bind fun f hf => ?_
    refine (Setting.checkParam_checked (ofScopes_atScopes d _).noteAsserts F.env span _).leads.bind
      fun checks _ => ?_
    exact (instrumentParams_agree (ho.record pattern.boundNames) d span ps).map fun rest hps =>
      ⟨f, rest.1, rfl, hf, hps⟩

theorem FunctionBody.instrument_agrees {outer : List Scope} {F : Frame} {Γ : List Frame}
    (ho : FramesAround outer F Γ) (d : Nat) (body : FunctionBody)
    (hbody : body.bodyNames ⊆ F.region.declared) :
    Leads (InRegion d F.region outer) (Within d outer) (body.instrument cx F.env)
      (body.Agrees cx d F Γ) := by
  match body with
  | .block stmts =>
    have hnames : stmtsLexicalNames stmts ⊆ F.region.declared := fun x hx =>
      hbody (List.mem_append_right _ hx)
    refine (leads_recordNames d F.region outer _).bind fun _ _ => ?_
    have heach := instrumentEach_agree (ho.record (varNames stmts ++ declaredNames stmts)) d stmts
      hnames
    simp only [Frame.record] at heach
    rw [← Region.record_record] at heach
    refine ((statementList_scoped heach).map fun fs h => ?_).within
    rw [Region.record_record] at h
    exact ⟨fs, rfl, h⟩
  | .expr value =>
    have hvalue := Keeps.inFrame (d := d) ho fun σ hσ => value.instrument_agrees hσ d
    exact (hvalue.leads.map fun f h => ⟨f, rfl, h⟩).within

theorem Function.instrument_agrees {σ : ScopeStack} {F : Frame} {Γ : List Frame}
    (hσ : FramesFollow σ.toList F Γ) (d : Nat) (func : Function) :
    Keeps (InScopes d σ) (func.instrument cx F.env) (func.Agrees cx d F Γ) := by
  match func with
  | ⟨id, params, body, returnType, typeParams, isAsync, isArrow, isGenerator, span⟩ =>
    refine .openScope (untypedNames (paramNames params)) ?_
    have hparams := hσ.around_generic (.ofParams params) typeParams
    have hbody := hσ.around_generic (.ofBody params body) typeParams
    refine (instrumentParams_agree hparams d span params).bind fun visited hvisited => ?_
    -- the body is visited in the scope of the parameters, which fits the region of the body as well
    have hfirst : Leads (InRegion d ((Region.ofParams params).record (paramNames params)) σ.toList)
        (Within d σ.toList) _ _ :=
      (body.instrument_agrees hbody d (List.subset_append_right _ _)).consequence
        (fun s hs => ⟨hs.1, hs.2.weaken (List.Subset.refl _) (List.subset_append_left _ _)⟩)
        (fun _ h => h) fun _ h => h
    refine hfirst.bind fun f hf => ?_
    refine (Setting.returnCheck_isSome _ span isAsync isGenerator returnType).leads.bind
      fun check _ => ?_
    exact (Setting.checkedBody_checked (ofScopes_atScopes d _).noteAsserts isArrow isAsync visited.2
      check f).leads.map fun out hout => ⟨visited.2, f, check, hvisited, hf, hout⟩

theorem ClassMember.instrument_agrees {σ : ScopeStack} {F : Frame} {Γ : List Frame}
    (hσ : FramesFollow σ.toList F Γ) (d : Nat) (m : ClassMember) :
    Keeps (InScopes d σ) (m.instrument cx F.env) (m.Agrees cx d F Γ) := by
  match m with
  | .method key kind isStatic func =>
    exact (key.instrument_agrees hσ d).bind fun f hkey =>
      (func.instrument_agrees hσ d).map fun g hfunc => ⟨f, g, rfl, hkey, hfunc⟩
  | .property key type value isStatic =>
    exact (key.instrument_agrees hσ d).bind fun f hkey =>
      (instrumentOptExpr_agrees hσ d value).map fun g hvalue => ⟨f, g, rfl, hkey, hvalue⟩

theorem instrumentMembers_agree {σ : ScopeStack} {F : Frame} {Γ : List Frame}
    (hσ : FramesFollow σ.toList F Γ) (d : Nat) (ms : List ClassMember) :
    Keeps (InScopes d σ) (instrumentMembers cx F.env ms) (membersAgree cx d F Γ ms) := by
  match ms with
  | [] => exact .pure rfl
  | m :: ms =>
    exact (m.instrument_agrees hσ d).bind fun f hm =>
      (instrumentMembers_agree hσ d ms).map fun fs hms => ⟨f, fs, rfl, hm, hms⟩

theorem Class.instrument_agrees {σ : ScopeStack} {F : Frame} {Γ : List Frame}
    (hσ : FramesFollow σ.toList F Γ) (d : Nat) (decl : Class) :
    Keeps (InScopes d σ) (decl.instrument cx F.env) (decl.Agrees cx d F Γ) := by
  match decl with
  | ⟨id, superClass, typeParams, body, span⟩ =>
    have hmembers := hσ.unopened_generic (r := .fresh []) rfl typeParams
    exact (instrumentOptExpr_agrees hmembers d superClass).bind fun f hsuper =>
      (instrumentMembers_agree hmembers d body).map fun fs hbody => ⟨f, fs, rfl, hsuper, hbody⟩

theorem instrumentDeclarators_agree {outer : List Scope} {F : Frame} {Γ : List Frame}
    (ho : FramesAround outer F Γ) (d : Nat) (kind : VarKind)
    (declSpan : Span) (ds : List Declarator)
    (hds : kind ≠ .var → ds.flatMap Declarator.typedNames ⊆ F.region.declared) :
    Leads (InRegion d F.region outer)
      (InRegion d (F.region.record (ds.flatMap fun x => x.id.boundNames)) outer)
      (instrumentDeclarators cx F.env kind declSpan ds)
      (declaratorsAgree cx d kind F Γ ds) := by
  match ds with
  | [] =>
    rw [List.flatMap_nil, Region.record_nil]
    exact .pure rfl
  | ⟨id, type, init, span⟩ :: ds =>
    have hinit := Keeps.inFrame (d := d) ho fun σ hσ =>
      instrumentOptExpr_agrees hσ d init
    have hid := (Keeps.inFrame (d := d) ho fun σ hσ => id.instrument_agrees hσ d).leads.and
      (Keeps.inRegion ho.follow fun σ hσ => id.instrument_scoped cx hσ F.env d).leads
    refine hinit.leads.bind fun g hg => hid.bind fun f hf => ?_
    have hfirst : kind ≠ .var → Declarator.typedNames ⟨id, type, init, span⟩ ⊆ F.region.declared :=
      fun hkind => (List.append_subset.mp (hds hkind)).1
    have hrest : kind ≠ .var → ds.flatMap Declarator.typedNames ⊆ F.region.declared :=
      fun hkind => (List.append_subset.mp (hds hkind)).2
    rw [List.flatMap_cons, ← Region.record_record]
    refine (Setting.checkDeclared_agrees kind _ ⟨id, type, init, span⟩ id.label g hf.2
      hfirst).bind fun checked hchecked => ?_
    exact (instrumentDeclarators_agree (ho.record id.boundNames) d kind declSpan ds hrest).map
      fun fs hfs => ⟨f, g, checked, fs, rfl, hf.1, hg, hchecked, hfs⟩

theorem VarDecl.instrument_agrees {outer : List Scope} {F : Frame} {Γ : List Frame}
    (ho : FramesAround outer F Γ) (d : Nat) (decl : VarDecl)
    (hdecl : decl.lexicalNames ⊆ F.region.declared) :
    Leads (InRegion d F.region outer) (InRegion d (F.region.record decl.boundNames) outer)
      (decl.instrument cx F.env) (decl.Agrees cx d F Γ) := by
  match decl with
  | ⟨kind, declarators, span⟩ =>
    have hds : kind ≠ .var → declarators.flatMap Declarator.typedNames ⊆ F.region.declared := by
      intro hkind
      rw [VarDecl.lexicalNames, if_neg hkind] at hdecl
      exact hdecl
    exact (instrumentDeclarators_agree ho d kind span declarators hds).map
      fun fs h => ⟨fs, rfl, h⟩

theorem ForInit.instrument_agrees {outer : List Scope} {F : Frame} {Γ : List Frame}
    (ho : FramesAround outer F Γ) (d : Nat) (i : ForInit)
    (hi : i.lexicalNames ⊆ F.region.declared) :
    Leads (InRegion d F.region outer) (InRegion d (F.region.record i.recordedNames) outer)
      (i.instrument cx F.env) (i.Agrees cx d F Γ) := by
  match i with
  | .varDecl decl => exact (decl.instrument_agrees ho d hi).map fun f h => ⟨f, rfl, h⟩
  | .expr value =>
    have hvalue := Keeps.inFrame (d := d) ho fun σ hσ => value.instrument_agrees hσ d
    rw [ForInit.recordedNames, Region.record_nil]
    exact hvalue.leads.map fun f h => ⟨f, rfl, h⟩

theorem instrumentForInit_agrees {outer : List Scope} {F : Frame} {Γ : List Frame}
    (ho : FramesAround outer F Γ) (d : Nat) (i : Option ForInit)
    (hi : (i.map ForInit.lexicalNames).getD [] ⊆ F.region.declared) :
    Leads (InRegion d F.region outer)
      (InRegion d (F.region.record ((i.map ForInit.recordedNames).getD [])) outer)
      (instrumentForInit cx F.env i) (optForInitAgrees cx d F Γ i) := by
  match i with
  | some i => exact (i.instrument_agrees ho d hi).map fun f h => ⟨f, rfl, h⟩
  | none =>
    rw [Option.map_none, Option.getD_none, Region.record_nil]
    exact .pure rfl

theorem ForHead.instrument_agrees {outer : List Scope} {F : Frame} {Γ : List Frame}
    (ho : FramesAround outer F Γ) (d : Nat) (head : ForHead)
    (hhead : head.lexicalNames ⊆ F.region.declared) :
    Leads (InRegion d F.region outer) (InRegion d (F.region.record head.recordedNames) outer)
      (head.instrument cx F.env) (head.Agrees cx d F Γ) := by
  match head with
  | .varDecl decl => exact (decl.instrument_agrees ho d hhead).map fun f h => ⟨f, rfl, h⟩
  | .target target =>
    have htarget := Keeps.inFrame (d := d) ho fun σ hσ =>
      target.instrument_agrees hσ d
    rw [ForHead.recordedNames, Region.record_nil]
    exact htarget.leads.map fun f h => ⟨f, rfl, h⟩

theorem instrumentHandler_agrees {σ : ScopeStack} {F : Frame} {Γ : List Frame}
    (hσ : FramesFollow σ.toList F Γ) (d : Nat) (handler : Option CatchClause) :
    Keeps (InScopes d σ) (instrumentHandler cx F.env handler)
      (handlerAgrees cx d F Γ handler) := by
  match handler with
  | some ⟨some param, stmts⟩ =>
    refine .openScope (untypedNames param.boundNames ++ stmtsLexicalNames stmts) ?_
    refine (leads_recordUntyped d _ _ param).bind fun _ _ => ?_
    have hcatch := hσ.around_inner (.ofCatch param stmts)
    have hparam := Keeps.inFrame (d := d) hcatch fun τ hτ => param.instrument_agrees hτ d
    refine hparam.leads.bind fun f hf => ?_
    have heach := instrumentEach_agree (hcatch.record (declaredNames stmts)) d stmts
      (List.subset_append_right _ _)
    exact ((statementList_scoped heach).map fun fs h => ⟨f, fs, rfl, hf, h⟩).within
  | some ⟨none, stmts⟩ =>
    have hblock := hσ.around_inner (.ofBlock stmts)
    have heach := instrumentEach_agree (hblock.record (declaredNames stmts)) d stmts
      (List.Subset.refl _)
    refine .openScope (stmtsLexicalNames stmts) ?_
    exact ((statementList_scoped heach).map fun fs h => ⟨fs, rfl, h⟩).within
  | none => exact .pure rfl

theorem instrumentFinalizer_agrees {σ : ScopeStack} {F : Frame} {Γ : List Frame}
    (hσ : FramesFollow σ.toList F Γ) (d : Nat) (finalizer : Option (List Stmt)) :
    Keeps (InScopes d σ) (instrumentFinalizer cx F.env finalizer)
      (finalizerAgrees cx d F Γ finalizer) := by
  match finalizer with
  | some stmts =>
    have hblock := hσ.around_inner (.ofBlock stmts)
    have heach := instrumentEach_agree (hblock.record (declaredNames stmts)) d stmts
      (List.Subset.refl _)
    exact (block_scoped cx heach).map fun fs h => ⟨fs, rfl, h⟩
  | none => exact .pure rfl

theorem instrumentCases_agree {outer : List Scope} {F : Frame} {Γ : List Frame}
    (ho : FramesAround outer F Γ) (d : Nat) (cs : List SwitchCase)
    (hcs : cs.flatMap (fun c => stmtsLexicalNames c.consequent) ⊆ F.region.declared) :
    Leads (InRegion d F.region outer) (Within d outer) (instrumentCases cx F.env cs)
      (casesAgree cx d F Γ cs) := by
  match cs with
  | [] => exact Leads.within (.pure rfl)
  | ⟨test, stmts⟩ :: cs =>
    obtain ⟨hstmts, hrest⟩ := List.append_subset.mp hcs
    have htest := Keeps.inFrame (d := d) ho fun σ hσ =>
      instrumentOptExpr_agrees hσ d test
    have heach := instrumentEach_agree (ho.record (declaredNames stmts)) d stmts hstmts
    simp only [Frame.record] at heach
    rw [Region.record_record] at heach
    refine htest.leads.bind fun f hf => (statementList_scoped heach).bind fun fs hfs => ?_
    exact (instrumentCases_agree (ho.record (stmtsRecordedNames d stmts)) d cs hrest).map
      fun gs hgs => ⟨f, fs, gs, rfl, hf, hfs, hgs⟩

theorem instrumentEach_agree {outer : List Scope} {F : Frame} {Γ : List Frame}
    (ho : FramesAround outer F Γ) (d : Nat) (ss : List Stmt)
    (hss : stmtsLexicalNames ss ⊆ F.region.declared) :
    Leads (InRegion d F.region outer)
      (InRegion d (F.region.record (ss.flatMap (Stmt.recordedNames d))) outer)
      (instrumentEach cx F.env ss) (eachAgree cx d F Γ ss) := by
  match ss with
  | [] => exact Keeps.leadsRegion (.pure rfl)
  | s :: ss =>
    obtain ⟨hs, hrest⟩ := List.append_subset.mp hss
    rw [List.flatMap_cons, ← Region.record_record]
    refine (leads_noticing (s.instrument_agrees ho d hs)).bind fun v hv => ?_
    exact (instrumentEach_agree (ho.record (s.recordedNames d)) d ss hrest).map
      fun vs hvs => ⟨v, vs, rfl, hv, hvs⟩

theorem instrumentAlternate_agrees {outer : List Scope} {F : Frame} {Γ : List Frame}
    (ho : FramesAround outer F Γ) (d : Nat) (s : Option Stmt) :
    (match s with | some s => s.lexicalNames | none => []) ⊆ F.region.declared →
    Leads (InRegion d F.region outer)
      (InRegion d (F.region.record (match s with | some s => s.recordedNames d | none => [])) outer)
      (instrumentAlternate cx F.env s) (alternateAgrees cx d F Γ s) := by
  intro hs
  match s, hs with
  | some s, hs =>
    exact (s.instrument_agrees ho d hs).map fun f h => ⟨f, rfl, h⟩
  | none, _ => exact Keeps.leadsRegion (.pure rfl)

theorem Stmt.instrument_agrees {outer : List Scope} {F : Frame} {Γ : List Frame}
    (ho : FramesAround outer F Γ) (d : Nat) (s : Stmt)
    (hs : s.lexicalNames ⊆ F.region.declared) :
    Leads (InRegion d F.region outer) (InRegion d (F.region.record (s.recordedNames d)) outer)
      (s.instrument cx F.env) (s.Agrees cx d F Γ) := by
  unfold Stmt.recordedNames Stmt.instrument Stmt.Agrees
  refine .nestedRegion ?_
  match s, hs with
  | .expr value, _ =>
    have hvalue := Keeps.inFrame (d := d + 1) ho fun σ hσ =>
      value.instrument_agrees hσ (d + 1)
    exact Keeps.leadsRegion <| hvalue.map fun f h => ⟨f, rfl, h⟩
  | .varDecl decl, hs =>
    exact (decl.instrument_agrees ho (d + 1) hs).map fun f h => ⟨f, rfl, h⟩
  | .function func, _ =>
    have hfunc := Keeps.inFrame (d := d + 1) ho fun σ hσ =>
      func.instrument_agrees hσ (d + 1)
    exact Keeps.leadsRegion <| hfunc.map fun f h => ⟨f, rfl, h⟩
  | .class decl, _ =>
    have hdecl := Keeps.inFrame (d := d + 1) ho fun σ hσ =>
      decl.instrument_agrees hσ (d + 1)
    exact Keeps.leadsRegion <| hdecl.map fun f h => ⟨f, rfl, h⟩
  | .ret arg, _ =>
    have harg := Keeps.inFrame (d := d + 1) ho fun σ hσ =>
      instrumentOptExpr_agrees hσ (d + 1) arg
    exact Keeps.leadsRegion <| harg.map fun f h => ⟨f, rfl, h⟩
  | .ifElse test consequent alternate, hs =>
    rw [Stmt.lexicalNames_ifElse] at hs
    obtain ⟨hthen, helse⟩ := List.append_subset.mp hs
    have htest := Keeps.inFrame (d := d + 1) ho fun σ hσ =>
      test.instrument_agrees hσ (d + 1)
    rw [← Region.record_record]
    refine htest.leads.bind fun f hf =>
      (consequent.instrument_agrees ho (d + 1) hthen).bind fun g hg => ?_
    refine (instrumentAlternate_agrees (ho.record (consequent.recordedNames (d + 1))) (d + 1)
      alternate helse).map fun h hh => ?_
    exact ⟨f, g, h, rfl, hf, hg, hh⟩
  | .block stmts, _ =>
    have hblock := Keeps.inFrame (d := d + 1) ho fun σ hσ =>
      block_scoped cx <| instrumentEach_agree
        ((hσ.around_inner (.ofBlock stmts)).record (declaredNames stmts)) (d + 1) stmts
        (List.Subset.refl _)
    exact Keeps.leadsRegion <| hblock.map fun fs h => ⟨fs, rfl, h⟩
  | .throw arg, _ =>
    have harg := Keeps.inFrame (d := d + 1) ho fun σ hσ =>
      arg.instrument_agrees hσ (d + 1)
    exact Keeps.leadsRegion <| harg.map fun f h => ⟨f, rfl, h⟩
  | .forLoop init test update body, _ =>
    let names := (init.map ForInit.lexicalNames).getD []
    let recorded := (init.map ForInit.recordedNames).getD []
    refine Keeps.leadsRegion <| Keeps.inFrame ho fun σ hσ =>
      Keeps.openScope (names ++ body.lexicalNames) ?_
    have hhead := hσ.around_inner (.ofLoop names body)
    have htest := Keeps.inFrame (d := d + 1) (hhead.record recorded) fun τ hτ =>
      instrumentOptExpr_agrees hτ (d + 1) test
    have hupdate := Keeps.inFrame (d := d + 1) (hhead.record recorded) fun τ hτ =>
      instrumentOptExpr_agrees hτ (d + 1) update
    refine (instrumentForInit_agrees hhead (d + 1) init (List.subset_append_left _ _)).bind
      fun f hf => ?_
    refine htest.leads.bind fun g hg => hupdate.leads.bind fun h hh => ?_
    exact ((body.instrument_agrees (hhead.record recorded) (d + 1)
      (List.subset_append_right _ _)).map fun b hb => ⟨f, g, h, b, rfl, hf, hg, hh, hb⟩).within
  | .forIn left right body, _ =>
    -- what the loop runs over is visited before the scope of the head is opened
    have hright := Keeps.inFrame (d := d + 1) ho fun σ hσ =>
      right.instrument_agrees (hσ.unopened_inner (r := .fresh left.lexicalNames) rfl) (d + 1)
    refine Keeps.leadsRegion <| hright.bind fun g hg => Keeps.inFrame ho fun σ hσ =>
      Keeps.openScope (left.lexicalNames ++ body.lexicalNames) ?_
    have hhead := hσ.around_inner (.ofLoop left.lexicalNames body)
    refine (left.instrument_agrees hhead (d + 1) (List.subset_append_left _ _)).bind fun f hf => ?_
    exact ((body.instrument_agrees (hhead.record left.recordedNames) (d + 1)
      (List.subset_append_right _ _)).map fun b hb => ⟨f, g, b, rfl, hg, hf, hb⟩).within
  | .forOf left right body isAwait, _ =>
    have hright := Keeps.inFrame (d := d + 1) ho fun σ hσ =>
      right.instrument_agrees (hσ.unopened_inner (r := .fresh left.lexicalNames) rfl) (d + 1)
    refine Keeps.leadsRegion <| hright.bind fun g hg => Keeps.inFrame ho fun σ hσ =>
      Keeps.openScope (left.lexicalNames ++ body.lexicalNames) ?_
    have hhead := hσ.around_inner (.ofLoop left.lexicalNames body)
    refine (left.instrument_agrees hhead (d + 1) (List.subset_append_left _ _)).bind fun f hf => ?_
    exact ((body.instrument_agrees (hhead.record left.recordedNames) (d + 1)
      (List.subset_append_right _ _)).map fun b hb => ⟨f, g, b, rfl, hg, hf, hb⟩).within
  | .while test body, hs =>
    have htest := Keeps.inFrame (d := d + 1) ho fun σ hσ =>
      test.instrument_agrees hσ (d + 1)
    exact htest.leads.bind fun f hf => (body.instrument_agrees ho (d + 1) hs).map
      fun b hb => ⟨f, b, rfl, hf, hb⟩
  | .doWhile body test, hs =>
    have htest := Keeps.inFrame (d := d + 1) (ho.record (body.recordedNames (d + 1))) fun σ hσ =>
      test.instrument_agrees hσ (d + 1)
    exact (body.instrument_agrees ho (d + 1) hs).bind fun b hb =>
      htest.leads.map fun f hf => ⟨f, b, rfl, hb, hf⟩
  | .tryCatch stmts handler finalizer, _ =>
    have hblock := Keeps.inFrame (d := d + 1) ho fun σ hσ =>
      block_scoped cx <| instrumentEach_agree
        ((hσ.around_inner (.ofBlock stmts)).record (declaredNames stmts)) (d + 1) stmts
        (List.Subset.refl _)
    have hhandler := Keeps.inFrame (d := d + 1) ho fun σ hσ =>
      instrumentHandler_agrees hσ (d + 1) handler
    have hfinalizer := Keeps.inFrame (d := d + 1) ho fun σ hσ =>
      instrumentFinalizer_agrees hσ (d + 1) finalizer
    exact Keeps.leadsRegion <| hblock.bind fun fs hfs => hhandler.bind fun f hf =>
      hfinalizer.map fun g hg => ⟨fs, f, g, rfl, hfs, hf, hg⟩
  | .switch discriminant cases, _ =>
    have hdiscriminant := Keeps.inFrame (d := d + 1) ho fun σ hσ =>
      discriminant.instrument_agrees hσ (d + 1)
    have hcases := Keeps.inFrame (d := d + 1) ho fun σ hσ =>
      Keeps.openScope _ <| instrumentCases_agree (hσ.around_inner (.ofCases cases)) (d + 1) cases
        (List.Subset.refl _)
    exact Keeps.leadsRegion <| hdiscriminant.bind fun f hf =>
      hcases.map fun gs hgs => ⟨f, gs, rfl, hf, hgs⟩
  | .labeled label body, hs =>
    exact (body.instrument_agrees ho (d + 1) hs).map fun b hb => ⟨b, rfl, hb⟩
  | .break _, _ | .continue _, _ | .empty, _ => exact Keeps.leadsRegion (.pure rfl)
  | .typeAlias decl, _ =>
    refine Keeps.leadsRegion <|
      (Setting.declareAlias_constant (ofScopes_atScopes _ _) F.env decl).map fun out h => ?_
    obtain ⟨check, rfl⟩ := h
    exact ⟨check, rfl⟩
  | .interface decl, _ =>
    refine Keeps.leadsRegion <|
      (Setting.declareInterface_constant (ofScopes_atScopes _ _) F.env decl).map fun out h => ?_
    obtain ⟨check, rfl⟩ := h
    exact ⟨check, rfl⟩
  | .import decl, _ => exact Keeps.leadsRegion (.pure rfl)
  | .export (some declaration) specifiers source kind, hs =>
    refine (declaration.instrument_agrees ho (d + 1) hs).bind fun f hf => ?_
    cases f with
    | some f => exact .pure ⟨some f, rfl, hf⟩
    | none => exact .pure ⟨none, rfl, hf⟩
  | .export none specifiers source kind, _ => exact Keeps.leadsRegion (.pure rfl)
  | .exportDefault value, _ =>
    have hvalue := Keeps.inFrame (d := d + 1) ho fun σ hσ =>
      value.instrument_agrees hσ (d + 1)
    exact Keeps.leadsRegion <| hvalue.map fun f h => ⟨f, rfl, h⟩
end

end TypeGuard
