import TypeGuard.Proofs.Shedding.Check

/-!
# Trees side by side

The visit without checks succeeds wherever the one with checks does, and leaves the same tree
without the checks. The induction follows the visit, with one statement for every kind of tree.
-/

namespace TypeGuard

open Visit Instrumentation

variable {cx : Setting}

mutual
/-- A visited expression sheds its checks. -/
theorem Expr.instrument_sheds {d : Nat} (env : Environment) (e : Expr) :
    Mirrors d (e.instrument cx.withChecks env) (Expr.Sheds cx.names d e)
      (e.instrument cx.withoutChecks env) := by
  match e with
  | .ident _ | .this | .super | .null | .bool _ | .num _ | .str _ | .regex _ _ =>
    exact .nestedExpr (.pure (.leaf rfl))
  | .template quasis exprs =>
    exact .nestedExpr <| (instrumentExprs_shed env exprs).map fun _ _ h => .template h
  | .taggedTemplate tag quasis exprs =>
    exact .nestedExpr <| (tag.instrument_sheds env).bind fun _ _ htag =>
      (instrumentExprs_shed env exprs).map fun _ _ h => .taggedTemplate htag h
  | .array elems =>
    exact .nestedExpr <| (instrumentElems_shed env elems).map fun _ _ h => .array h
  | .object props =>
    exact .nestedExpr <| (instrumentProps_shed env props).map fun _ _ h => .object h
  | .function func =>
    exact .nestedExpr <| (func.instrument_sheds env).map fun _ _ h => .function h
  | .class decl =>
    exact .nestedExpr <| (decl.instrument_sheds env).map fun _ _ h => .class h
  | .member obj name =>
    exact .nestedExpr <| (obj.instrument_sheds env).map fun _ _ h => .member h
  | .index obj key =>
    exact .nestedExpr <| (obj.instrument_sheds env).bind fun _ _ hobj =>
      (key.instrument_sheds env).map fun _ _ hkey => .index hobj hkey
  | .call callee args =>
    exact .nestedExpr <| (callee.instrument_sheds env).bind fun _ _ hcallee =>
      (instrumentExprs_shed env args).map fun _ _ hargs => .call hcallee hargs
  | .new callee args =>
    exact .nestedExpr <| (callee.instrument_sheds env).bind fun _ _ hcallee =>
      (instrumentExprs_shed env args).map fun _ _ hargs => .new hcallee hargs
  | .unary op arg =>
    exact .nestedExpr <| (arg.instrument_sheds env).map fun _ _ h => .unary h
  | .update op isPrefix arg =>
    exact .nestedExpr <| (arg.instrument_sheds env).map fun _ _ h => .update h
  | .binary op left right =>
    exact .nestedExpr <| (left.instrument_sheds env).bind fun _ _ hleft =>
      (right.instrument_sheds env).map fun _ _ hright => .binary hleft hright
  | .conditional test consequent alternate =>
    exact .nestedExpr <| (test.instrument_sheds env).bind fun _ _ htest =>
      (consequent.instrument_sheds env).bind fun _ _ hthen =>
        (alternate.instrument_sheds env).map fun _ _ helse => .conditional htest hthen helse
  | .assign op target value span =>
    refine .nestedExpr <| (value.instrument_sheds env).bind fun _ _ hvalue =>
      (target.instrument_sheds env).bind fun target target' htarget =>
        (Setting.checkAssigned_mirrors env span op target target' _ _).map fun checked bare h => ?_
    obtain ⟨⟨_, h⟩, rfl⟩ := h
    cases h with
    | unchecked => exact .assign htarget hvalue
    | @checked name _ _ _ check hop hname =>
      subst hop hname
      obtain ⟨⟨⟩⟩ := htarget
      exact .assignChecked check hvalue
  | .seq exprs =>
    exact .nestedExpr <| (instrumentExprs_shed env exprs).map fun _ _ h => .seq h
  | .spread arg =>
    exact .nestedExpr <| (arg.instrument_sheds env).map fun _ _ h => .spread h
  | .await arg =>
    exact .nestedExpr <| (arg.instrument_sheds env).map fun _ _ h => .await h
  | .yield arg delegate =>
    exact .nestedExpr <| (instrumentOptExpr_sheds env arg).map fun _ _ h => .yield h
  | .paren inner =>
    exact .nestedExpr <| (inner.instrument_sheds env).map fun _ _ h => .paren h
  | .cast inner type optional span =>
    refine .nestedExpr <| (Setting.reified?_mirrors env span type).bind fun found found' h => ?_
    obtain ⟨rfl, hfound⟩ := h
    cases found with
    | some target =>
      obtain ⟨ref, rfl, href⟩ := hfound target rfl
      exact .pure (.castReified href)
    | none =>
      refine (inner.instrument_sheds env).bind fun visited bare h => ?_
      rw [if_neg (by simp [Setting.skipAsserts_withChecks]), if_pos (by rfl)]
      exact .check (fun t => Setting.checkValue_checked (fun _ h => h.noteAsserts) env span visited
        type optional inner.label) fun _ hchecked => .cast h hchecked

theorem instrumentExprs_shed {d : Nat} (env : Environment) (es : List Expr) :
    Mirrors d (instrumentExprs cx.withChecks env es) (exprsShed cx.names d es)
      (instrumentExprs cx.withoutChecks env es) := by
  match es with
  | [] => exact .pure .nil
  | e :: es =>
    exact (e.instrument_sheds env).bind fun _ _ he =>
      (instrumentExprs_shed env es).map fun _ _ hes => .cons he hes

theorem instrumentOptExpr_sheds {d : Nat} (env : Environment) (e : Option Expr) :
    Mirrors d (instrumentOptExpr cx.withChecks env e) (optExprSheds cx.names d e)
      (instrumentOptExpr cx.withoutChecks env e) := by
  match e with
  | some e => exact (e.instrument_sheds env).map fun _ _ h => .some h
  | none => exact .pure .none

theorem instrumentElems_shed {d : Nat} (env : Environment) (es : List (Option Expr)) :
    Mirrors d (instrumentElems cx.withChecks env es) (elemsShed cx.names d es)
      (instrumentElems cx.withoutChecks env es) := by
  match es with
  | [] => exact .pure .nil
  | some e :: es =>
    exact (e.instrument_sheds env).bind fun _ _ he =>
      (instrumentElems_shed env es).map fun _ _ hes => .some he hes
  | none :: es => exact (instrumentElems_shed env es).map fun _ _ hes => .none hes

theorem PropKey.instrument_sheds {d : Nat} (env : Environment) (key : PropKey) :
    Mirrors d (key.instrument cx.withChecks env) (PropKey.Sheds cx.names d key)
      (key.instrument cx.withoutChecks env) := by
  match key with
  | .computed e => exact (e.instrument_sheds env).map fun _ _ h => .computed h
  | .ident name => exact .pure (.ident name)
  | .str value => exact .pure (.str value)
  | .num text => exact .pure (.num text)

theorem ObjectProp.instrument_sheds {d : Nat} (env : Environment) (p : ObjectProp) :
    Mirrors d (p.instrument cx.withChecks env) (ObjectProp.Sheds cx.names d p)
      (p.instrument cx.withoutChecks env) := by
  match p with
  | .keyValue key value shorthand =>
    exact (key.instrument_sheds env).bind fun _ _ hkey =>
      (value.instrument_sheds env).map fun _ _ hvalue => .keyValue hkey hvalue
  | .method key func =>
    exact (key.instrument_sheds env).bind fun _ _ hkey =>
      (func.instrument_sheds env).map fun _ _ hfunc => .method hkey hfunc
  | .spread arg => exact (arg.instrument_sheds env).map fun _ _ h => .spread h

theorem instrumentProps_shed {d : Nat} (env : Environment) (ps : List ObjectProp) :
    Mirrors d (instrumentProps cx.withChecks env ps) (objectPropsShed cx.names d ps)
      (instrumentProps cx.withoutChecks env ps) := by
  match ps with
  | [] => exact .pure .nil
  | p :: ps =>
    exact (p.instrument_sheds env).bind fun _ _ hp =>
      (instrumentProps_shed env ps).map fun _ _ hps => .cons hp hps

theorem AssignTarget.instrument_sheds {d : Nat} (env : Environment) (target : AssignTarget) :
    Mirrors d (target.instrument cx.withChecks env) (AssignTarget.Sheds cx.names d target)
      (target.instrument cx.withoutChecks env) := by
  match target with
  | .pattern p => exact (p.instrument_sheds env).map fun _ _ h => .pattern h
  | .expr e => exact (e.instrument_sheds env).map fun _ _ h => .expr h

theorem Pattern.instrument_sheds {d : Nat} (env : Environment) (p : Pattern) :
    Mirrors d (p.instrument cx.withChecks env) (Pattern.Sheds cx.names d p)
      (p.instrument cx.withoutChecks env) := by
  match p with
  | .ident name => exact .pure (.ident name)
  | .object props => exact (instrumentPatternProps_shed env props).map fun _ _ h => .object h
  | .array elems => exact (instrumentPatterns_shed env elems).map fun _ _ h => .array h
  | .default left right =>
    exact (left.instrument_sheds env).bind fun _ _ hleft =>
      (right.instrument_sheds env).map fun _ _ hright => .default hleft hright
  | .rest inner => exact (inner.instrument_sheds env).map fun _ _ h => .rest h

theorem PatternProp.instrument_sheds {d : Nat} (env : Environment) (p : PatternProp) :
    Mirrors d (p.instrument cx.withChecks env) (PatternProp.Sheds cx.names d p)
      (p.instrument cx.withoutChecks env) := by
  match p with
  | .keyValue key value shorthand =>
    exact (key.instrument_sheds env).bind fun _ _ hkey =>
      (value.instrument_sheds env).map fun _ _ hvalue => .keyValue hkey hvalue
  | .rest inner => exact (inner.instrument_sheds env).map fun _ _ h => .rest h

theorem instrumentPatternProps_shed {d : Nat} (env : Environment) (ps : List PatternProp) :
    Mirrors d (instrumentPatternProps cx.withChecks env ps) (patternPropsShed cx.names d ps)
      (instrumentPatternProps cx.withoutChecks env ps) := by
  match ps with
  | [] => exact .pure .nil
  | p :: ps =>
    exact (p.instrument_sheds env).bind fun _ _ hp =>
      (instrumentPatternProps_shed env ps).map fun _ _ hps => .cons hp hps

theorem instrumentPatterns_shed {d : Nat} (env : Environment) (ps : List (Option Pattern)) :
    Mirrors d (instrumentPatterns cx.withChecks env ps) (patternsShed cx.names d ps)
      (instrumentPatterns cx.withoutChecks env ps) := by
  match ps with
  | [] => exact .pure .nil
  | some p :: ps =>
    exact (p.instrument_sheds env).bind fun _ _ hp =>
      (instrumentPatterns_shed env ps).map fun _ _ hps => .some hp hps
  | none :: ps => exact (instrumentPatterns_shed env ps).map fun _ _ hps => .none hps

/-- Parameters shed their checks, of which there are none on the other side. -/
theorem instrumentParams_shed {d : Nat} (env : Environment) (span : Span) (ps : List Param) :
    Mirrors d (instrumentParams cx.withChecks env span ps)
      (fun full bare => paramsShed cx.names d ps full.1 full.2 bare.1 ∧ bare.2 = [])
      (instrumentParams cx.withoutChecks env span ps) := by
  match ps with
  | [] => exact .pure ⟨.nil, rfl⟩
  | ⟨pattern, type, optional⟩ :: ps =>
    refine (mirrors_recordUntyped _ _).bind fun _ _ _ =>
      (pattern.instrument_sheds env).bind fun _ _ hpattern =>
        (Setting.checkParam_mirrors env span _).bind fun checks bare hchecks =>
          (instrumentParams_shed env span ps).map fun full further hps => ?_
    obtain ⟨hchecks, rfl⟩ := hchecks
    refine ⟨?_, hps.2⟩
    cases hchecks with
    | unchecked hnone =>
      obtain rfl : type = none := hnone.resolve_right (by simp [Setting.skipAsserts_withChecks])
      exact .untyped hpattern hps.1
    | checked _ htype hexpr =>
      subst htype
      exact .typed hpattern hexpr hps.1

theorem FunctionBody.instrument_sheds {d : Nat} (env : Environment) (body : FunctionBody) :
    Mirrors d (body.instrument cx.withChecks env) (FunctionBody.Sheds cx.names d body)
      (body.instrument cx.withoutChecks env) := by
  match body with
  | .block stmts =>
    exact (mirrors_recordNames _).bind fun _ _ _ =>
      (statementList_mirrors (instrumentEach_sheds env stmts)).map fun _ _ h => .block h
  | .expr value => exact (value.instrument_sheds env).map fun _ _ h => .expr h

/-- A visited function sheds the checks of its parameters and of its value. -/
theorem Function.instrument_sheds {d : Nat} (env : Environment) (func : Function) :
    Mirrors d (func.instrument cx.withChecks env) (Function.Sheds cx.names d func)
      (func.instrument cx.withoutChecks env) := by
  match func with
  | ⟨id, params, body, returnType, typeParams, isAsync, isArrow, isGenerator, span⟩ =>
    refine .inScope <| (instrumentParams_shed _ span params).bind fun full bare hparams => ?_
    refine (body.instrument_sheds _).bind fun fullBody bareBody hbody => ?_
    refine (Setting.returnCheck_mirrors _ span isAsync isGenerator returnType).bind
      fun check none' hcheck => ?_
    obtain ⟨rfl, hcheck⟩ := hcheck
    rw [hparams.2]
    refine (Setting.checkedBody_mirrors isArrow isAsync full.2 check fullBody bareBody).map
      fun checked left h => ?_
    obtain ⟨hchecked, rfl⟩ := h
    rcases hcheck with ⟨rfl, hunchecked⟩ | ⟨rfl, type, check, rfl, rfl⟩
    · cases hchecked
      simpa using Function.Sheds.unwrapped hunchecked hparams.1 hbody
    · cases hchecked
      simpa [Setting.names_withChecks] using Function.Sheds.wrapped check hparams.1 hbody

theorem ClassMember.instrument_sheds {d : Nat} (env : Environment) (m : ClassMember) :
    Mirrors d (m.instrument cx.withChecks env) (ClassMember.Sheds cx.names d m)
      (m.instrument cx.withoutChecks env) := by
  match m with
  | .method key kind isStatic func =>
    exact (key.instrument_sheds env).bind fun _ _ hkey =>
      (func.instrument_sheds env).map fun _ _ hfunc => .method hkey hfunc
  | .property key type value isStatic =>
    exact (key.instrument_sheds env).bind fun _ _ hkey =>
      (instrumentOptExpr_sheds env value).map fun _ _ hvalue => .property hkey hvalue

theorem instrumentMembers_shed {d : Nat} (env : Environment) (ms : List ClassMember) :
    Mirrors d (instrumentMembers cx.withChecks env ms) (membersShed cx.names d ms)
      (instrumentMembers cx.withoutChecks env ms) := by
  match ms with
  | [] => exact .pure .nil
  | m :: ms =>
    exact (m.instrument_sheds env).bind fun _ _ hm =>
      (instrumentMembers_shed env ms).map fun _ _ hms => .cons hm hms

theorem Class.instrument_sheds {d : Nat} (env : Environment) (decl : Class) :
    Mirrors d (decl.instrument cx.withChecks env) (Class.Sheds cx.names d decl)
      (decl.instrument cx.withoutChecks env) := by
  match decl with
  | ⟨id, superClass, typeParams, body, span⟩ =>
    exact (instrumentOptExpr_sheds _ superClass).bind fun _ _ hsuper =>
      (instrumentMembers_shed _ body).map fun _ _ hbody => .mk hsuper hbody

theorem instrumentDeclarators_shed {d : Nat} (env : Environment) (kind : VarKind) (declSpan : Span)
    (ds : List Declarator) :
    Mirrors d (instrumentDeclarators cx.withChecks env kind declSpan ds)
      (declaratorsShed cx.names d kind ds)
      (instrumentDeclarators cx.withoutChecks env kind declSpan ds) := by
  match ds with
  | [] => exact .pure .nil
  | ⟨id, type, init, span⟩ :: ds =>
    refine (instrumentOptExpr_sheds env init).bind fun _ _ hinit =>
      (id.instrument_sheds env).bind fun visited bare hid =>
        (Setting.checkDeclared_mirrors env kind _ visited bare type id.label _ _).bind
          fun checked left h => (instrumentDeclarators_shed env kind declSpan ds).map
            fun _ _ hds => ?_
    obtain ⟨h, rfl⟩ := h
    cases h with
    | unchecked hunchecked =>
      refine .unchecked ?_ hid hinit hds
      rcases hunchecked with h | h | h | rfl
      · exact .inl h
      · cases h
      · exact .inr (.inl h)
      · cases hinit
        exact .inr (.inr rfl)
    | checked hkind _ htype hvalue =>
      subst htype
      cases hinit with
      | some hinit => exact .checked hkind hid hinit hvalue hds

theorem VarDecl.instrument_sheds {d : Nat} (env : Environment) (decl : VarDecl) :
    Mirrors d (decl.instrument cx.withChecks env) (VarDecl.Sheds cx.names d decl)
      (decl.instrument cx.withoutChecks env) := by
  match decl with
  | ⟨kind, declarators, span⟩ =>
    exact (instrumentDeclarators_shed env kind span declarators).map fun _ _ h => .mk h

theorem ForInit.instrument_sheds {d : Nat} (env : Environment) (i : ForInit) :
    Mirrors d (i.instrument cx.withChecks env) (ForInit.Sheds cx.names d i)
      (i.instrument cx.withoutChecks env) := by
  match i with
  | .varDecl decl => exact (decl.instrument_sheds env).map fun _ _ h => .varDecl h
  | .expr value => exact (value.instrument_sheds env).map fun _ _ h => .expr h

theorem instrumentForInit_sheds {d : Nat} (env : Environment) (i : Option ForInit) :
    Mirrors d (instrumentForInit cx.withChecks env i) (optForInitSheds cx.names d i)
      (instrumentForInit cx.withoutChecks env i) := by
  match i with
  | some i => exact (i.instrument_sheds env).map fun _ _ h => .some h
  | none => exact .pure .none

theorem ForHead.instrument_sheds {d : Nat} (env : Environment) (head : ForHead) :
    Mirrors d (head.instrument cx.withChecks env) (ForHead.Sheds cx.names d head)
      (head.instrument cx.withoutChecks env) := by
  match head with
  | .varDecl decl => exact (decl.instrument_sheds env).map fun _ _ h => .varDecl h
  | .target target => exact (target.instrument_sheds env).map fun _ _ h => .target h

theorem instrumentHandler_sheds {d : Nat} (env : Environment) (handler : Option CatchClause) :
    Mirrors d (instrumentHandler cx.withChecks env handler) (handlerSheds cx.names d handler)
      (instrumentHandler cx.withoutChecks env handler) := by
  match handler with
  | some ⟨some param, stmts⟩ =>
    exact .inScope <| (mirrors_recordUntyped _ _).bind fun _ _ _ =>
      (param.instrument_sheds env).bind fun _ _ hparam =>
        (statementList_mirrors (instrumentEach_sheds env stmts)).map
          fun _ _ hstmts => .param hparam hstmts
  | some ⟨none, stmts⟩ =>
    exact .inScope <| (statementList_mirrors (instrumentEach_sheds env stmts)).map
      fun _ _ h => .bare h
  | none => exact .pure .none

theorem instrumentFinalizer_sheds {d : Nat} (env : Environment) (finalizer : Option (List Stmt)) :
    Mirrors d (instrumentFinalizer cx.withChecks env finalizer)
      (finalizerSheds cx.names d finalizer)
      (instrumentFinalizer cx.withoutChecks env finalizer) := by
  match finalizer with
  | some stmts =>
    exact (statementList_mirrors (instrumentEach_sheds env stmts)).inScope.map fun _ _ h => .some h
  | none => exact .pure .none

theorem instrumentCases_shed {d : Nat} (env : Environment) (cs : List SwitchCase) :
    Mirrors d (instrumentCases cx.withChecks env cs) (casesShed cx.names d cs)
      (instrumentCases cx.withoutChecks env cs) := by
  match cs with
  | [] => exact .pure .nil
  | ⟨test, stmts⟩ :: cs =>
    exact (instrumentOptExpr_sheds env test).bind fun _ _ htest =>
      (statementList_mirrors (instrumentEach_sheds env stmts)).bind fun _ _ hstmts =>
        (instrumentCases_shed env cs).map fun _ _ hcs => .cons htest hstmts hcs

theorem instrumentEach_sheds {d : Nat} (env : Environment) (ss : List Stmt) :
    Mirrors d (instrumentEach cx.withChecks env ss) (eachSheds cx.names d ss)
      (instrumentEach cx.withoutChecks env ss) := by
  match ss with
  | [] => exact .pure .nil
  | s :: ss =>
    exact (noticing_mirrors (s.instrument_sheds env)).bind fun _ _ hs =>
      (instrumentEach_sheds env ss).map fun _ _ hss => .cons hs.1 hs.2 hss

theorem instrumentAlternate_sheds {d : Nat} (env : Environment) (s : Option Stmt) :
    Mirrors d (instrumentAlternate cx.withChecks env s) (alternateSheds cx.names d s)
      (instrumentAlternate cx.withoutChecks env s) := by
  match s with
  | some s => exact (s.instrument_sheds env).map fun _ _ h => .some h
  | none => exact .pure .none

/-- What is left of a visited statement sheds its checks. -/
theorem Stmt.instrument_sheds {d : Nat} (env : Environment) (s : Stmt) :
    Mirrors d (s.instrument cx.withChecks env) (Stmt.Sheds cx.names d s)
      (s.instrument cx.withoutChecks env) := by
  match s with
  | .expr value =>
    exact .nestedStmt <| (value.instrument_sheds env).map fun _ _ h => .expr h
  | .varDecl decl =>
    exact .nestedStmt <| (decl.instrument_sheds env).map fun _ _ h => .varDecl h
  | .function func =>
    exact .nestedStmt <| (func.instrument_sheds env).map fun _ _ h => .function h
  | .class decl =>
    exact .nestedStmt <| (decl.instrument_sheds env).map fun _ _ h => .class h
  | .ret arg =>
    exact .nestedStmt <| (instrumentOptExpr_sheds env arg).map fun _ _ h => .ret h
  | .ifElse test consequent alternate =>
    exact .nestedStmt <| (test.instrument_sheds env).bind fun _ _ htest =>
      (consequent.instrument_sheds env).bind fun _ _ hthen =>
        (instrumentAlternate_sheds env alternate).map fun _ _ helse => .ifElse htest hthen helse
  | .block stmts =>
    exact .nestedStmt <| (statementList_mirrors (instrumentEach_sheds env stmts)).inScope.map
      fun _ _ h => .block h
  | .throw arg =>
    exact .nestedStmt <| (arg.instrument_sheds env).map fun _ _ h => .throw h
  | .forLoop init test update body =>
    exact .nestedStmt <| .inScope <| (instrumentForInit_sheds env init).bind fun _ _ hinit =>
      (instrumentOptExpr_sheds env test).bind fun _ _ htest =>
        (instrumentOptExpr_sheds env update).bind fun _ _ hupdate =>
          (body.instrument_sheds env).map fun _ _ hbody => .forLoop hinit htest hupdate hbody
  | .forIn left right body =>
    exact .nestedStmt <| (right.instrument_sheds env).bind fun _ _ hright =>
      .inScope <| (left.instrument_sheds env).bind fun _ _ hleft =>
        (body.instrument_sheds env).map fun _ _ hbody => .forIn hleft hright hbody
  | .forOf left right body isAwait =>
    exact .nestedStmt <| (right.instrument_sheds env).bind fun _ _ hright =>
      .inScope <| (left.instrument_sheds env).bind fun _ _ hleft =>
        (body.instrument_sheds env).map fun _ _ hbody => .forOf hleft hright hbody
  | .while test body =>
    exact .nestedStmt <| (test.instrument_sheds env).bind fun _ _ htest =>
      (body.instrument_sheds env).map fun _ _ hbody => .while htest hbody
  | .doWhile body test =>
    exact .nestedStmt <| (body.instrument_sheds env).bind fun _ _ hbody =>
      (test.instrument_sheds env).map fun _ _ htest => .doWhile hbody htest
  | .tryCatch stmts handler finalizer =>
    exact .nestedStmt <|
      (statementList_mirrors (instrumentEach_sheds env stmts)).inScope.bind fun _ _ hstmts =>
        (instrumentHandler_sheds env handler).bind fun _ _ hhandler =>
          (instrumentFinalizer_sheds env finalizer).map fun _ _ hfinalizer =>
            .tryCatch hstmts hhandler hfinalizer
  | .switch discriminant cases =>
    exact .nestedStmt <| (discriminant.instrument_sheds env).bind fun _ _ hdiscriminant =>
      (instrumentCases_shed env cases).inScope.map fun _ _ hcases => .switch hdiscriminant hcases
  | .labeled label body =>
    exact .nestedStmt <| (body.instrument_sheds env).map fun _ _ h => .labeled h
  | .break label => exact .nestedStmt (.pure (.break label))
  | .continue label => exact .nestedStmt (.pure (.continue label))
  | .empty => exact .nestedStmt (.pure .empty)
  | .typeAlias decl =>
    refine .nestedStmt <| (Setting.declareAlias_mirrors env decl).map fun stmt bare h => ?_
    obtain ⟨rfl, init, rfl⟩ := h
    exact .typeAlias decl init
  | .interface decl =>
    refine .nestedStmt <| (Setting.declareInterface_mirrors env decl).map fun stmt bare h => ?_
    obtain ⟨rfl, init, rfl⟩ := h
    exact .interface decl init
  | .import decl => exact .nestedStmt (.pure (.import decl))
  | .export (some declaration) specifiers source kind =>
    refine .nestedStmt <| (declaration.instrument_sheds env).bind fun visited bare h => ?_
    have hleft := h.isSome_eq
    cases visited with
    | some f =>
      obtain ⟨b, rfl⟩ := Option.isSome_iff_exists.mp hleft.symm
      exact .pure (.export h)
    | none =>
      obtain rfl : bare = none := by simpa using hleft.symm
      exact .pure (.exportNothing h)
  | .export none specifiers source kind => exact .nestedStmt (.pure .exportNames)
  | .exportDefault value =>
    exact .nestedStmt <| (value.instrument_sheds env).map fun _ _ h => .exportDefault h
end

end TypeGuard
