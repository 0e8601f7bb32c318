import TypeGuard.Proofs.Erasure.Check
import TypeGuard.Proofs.Nesting

/-!
# Erasure in trees

A visited tree is free of static types exactly where the checks within it are, provided that it does
not reach the greatest depth, at which trees are left as they are. The induction follows the visit,
with one statement for every kind of tree.
-/

namespace TypeGuard

open Visit Instrumentation

variable (cx : Setting)

mutual
/-- A visited expression is free of static types exactly where the checks within it are. -/
theorem Expr.instrument_untyped (env : Environment) (d : Nat) (e : Expr)
    (h : Fits d e.nesting) :
    Keeps (AtDepth d) (e.instrument cx env) (·.untyped = e.checksUntyped cx env) := by
  match e with
  | .ident _ | .this | .super | .null | .bool _ | .num _ | .str _ | .regex _ _ =>
    exact .nested h.lt (.pure rfl)
  | .template quasis exprs =>
    exact .nested h.lt <| (instrumentExprs_untyped env _ exprs h.inner).map fun _ h => h
  | .taggedTemplate tag quasis exprs =>
    exact .nested h.lt <| (tag.instrument_untyped env _ h.inner.left).bind fun _ htag =>
      (instrumentExprs_untyped env _ exprs h.inner.right).map fun _ h => both htag h
  | .array elems =>
    exact .nested h.lt <| (instrumentElems_untyped env _ elems h.inner).map fun _ h => h
  | .object props =>
    exact .nested h.lt <| (instrumentProps_untyped env _ props h.inner).map fun _ h => h
  | .function func =>
    exact .nested h.lt <| (func.instrument_untyped env _ h.inner).map fun _ h => h
  | .class decl =>
    exact .nested h.lt <| (decl.instrument_untyped env _ h.inner).map fun _ h => h
  | .member obj name =>
    exact .nested h.lt <| (obj.instrument_untyped env _ h.inner).map fun _ h => h
  | .index obj key =>
    exact .nested h.lt <| (obj.instrument_untyped env _ h.inner.left).bind fun _ hobj =>
      (key.instrument_untyped env _ h.inner.right).map fun _ hkey => both hobj hkey
  | .call callee args =>
    exact .nested h.lt <| (callee.instrument_untyped env _ h.inner.left).bind fun _ hcallee =>
      (instrumentExprs_untyped env _ args h.inner.right).map fun _ hargs => both hcallee hargs
  | .new callee args =>
    exact .nested h.lt <| (callee.instrument_untyped env _ h.inner.left).bind fun _ hcallee =>
      (instrumentExprs_untyped env _ args h.inner.right).map fun _ hargs => both hcallee hargs
  | .unary op arg =>
    exact .nested h.lt <| (arg.instrument_untyped env _ h.inner).map fun _ h => h
  | .update op isPrefix arg =>
    exact .nested h.lt <| (arg.instrument_untyped env _ h.inner).map fun _ h => h
  | .binary op left right =>
    exact .nested h.lt <| (left.instrument_untyped env _ h.inner.left).bind fun _ hleft =>
      (right.instrument_untyped env _ h.inner.right).map fun _ hright => both hleft hright
  | .conditional test consequent alternate =>
    exact .nested h.lt <| (test.instrument_untyped env _ h.inner.left).bind fun _ htest =>
      (consequent.instrument_untyped env _ h.inner.right.left).bind fun _ hthen =>
        (alternate.instrument_untyped env _ h.inner.right.right).map fun _ helse =>
          both (both htest hthen) helse
  | .assign op target value span =>
    exact .nested h.lt <| (value.instrument_untyped env _ h.inner.right).bind fun _ hvalue =>
      (target.instrument_untyped env _ h.inner.left).bind fun target htarget =>
        (Setting.checkAssigned_untyped env span op target _).map fun _ hchecked =>
          both htarget (hchecked.trans hvalue)
  | .seq exprs =>
    exact .nested h.lt <| (instrumentExprs_untyped env _ exprs h.inner).map fun _ h => h
  | .spread arg =>
    exact .nested h.lt <| (arg.instrument_untyped env _ h.inner).map fun _ h => h
  | .await arg =>
    exact .nested h.lt <| (arg.instrument_untyped env _ h.inner).map fun _ h => h
  | .yield arg delegate =>
    exact .nested h.lt <| (instrumentOptExpr_untyped env _ arg h.inner).map fun _ h => h
  | .paren inner =>
    exact .nested h.lt <| (inner.instrument_untyped env _ h.inner).map fun _ h => h
  | .cast inner type optional span =>
    refine .nested h.lt <| (Setting.reified?_isReified env span type).bind fun target htarget => ?_
    cases target with
    | some target =>
      refine .pure ?_
      show (Expr.path target).untyped = (type.isReified env || inner.checksUntyped cx env)
      rw [Expr.path_untyped, htarget]
      rfl
    | none =>
      have hcast : (Expr.cast inner type optional span).checksUntyped cx env =
          inner.checksUntyped cx env := by
        show (type.isReified env || inner.checksUntyped cx env) = _
        rw [htarget]
        rfl
      rw [hcast]
      refine (inner.instrument_untyped env _ h.inner).bind fun visited hvisited => ?_
      split
      · exact .pure hvisited
      · exact (Setting.checkValue_untyped env span visited type optional inner.label).weaken
          fun _ hchecked => hchecked.trans hvisited

theorem instrumentExprs_untyped (env : Environment) (d : Nat) (es : List Expr)
    (h : Fits d (exprsNesting es)) :
    Keeps (AtDepth d) (instrumentExprs cx env es)
      (exprsUntyped · = exprsCheckUntyped cx env es) := by
  match es with
  | [] => exact .pure rfl
  | e :: es =>
    exact (e.instrument_untyped env d h.left).bind fun _ he =>
      (instrumentExprs_untyped env d es h.right).map fun _ hes => both he hes

theorem instrumentOptExpr_untyped (env : Environment) (d : Nat) (e : Option Expr)
    (h : Fits d (optExprNesting e)) :
    Keeps (AtDepth d) (instrumentOptExpr cx env e)
      (optExprUntyped · = optExprChecksUntyped cx env e) := by
  match e with
  | some e =>
    exact (e.instrument_untyped env d h).map fun _ h => h
  | none => exact .pure rfl

theorem instrumentElems_untyped (env : Environment) (d : Nat) (es : List (Option Expr))
    (h : Fits d (elemsNesting es)) :
    Keeps (AtDepth d) (instrumentElems cx env es)
      (elemsUntyped · = elemsCheckUntyped cx env es) := by
  match es with
  | [] => exact .pure rfl
  | some e :: es =>
    exact (e.instrument_untyped env d h.left).bind fun _ he =>
      (instrumentElems_untyped env d es h.right).map fun _ hes => both he hes
  | none :: es =>
    exact (instrumentElems_untyped env d es h).map fun _ hes => hes

theorem PropKey.instrument_untyped (env : Environment) (d : Nat) (key : PropKey)
    (h : Fits d key.nesting) :
    Keeps (AtDepth d) (key.instrument cx env) (·.untyped = key.checksUntyped cx env) := by
  match key with
  | .computed e =>
    exact (e.instrument_untyped env d h).map fun _ h => h
  | .ident _ | .str _ | .num _ => exact .pure rfl

theorem ObjectProp.instrument_untyped (env : Environment) (d : Nat) (p : ObjectProp)
    (h : Fits d p.nesting) :
    Keeps (AtDepth d) (p.instrument cx env) (·.untyped = p.checksUntyped cx env) := by
  match p with
  | .keyValue key value shorthand =>
    exact (key.instrument_untyped env d h.left).bind fun _ hkey =>
      (value.instrument_untyped env d h.right).map fun _ hvalue => both hkey hvalue
  | .method key func =>
    exact (key.instrument_untyped env d h.left).bind fun _ hkey =>
      (func.instrument_untyped env d h.right).map fun _ hfunc => both hkey hfunc
  | .spread arg =>
    exact (arg.instrument_untyped env d h).map fun _ h => h

theorem instrumentProps_untyped (env : Environment) (d : Nat) (ps : List ObjectProp)
    (h : Fits d (objectPropsNesting ps)) :
    Keeps (AtDepth d) (instrumentProps cx env ps)
      (objectPropsUntyped · = objectPropsCheckUntyped cx env ps) := by
  match ps with
  | [] => exact .pure rfl
  | p :: ps =>
    exact (p.instrument_untyped env d h.left).bind fun _ hp =>
      (instrumentProps_untyped env d ps h.right).map fun _ hps => both hp hps

theorem AssignTarget.instrument_untyped (env : Environment) (d : Nat) (target : AssignTarget)
    (h : Fits d target.nesting) :
    Keeps (AtDepth d) (target.instrument cx env) (·.untyped = target.checksUntyped cx env) := by
  match target with
  | .pattern p =>
    exact (p.instrument_untyped env d h).map fun _ h => h
  | .expr e =>
    exact (e.instrument_untyped env d h).map fun _ h => h

theorem Pattern.instrument_untyped (env : Environment) (d : Nat) (p : Pattern)
    (h : Fits d p.nesting) :
    Keeps (AtDepth d) (p.instrument cx env) (·.untyped = p.checksUntyped cx env) := by
  match p with
  | .ident _ => exact .pure rfl
  | .object props =>
    exact (instrumentPatternProps_untyped env d props h).map fun _ h => h
  | .array elems =>
    exact (instrumentPatterns_untyped env d elems h).map fun _ h => h
  | .default left right =>
    exact (left.instrument_untyped env d h.left).bind fun _ hleft =>
      (right.instrument_untyped env d h.right).map fun _ hright => both hleft hright
  | .rest inner =>
    exact (inner.instrument_untyped env d h).map fun _ h => h

theorem PatternProp.instrument_untyped (env : Environment) (d : Nat) (p : PatternProp)
    (h : Fits d p.nesting) :
    Keeps (AtDepth d) (p.instrument cx env) (·.untyped = p.checksUntyped cx env) := by
  match p with
  | .keyValue key value shorthand =>
    exact (key.instrument_untyped env d h.left).bind fun _ hkey =>
      (value.instrument_untyped env d h.right).map fun _ hvalue => both hkey hvalue
  | .rest inner =>
    exact (inner.instrument_untyped env d h).map fun _ h => h

theorem instrumentPatternProps_untyped (env : Environment) (d : Nat) (ps : List PatternProp)
    (h : Fits d (patternPropsNesting ps)) :
    Keeps (AtDepth d) (instrumentPatternProps cx env ps)
      (patternPropsUntyped · = patternPropsCheckUntyped cx env ps) := by
  match ps with
  | [] => exact .pure rfl
  | p :: ps =>
    exact (p.instrument_untyped env d h.left).bind fun _ hp =>
      (instrumentPatternProps_untyped env d ps h.right).map fun _ hps => both hp hps

theorem instrumentPatterns_untyped (env : Environment) (d : Nat) (ps : List (Option Pattern))
    (h : Fits d (patternsNesting ps)) :
    Keeps (AtDepth d) (instrumentPatterns cx env ps)
      (patternsUntyped · = patternsCheckUntyped cx env ps) := by
  match ps with
  | [] => exact .pure rfl
  | some p :: ps =>
    exact (p.instrument_untyped env d h.left).bind fun _ hp =>
      (instrumentPatterns_untyped env d ps h.right).map fun _ hps => both hp hps
  | none :: ps =>
    exact (instrumentPatterns_untyped env d ps h).map fun _ hps => hps

theorem instrumentParams_untyped (env : Environment) (span : Span) (d : Nat) (ps : List Param)
    (h : Fits d (paramsNesting ps)) :
    Keeps (AtDepth d) (instrumentParams cx env span ps) fun (params, checks) =>
      (paramsUntyped params && stmtsUntyped checks) = paramsCheckUntyped cx env ps := by
  match ps with
  | [] => exact .pure rfl
  | ⟨pattern, type, optional⟩ :: ps =>
    refine (keeps_recordUntyped d pattern).bind fun _ _ =>
      (pattern.instrument_untyped env d h.left).bind fun _ hpattern =>
        (Setting.checkParam_untyped env span _).bind fun _ hcheck =>
          (instrumentParams_untyped env span d ps h.right).bind fun (params, checks) hps =>
            .pure ?_
    show (_ && true && true && paramsUntyped params && stmtsUntyped _) =
      (pattern.checksUntyped cx env && Param.checkUntyped cx _ && paramsCheckUntyped cx env ps)
    rw [stmtsUntyped_append, hpattern, hcheck, ← hps, Bool.and_true, Bool.and_true]
    ac_rfl

theorem FunctionBody.instrument_untyped (env : Environment) (d : Nat) (body : FunctionBody)
    (h : Fits d body.nesting) :
    Keeps (AtDepth d) (body.instrument cx env) (·.untyped = body.checksUntyped cx env) := by
  match body with
  | .block stmts =>
    exact (keeps_recordNames d _).bind fun _ _ =>
      (statementList_untyped (instrumentEach_untyped env d stmts h)).map fun _ h => h
  | .expr value =>
    exact (value.instrument_untyped env d h).map fun _ h => h

theorem Function.instrument_untyped (env : Environment) (d : Nat) (func : Function)
    (h : Fits d func.nesting) :
    Keeps (AtDepth d) (func.instrument cx env) (·.untyped = func.checksUntyped cx env) := by
  match func with
  | ⟨id, params, body, returnType, typeParams, isAsync, isArrow, isGenerator, span⟩ =>
    refine .inScope <| (instrumentParams_untyped (env.child typeParams) span d params h.left).bind
      fun (visited, checks) hparams =>
        (body.instrument_untyped (env.child typeParams) d h.right).bind fun _ hbody =>
        (Setting.returnCheck_isSome (env.child typeParams) span isAsync isGenerator returnType).bind
        fun check _ => (Setting.checkedBody_untyped isArrow isAsync checks check _).map
        fun _ hchecked => ?_
    show (paramsUntyped visited && _ && true && true) =
      (paramsCheckUntyped cx (env.child typeParams) params && body.checksUntyped cx _)
    rw [hchecked, hbody, ← hparams, Bool.and_true, Bool.and_true, Bool.and_assoc]

theorem ClassMember.instrument_untyped (env : Environment) (d : Nat) (m : ClassMember)
    (h : Fits d m.nesting) :
    Keeps (AtDepth d) (m.instrument cx env) (·.untyped = m.checksUntyped cx env) := by
  match m with
  | .method key kind isStatic func =>
    exact (key.instrument_untyped env d h.left).bind fun _ hkey =>
      (func.instrument_untyped env d h.right).map fun _ hfunc => both hkey hfunc
  | .property key type value isStatic =>
    refine (key.instrument_untyped env d h.left).bind fun visited hkey =>
      (instrumentOptExpr_untyped env d value h.right).map fun _ hvalue => both ?_ hvalue
    show (visited.untyped && true) = key.checksUntyped cx env
    rw [Bool.and_true, hkey]

theorem instrumentMembers_untyped (env : Environment) (d : Nat) (ms : List ClassMember)
    (h : Fits d (membersNesting ms)) :
    Keeps (AtDepth d) (instrumentMembers cx env ms)
      (membersUntyped · = membersCheckUntyped cx env ms) := by
  match ms with
  | [] => exact .pure rfl
  | m :: ms =>
    exact (m.instrument_untyped env d h.left).bind fun _ hm =>
      (instrumentMembers_untyped env d ms h.right).map fun _ hms => both hm hms

theorem Class.instrument_untyped (env : Environment) (d : Nat) (decl : Class)
    (h : Fits d decl.nesting) :
    Keeps (AtDepth d) (decl.instrument cx env) (·.untyped = decl.checksUntyped cx env) := by
  match decl with
  | ⟨id, superClass, typeParams, body, span⟩ =>
    refine (instrumentOptExpr_untyped (env.child typeParams) d superClass h.left).bind
      fun visited hsuper => (instrumentMembers_untyped (env.child typeParams) d body h.right).map
        fun _ hbody => both ?_ hbody
    show (optExprUntyped visited && true) =
      optExprChecksUntyped cx (env.child typeParams) superClass
    rw [Bool.and_true, hsuper]

theorem instrumentDeclarators_untyped (env : Environment) (kind : VarKind) (declSpan : Span)
    (d : Nat) (ds : List Declarator) (h : Fits d (declaratorsNesting ds)) :
    Keeps (AtDepth d) (instrumentDeclarators cx env kind declSpan ds)
      (declaratorsUntyped · = declaratorsCheckUntyped cx env ds) := by
  match ds with
  | [] => exact .pure rfl
  | ⟨id, type, init, span⟩ :: ds =>
    refine (instrumentOptExpr_untyped env d init h.right.left).bind fun _ hinit =>
      (id.instrument_untyped env d h.left).bind fun visited hid =>
        (Setting.checkDeclared_untyped env kind _ _ type id.label _).bind fun _ hchecked =>
          (instrumentDeclarators_untyped env kind declSpan d ds h.right.right).map fun _ hds =>
            both (both ?_ (hchecked.trans hinit)) hds
    show (visited.untyped && true) = id.checksUntyped cx env
    rw [Bool.and_true, hid]

theorem VarDecl.instrument_untyped (env : Environment) (d : Nat) (decl : VarDecl)
    (h : Fits d decl.nesting) :
    Keeps (AtDepth d) (decl.instrument cx env) (·.untyped = decl.checksUntyped cx env) := by
  match decl with
  | ⟨kind, declarators, span⟩ =>
    exact (instrumentDeclarators_untyped env kind span d declarators h).map
      fun _ h => h

theorem ForInit.instrument_untyped (env : Environment) (d : Nat) (i : ForInit)
    (h : Fits d i.nesting) :
    Keeps (AtDepth d) (i.instrument cx env) (·.untyped = i.checksUntyped cx env) := by
  match i with
  | .varDecl decl =>
    exact (decl.instrument_untyped env d h).map fun _ h => h
  | .expr value =>
    exact (value.instrument_untyped env d h).map fun _ h => h

theorem instrumentForInit_untyped (env : Environment) (d : Nat) (i : Option ForInit)
    (h : Fits d (optForInitNesting i)) :
    Keeps (AtDepth d) (instrumentForInit cx env i)
      (optForInitUntyped · = optForInitChecksUntyped cx env i) := by
  match i with
  | some i =>
    exact (i.instrument_untyped env d h).map fun _ h => h
  | none => exact .pure rfl

theorem ForHead.instrument_untyped (env : Environment) (d : Nat) (head : ForHead)
    (h : Fits d head.nesting) :
    Keeps (AtDepth d) (head.instrument cx env) (·.untyped = head.checksUntyped cx env) := by
  match head with
  | .varDecl decl =>
    exact (decl.instrument_untyped env d h).map fun _ h => h
  | .target target =>
    exact (target.instrument_untyped env d h).map fun _ h => h

theorem instrumentHandler_untyped (env : Environment) (d : Nat) (handler : Option CatchClause)
    (h : Fits d (handlerNesting handler)) :
    Keeps (AtDepth d) (instrumentHandler cx env handler)
      (handlerUntyped · = handlerChecksUntyped cx env handler) := by
  match handler with
  | some ⟨some param, stmts⟩ =>
    exact .inScope <| (keeps_recordUntyped d param).bind fun _ _ =>
      (param.instrument_untyped env d h.left).bind fun _ hparam =>
        (statementList_untyped (instrumentEach_untyped env d stmts h.right)).map fun _ hstmts =>
          both hparam hstmts
  | some ⟨none, stmts⟩ =>
    exact .inScope <|
      (statementList_untyped (instrumentEach_untyped env d stmts h)).map fun _ h => h
  | none => exact .pure rfl

theorem instrumentFinalizer_untyped (env : Environment) (d : Nat) (finalizer : Option (List Stmt))
    (h : Fits d (finalizerNesting finalizer)) :
    Keeps (AtDepth d) (instrumentFinalizer cx env finalizer)
      (finalizerUntyped · = finalizerChecksUntyped cx env finalizer) := by
  match finalizer with
  | some stmts =>
    exact (statementList_untyped (instrumentEach_untyped env d stmts h)).inScope.map
      fun _ h => h
  | none => exact .pure rfl

theorem instrumentCases_untyped (env : Environment) (d : Nat) (cs : List SwitchCase)
    (h : Fits d (casesNesting cs)) :
    Keeps (AtDepth d) (instrumentCases cx env cs)
      (casesUntyped · = casesCheckUntyped cx env cs) := by
  match cs with
  | [] => exact .pure rfl
  | ⟨test, stmts⟩ :: cs =>
    exact (instrumentOptExpr_untyped env d test h.left).bind fun _ htest =>
      (statementList_untyped (instrumentEach_untyped env d stmts h.right.left)).bind fun _ hstmts =>
        (instrumentCases_untyped env d cs h.right.right).map fun _ hcs =>
          both (both htest hstmts) hcs

theorem instrumentEach_untyped (env : Environment) (d : Nat) (ss : List Stmt)
    (h : Fits d (stmtsNesting ss)) :
    Keeps (AtDepth d) (instrumentEach cx env ss)
      (visitedUntyped · = stmtsCheckUntyped cx env ss) := by
  match ss with
  | [] => exact .pure rfl
  | s :: ss =>
    exact (noticing_untyped (s.instrument_untyped env d h.left)).bind fun _ hs =>
      (instrumentEach_untyped env d ss h.right).map fun _ hss =>
        (visitedUntyped_cons _ _).trans (both hs hss)

theorem instrumentAlternate_untyped (env : Environment) (d : Nat) (s : Option Stmt)
    (h : Fits d (optStmtNesting s)) :
    Keeps (AtDepth d) (instrumentAlternate cx env s)
      (optStmtUntyped · = optStmtChecksUntyped cx env s) := by
  match s with
  | some s =>
    exact (s.instrument_untyped env d h).map fun _ h => orEmptyBlock_untyped h
  | none => exact .pure rfl

/-- What is left of a visited statement is free of static types exactly where the checks within it
are. -/
theorem Stmt.instrument_untyped (env : Environment) (d : Nat) (s : Stmt)
    (h : Fits d s.nesting) :
    Keeps (AtDepth d) (s.instrument cx env) (optStmtUntyped · = s.checksUntyped cx env) := by
  match s with
  | .expr value =>
    exact .nested h.lt <| (value.instrument_untyped env _ h.inner).map fun _ h => h
  | .varDecl decl =>
    exact .nested h.lt <| (decl.instrument_untyped env _ h.inner).map fun _ h => h
  | .function func =>
    exact .nested h.lt <| (func.instrument_untyped env _ h.inner).map fun _ h => h
  | .class decl =>
    exact .nested h.lt <| (decl.instrument_untyped env _ h.inner).map fun _ h => h
  | .ret arg =>
    exact .nested h.lt <| (instrumentOptExpr_untyped env _ arg h.inner).map fun _ h => h
  | .ifElse test consequent alternate =>
    exact .nested h.lt <| (test.instrument_untyped env _ h.inner.left).bind fun _ htest =>
      (consequent.instrument_untyped env _ h.inner.right.left).bind fun _ hthen =>
        (instrumentAlternate_untyped env _ alternate h.inner.right.right).map fun _ helse =>
          both (both htest (orEmptyBlock_untyped hthen)) helse
  | .block stmts =>
    exact .nested h.lt <|
      (statementList_untyped (instrumentEach_untyped env _ stmts h.inner)).inScope.map
        fun _ h => h
  | .throw arg =>
    exact .nested h.lt <| (arg.instrument_untyped env _ h.inner).map fun _ h => h
  | .forLoop init test update body =>
    exact .nested h.lt <| .inScope <|
      (instrumentForInit_untyped env _ init h.inner.left).bind fun _ hinit =>
        (instrumentOptExpr_untyped env _ test h.inner.right.left).bind fun _ htest =>
          (instrumentOptExpr_untyped env _ update h.inner.right.right.left).bind fun _ hupdate =>
            (body.instrument_untyped env _ h.inner.right.right.right).map fun _ hbody =>
              both (both (both hinit htest) hupdate) (orEmptyBlock_untyped hbody)
  | .forIn left right body =>
    exact .nested h.lt <| (right.instrument_untyped env _ h.inner.right.left).bind fun _ hright =>
      .inScope <| (left.instrument_untyped env _ h.inner.left).bind fun _ hleft =>
        (body.instrument_untyped env _ h.inner.right.right).map fun _ hbody =>
          both (both hleft hright) (orEmptyBlock_untyped hbody)
  | .forOf left right body isAwait =>
    exact .nested h.lt <| (right.instrument_untyped env _ h.inner.right.left).bind fun _ hright =>
      .inScope <| (left.instrument_untyped env _ h.inner.left).bind fun _ hleft =>
        (body.instrument_untyped env _ h.inner.right.right).map fun _ hbody =>
          both (both hleft hright) (orEmptyBlock_untyped hbody)
  | .while test body =>
    exact .nested h.lt <| (test.instrument_untyped env _ h.inner.left).bind fun _ htest =>
      (body.instrument_untyped env _ h.inner.right).map fun _ hbody =>
        both htest (orEmptyBlock_untyped hbody)
  | .doWhile body test =>
    exact .nested h.lt <| (body.instrument_untyped env _ h.inner.left).bind fun _ hbody =>
      (test.instrument_untyped env _ h.inner.right).map fun _ htest =>
        both (orEmptyBlock_untyped hbody) htest
  | .tryCatch stmts handler finalizer =>
    exact .nested h.lt <|
      (statementList_untyped (instrumentEach_untyped env _ stmts h.inner.left)).inScope.bind
        fun _ hstmts => (instrumentHandler_untyped env _ handler h.inner.right.left).bind
          fun _ hhandler => (instrumentFinalizer_untyped env _ finalizer h.inner.right.right).map
            fun _ hfinalizer => both (both hstmts hhandler) hfinalizer
  | .switch discriminant cases =>
    exact .nested h.lt <|
      (discriminant.instrument_untyped env _ h.inner.left).bind fun _ hdiscriminant =>
        (instrumentCases_untyped env _ cases h.inner.right).inScope.map fun _ hcases =>
          both hdiscriminant hcases
  | .labeled label body =>
    exact .nested h.lt <| (body.instrument_untyped env _ h.inner).map fun _ h =>
      orEmptyBlock_untyped h
  | .break _ | .continue _ | .empty =>
    exact .nested h.lt (.pure rfl)
  | .typeAlias decl =>
    exact .nested h.lt <| (Setting.declareAlias_untyped env decl).map fun _ h => h
  | .interface decl =>
    exact .nested h.lt <| (Setting.declareInterface_untyped env decl).map fun _ h => h
  | .import decl => exact .nested h.lt (.pure decl.toValue?_untyped)
  | .export (some declaration) specifiers source kind =>
    refine .nested h.lt <|
      (declaration.instrument_untyped env _ h.inner).bind fun visited hvisited => ?_
    cases visited with
    | some visited => exact .pure ((Bool.and_true _).trans hvisited)
    | none => exact .pure hvisited
  | .export none specifiers source kind =>
    exact .nested h.lt (.pure rfl)
  | .exportDefault value =>
    exact .nested h.lt <| (value.instrument_untyped env _ h.inner).map fun _ h => h
end

end TypeGuard
