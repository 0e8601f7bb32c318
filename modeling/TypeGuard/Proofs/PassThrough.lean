import TypeGuard.Proofs.PassThrough.Check

/-!
# Plain units pass through

A unit without annotations, casts and type declarations comes out as it went in: every plain tree is
visited without a failure and left as it is, whether or not the greatest depth is reached, and
nothing is put around the statements of the unit. The induction follows the visit, with one
statement for every kind of tree.
-/

namespace TypeGuard

open Visit Instrumentation

variable (cx : Setting)

mutual
/-- The visit of a plain expression returns the expression. -/
theorem Expr.instrument_returns (env : Environment) (e : Expr) (h : e.all .plain = true) :
    Returns (e.instrument cx env) e := by
  match e with
  | .ident _ | .this | .super | .null | .bool _ | .num _ | .str _ | .regex _ _ =>
    exact .nested (.pure _)
  | .template quasis exprs =>
    replace h := Bool.and_eq_true_iff.mp h
    exact .nested (instrumentExprs_returns env exprs h.2).map
  | .taggedTemplate tag quasis exprs =>
    replace h := Bool.and_eq_true_iff.mp h
    simp only [Bool.and_eq_true] at h
    obtain ⟨-, htag, hexprs⟩ := h
    exact .nested <| (tag.instrument_returns env htag).bind
      (instrumentExprs_returns env exprs hexprs).map
  | .array elems =>
    replace h := Bool.and_eq_true_iff.mp h
    exact .nested (instrumentElems_returns env elems h.2).map
  | .object props =>
    replace h := Bool.and_eq_true_iff.mp h
    exact .nested (instrumentProps_returns env props h.2).map
  | .function func =>
    replace h := Bool.and_eq_true_iff.mp h
    exact .nested (func.instrument_returns env h.2).map
  | .class decl =>
    replace h := Bool.and_eq_true_iff.mp h
    exact .nested (decl.instrument_returns env h.2).map
  | .member obj name =>
    replace h := Bool.and_eq_true_iff.mp h
    exact .nested (obj.instrument_returns env h.2).map
  | .index obj key =>
    replace h := Bool.and_eq_true_iff.mp h
    simp only [Bool.and_eq_true] at h
    obtain ⟨-, hobj, hkey⟩ := h
    exact .nested <| (obj.instrument_returns env hobj).bind (key.instrument_returns env hkey).map
  | .call callee args =>
    replace h := Bool.and_eq_true_iff.mp h
    simp only [Bool.and_eq_true] at h
    obtain ⟨-, hcallee, hargs⟩ := h
    exact .nested <| (callee.instrument_returns env hcallee).bind
      (instrumentExprs_returns env args hargs).map
  | .new callee args =>
    replace h := Bool.and_eq_true_iff.mp h
    simp only [Bool.and_eq_true] at h
    obtain ⟨-, hcallee, hargs⟩ := h
    exact .nested <| (callee.instrument_returns env hcallee).bind
      (instrumentExprs_returns env args hargs).map
  | .unary op arg =>
    replace h := Bool.and_eq_true_iff.mp h
    exact .nested (arg.instrument_returns env h.2).map
  | .update op isPrefix arg =>
    replace h := Bool.and_eq_true_iff.mp h
    exact .nested (arg.instrument_returns env h.2).map
  | .binary op left right =>
    replace h := Bool.and_eq_true_iff.mp h
    simp only [Bool.and_eq_true] at h
    obtain ⟨-, hleft, hright⟩ := h
    exact .nested <| (left.instrument_returns env hleft).bind
      (right.instrument_returns env hright).map
  | .conditional test consequent alternate =>
    replace h := Bool.and_eq_true_iff.mp h
    simp only [Bool.and_eq_true] at h
    obtain ⟨-, htest, hthen, helse⟩ := h
    exact .nested <| (test.instrument_returns env htest).bind <|
      (consequent.instrument_returns env hthen).bind (alternate.instrument_returns env helse).map
  | .assign op target value span =>
    replace h := Bool.and_eq_true_iff.mp h
    simp only [Bool.and_eq_true] at h
    obtain ⟨-, htarget, hvalue⟩ := h
    exact .nested <| (value.instrument_returns env hvalue).bind <|
      (target.instrument_returns env htarget).bind
        (cx.checkAssigned_returns env span op target value).map
  | .seq exprs =>
    replace h := Bool.and_eq_true_iff.mp h
    exact .nested (instrumentExprs_returns env exprs h.2).map
  | .spread arg =>
    replace h := Bool.and_eq_true_iff.mp h
    exact .nested (arg.instrument_returns env h.2).map
  | .await arg =>
    replace h := Bool.and_eq_true_iff.mp h
    exact .nested (arg.instrument_returns env h.2).map
  | .yield arg delegate =>
    replace h := Bool.and_eq_true_iff.mp h
    exact .nested (instrumentOptExpr_returns env arg h.2).map
  | .paren inner =>
    replace h := Bool.and_eq_true_iff.mp h
    exact .nested (inner.instrument_returns env h.2).map
  | .cast inner type optional span =>
    simp [Expr.all, NodeTest.plain] at h

theorem instrumentExprs_returns (env : Environment) (es : List Expr)
    (h : exprsAll .plain es = true) : Returns (instrumentExprs cx env es) es := by
  match es with
  | [] => exact .pure []
  | e :: es =>
    replace h := Bool.and_eq_true_iff.mp h
    exact (e.instrument_returns env h.1).bind (instrumentExprs_returns env es h.2).map

theorem instrumentOptExpr_returns (env : Environment) (e : Option Expr)
    (h : optExprAll .plain e = true) : Returns (instrumentOptExpr cx env e) e := by
  match e with
  | some e => exact (e.instrument_returns env h).map
  | none => exact .pure none

theorem instrumentElems_returns (env : Environment) (es : List (Option Expr))
    (h : elemsAll .plain es = true) : Returns (instrumentElems cx env es) es := by
  match es with
  | [] => exact .pure []
  | some e :: es =>
    replace h := Bool.and_eq_true_iff.mp h
    exact (e.instrument_returns env h.1).bind (instrumentElems_returns env es h.2).map
  | none :: es => exact (instrumentElems_returns env es h).map

theorem PropKey.instrument_returns (env : Environment) (key : PropKey)
    (h : key.all .plain = true) : Returns (key.instrument cx env) key := by
  match key with
  | .computed e => exact (e.instrument_returns env h).map
  | .ident _ | .str _ | .num _ => exact .pure _

theorem ObjectProp.instrument_returns (env : Environment) (p : ObjectProp)
    (h : p.all .plain = true) : Returns (p.instrument cx env) p := by
  match p with
  | .keyValue key value shorthand =>
    replace h := Bool.and_eq_true_iff.mp h
    exact (key.instrument_returns env h.1).bind (value.instrument_returns env h.2).map
  | .method key func =>
    replace h := Bool.and_eq_true_iff.mp h
    exact (key.instrument_returns env h.1).bind (func.instrument_returns env h.2).map
  | .spread arg => exact (arg.instrument_returns env h).map

theorem instrumentProps_returns (env : Environment) (ps : List ObjectProp)
    (h : objectPropsAll .plain ps = true) : Returns (instrumentProps cx env ps) ps := by
  match ps with
  | [] => exact .pure []
  | p :: ps =>
    replace h := Bool.and_eq_true_iff.mp h
    exact (p.instrument_returns env h.1).bind (instrumentProps_returns env ps h.2).map

theorem AssignTarget.instrument_returns (env : Environment) (target : AssignTarget)
    (h : target.all .plain = true) : Returns (target.instrument cx env) target := by
  match target with
  | .pattern p => exact (p.instrument_returns env h).map
  | .expr e => exact (e.instrument_returns env h).map

theorem Pattern.instrument_returns (env : Environment) (p : Pattern) (h : p.all .plain = true) :
    Returns (p.instrument cx env) p := by
  match p with
  | .ident name => exact .pure _
  | .object props => exact (instrumentPatternProps_returns env props h).map
  | .array elems => exact (instrumentPatterns_returns env elems h).map
  | .default left right =>
    replace h := Bool.and_eq_true_iff.mp h
    exact (left.instrument_returns env h.1).bind (right.instrument_returns env h.2).map
  | .rest inner => exact (inner.instrument_returns env h).map

theorem PatternProp.instrument_returns (env : Environment) (p : PatternProp)
    (h : p.all .plain = true) : Returns (p.instrument cx env) p := by
  match p with
  | .keyValue key value shorthand =>
    replace h := Bool.and_eq_true_iff.mp h
    exact (key.instrument_returns env h.1).bind (value.instrument_returns env h.2).map
  | .rest inner => exact (inner.instrument_returns env h).map

theorem instrumentPatternProps_returns (env : Environment) (ps : List PatternProp)
    (h : patternPropsAll .plain ps = true) : Returns (instrumentPatternProps cx env ps) ps := by
  match ps with
  | [] => exact .pure []
  | p :: ps =>
    replace h := Bool.and_eq_true_iff.mp h
    exact (p.instrument_returns env h.1).bind (instrumentPatternProps_returns env ps h.2).map

theorem instrumentPatterns_returns (env : Environment) (ps : List (Option Pattern))
    (h : patternsAll .plain ps = true) : Returns (instrumentPatterns cx env ps) ps := by
  match ps with
  | [] => exact .pure []
  | some p :: ps =>
    replace h := Bool.and_eq_true_iff.mp h
    exact (p.instrument_returns env h.1).bind (instrumentPatterns_returns env ps h.2).map
  | none :: ps => exact (instrumentPatterns_returns env ps h).map

/-- A plain parameter has no check. -/
theorem instrumentParams_returns (env : Environment) (span : Span) (ps : List Param)
    (h : paramsAll .plain ps = true) : Returns (instrumentParams cx env span ps) (ps, []) := by
  match ps with
  | [] => exact .pure ([], [])
  | ⟨pattern, type, optional⟩ :: ps =>
    simp only [paramsAll, Param.all, NodeTest.plain, Bool.and_eq_true, Bool.not_eq_true',
      Option.isNone_iff_eq_none] at h
    obtain ⟨⟨⟨rfl, rfl⟩, hpattern⟩, hps⟩ := h
    exact (returns_recordUntyped pattern).bind <| (pattern.instrument_returns env hpattern).bind <|
      .bind (.pure []) <| (instrumentParams_returns env span ps hps).bind (.pure _)

theorem FunctionBody.instrument_returns (env : Environment) (body : FunctionBody)
    (h : body.all .plain = true) : Returns (body.instrument cx env) body := by
  match body with
  | .block stmts =>
    exact (returns_recordNames _).bind
      (statementList_returns (instrumentEach_returns env stmts h)).map
  | .expr value => exact (value.instrument_returns env h).map

/-- A plain function has no check in front of its body or around it. -/
theorem Function.instrument_returns (env : Environment) (func : Function)
    (h : func.all .plain = true) : Returns (func.instrument cx env) func := by
  match func with
  | ⟨id, params, body, returnType, typeParams, isAsync, isArrow, isGenerator, span⟩ =>
    simp only [Function.all, NodeTest.plain, Bool.and_eq_true, Option.isNone_iff_eq_none,
      List.isEmpty_iff] at h
    obtain ⟨⟨rfl, rfl⟩, hparams, hbody⟩ := h
    refine .inScope <| (instrumentParams_returns (env.child []) span params hparams).bind <|
      (body.instrument_returns (env.child []) hbody).bind <| .bind (a := none) (.pure none) <|
        .bind (a := body) (.pure body) ?_
    rw [Option.isNone_none, Bool.and_true]
    exact .pure _

theorem ClassMember.instrument_returns (env : Environment) (m : ClassMember)
    (h : m.all .plain = true) : Returns (m.instrument cx env) m := by
  match m with
  | .method key kind isStatic func =>
    replace h := Bool.and_eq_true_iff.mp h
    simp only [Bool.and_eq_true] at h
    obtain ⟨-, hkey, hfunc⟩ := h
    exact (key.instrument_returns env hkey).bind (func.instrument_returns env hfunc).map
  | .property key type value isStatic =>
    simp only [ClassMember.all, NodeTest.plain, Bool.and_eq_true, Option.isNone_iff_eq_none] at h
    obtain ⟨rfl, hkey, hvalue⟩ := h
    exact (key.instrument_returns env hkey).bind (instrumentOptExpr_returns env value hvalue).map

theorem instrumentMembers_returns (env : Environment) (ms : List ClassMember)
    (h : membersAll .plain ms = true) : Returns (instrumentMembers cx env ms) ms := by
  match ms with
  | [] => exact .pure []
  | m :: ms =>
    replace h := Bool.and_eq_true_iff.mp h
    exact (m.instrument_returns env h.1).bind (instrumentMembers_returns env ms h.2).map

theorem Class.instrument_returns (env : Environment) (decl : Class) (h : decl.all .plain = true) :
    Returns (decl.instrument cx env) decl := by
  match decl with
  | ⟨id, superClass, typeParams, body, span⟩ =>
    simp only [Class.all, NodeTest.plain, Bool.and_eq_true, List.isEmpty_iff] at h
    obtain ⟨rfl, hsuper, hbody⟩ := h
    exact (instrumentOptExpr_returns (env.child []) superClass hsuper).bind
      (instrumentMembers_returns (env.child []) body hbody).map

/-- Plain declarators have no type, so nothing is recorded for their names and no value is
checked. -/
theorem instrumentDeclarators_returns (env : Environment) (kind : VarKind) (declSpan : Span)
    (ds : List Declarator) (h : declaratorsAll .plain ds = true) :
    Returns (instrumentDeclarators cx env kind declSpan ds) ds := by
  match ds with
  | [] => exact .pure []
  | ⟨id, type, init, span⟩ :: ds =>
    simp only [declaratorsAll, Declarator.all, NodeTest.plain, Bool.and_eq_true,
      Option.isNone_iff_eq_none] at h
    obtain ⟨⟨rfl, hid, hinit⟩, hds⟩ := h
    exact (instrumentOptExpr_returns env init hinit).bind <| (id.instrument_returns env hid).bind <|
      (cx.checkDeclared_returns env _ kind id id.label init).bind
        (instrumentDeclarators_returns env kind declSpan ds hds).map

theorem VarDecl.instrument_returns (env : Environment) (decl : VarDecl)
    (h : decl.all .plain = true) : Returns (decl.instrument cx env) decl := by
  match decl with
  | ⟨kind, declarators, span⟩ =>
    exact (instrumentDeclarators_returns env kind span declarators h).map

theorem ForInit.instrument_returns (env : Environment) (i : ForInit) (h : i.all .plain = true) :
    Returns (i.instrument cx env) i := by
  match i with
  | .varDecl decl => exact (decl.instrument_returns env h).map
  | .expr value => exact (value.instrument_returns env h).map

theorem instrumentForInit_returns (env : Environment) (i : Option ForInit)
    (h : optForInitAll .plain i = true) : Returns (instrumentForInit cx env i) i := by
  match i with
  | some i => exact (i.instrument_returns env h).map
  | none => exact .pure none

theorem ForHead.instrument_returns (env : Environment) (head : ForHead)
    (h : head.all .plain = true) : Returns (head.instrument cx env) head := by
  match head with
  | .varDecl decl => exact (decl.instrument_returns env h).map
  | .target target => exact (target.instrument_returns env h).map

theorem instrumentHandler_returns (env : Environment) (handler : Option CatchClause)
    (h : handlerAll .plain handler = true) :
    Returns (instrumentHandler cx env handler) handler := by
  match handler with
  | some ⟨some param, stmts⟩ =>
    replace h := Bool.and_eq_true_iff.mp h
    exact .inScope <| (returns_recordUntyped param).bind <| (param.instrument_returns env h.1).bind
      (statementList_returns (instrumentEach_returns env stmts h.2)).map
  | some ⟨none, stmts⟩ =>
    exact .inScope (statementList_returns (instrumentEach_returns env stmts h)).map
  | none => exact .pure none

theorem instrumentFinalizer_returns (env : Environment) (finalizer : Option (List Stmt))
    (h : optStmtsAll .plain finalizer = true) :
    Returns (instrumentFinalizer cx env finalizer) finalizer := by
  match finalizer with
  | some stmts => exact (statementList_returns (instrumentEach_returns env stmts h)).inScope.map
  | none => exact .pure none

theorem instrumentCases_returns (env : Environment) (cs : List SwitchCase)
    (h : casesAll .plain cs = true) : Returns (instrumentCases cx env cs) cs := by
  match cs with
  | [] => exact .pure []
  | ⟨test, stmts⟩ :: cs =>
    replace h := Bool.and_eq_true_iff.mp h
    simp only [Bool.and_eq_true] at h
    obtain ⟨htest, hstmts, hcs⟩ := h
    exact (instrumentOptExpr_returns env test htest).bind <|
      (statementList_returns (instrumentEach_returns env stmts hstmts)).bind
        (instrumentCases_returns env cs hcs).map

/-- Every plain statement of a list is kept. -/
theorem instrumentEach_returns (env : Environment) (ss : List Stmt)
    (h : stmtsAll .plain ss = true) : Returns (instrumentEach cx env ss) (ss.map .kept) := by
  match ss with
  | [] => exact .pure []
  | s :: ss =>
    replace h := Bool.and_eq_true_iff.mp h
    exact (noticing_returns (s.instrument_returns env h.1)).bind
      (instrumentEach_returns env ss h.2).map

theorem instrumentAlternate_returns (env : Environment) (s : Option Stmt)
    (h : optStmtAll .plain s = true) : Returns (instrumentAlternate cx env s) s := by
  match s with
  | some s => exact (s.instrument_returns env h).map
  | none => exact .pure none

/-- The visit of a plain statement returns the statement. -/
theorem Stmt.instrument_returns (env : Environment) (s : Stmt) (h : s.all .plain = true) :
    Returns (s.instrument cx env) (some s) := by
  match s with
  | .expr value =>
    replace h := Bool.and_eq_true_iff.mp h
    exact .nested (value.instrument_returns env h.2).map
  | .varDecl decl =>
    replace h := Bool.and_eq_true_iff.mp h
    exact .nested (decl.instrument_returns env h.2).map
  | .function func =>
    replace h := Bool.and_eq_true_iff.mp h
    exact .nested (func.instrument_returns env h.2).map
  | .class decl =>
    replace h := Bool.and_eq_true_iff.mp h
    exact .nested (decl.instrument_returns env h.2).map
  | .ret arg =>
    replace h := Bool.and_eq_true_iff.mp h
    exact .nested (instrumentOptExpr_returns env arg h.2).map
  | .ifElse test consequent alternate =>
    replace h := Bool.and_eq_true_iff.mp h
    simp only [Bool.and_eq_true] at h
    obtain ⟨-, htest, hthen, helse⟩ := h
    exact .nested <| (test.instrument_returns env htest).bind <|
      (consequent.instrument_returns env hthen).bind
        (instrumentAlternate_returns env alternate helse).map
  | .block stmts =>
    replace h := Bool.and_eq_true_iff.mp h
    exact .nested (statementList_returns (instrumentEach_returns env stmts h.2)).inScope.map
  | .throw arg =>
    replace h := Bool.and_eq_true_iff.mp h
    exact .nested (arg.instrument_returns env h.2).map
  | .forLoop init test update body =>
    replace h := Bool.and_eq_true_iff.mp h
    simp only [Bool.and_eq_true] at h
    obtain ⟨-, hinit, htest, hupdate, hbody⟩ := h
    exact .nested <| .inScope <| (instrumentForInit_returns env init hinit).bind <|
      (instrumentOptExpr_returns env test htest).bind <|
        (instrumentOptExpr_returns env update hupdate).bind (body.instrument_returns env hbody).map
  | .forIn left right body =>
    replace h := Bool.and_eq_true_iff.mp h
    simp only [Bool.and_eq_true] at h
    obtain ⟨-, hleft, hright, hbody⟩ := h
    exact .nested <| (right.instrument_returns env hright).bind <| .inScope <|
      (left.instrument_returns env hleft).bind (body.instrument_returns env hbody).map
  | .forOf left right body isAwait =>
    replace h := Bool.and_eq_true_iff.mp h
    simp only [Bool.and_eq_true] at h
    obtain ⟨-, hleft, hright, hbody⟩ := h
    exact .nested <| (right.instrument_returns env hright).bind <| .inScope <|
      (left.instrument_returns env hleft).bind (body.instrument_returns env hbody).map
  | .while test body =>
    replace h := Bool.and_eq_true_iff.mp h
    simp only [Bool.and_eq_true] at h
    obtain ⟨-, htest, hbody⟩ := h
    exact .nested <|
      (test.instrument_returns env htest).bind (body.instrument_returns env hbody).map
  | .doWhile body test =>
    replace h := Bool.and_eq_true_iff.mp h
    simp only [Bool.and_eq_true] at h
    obtain ⟨-, hbody, htest⟩ := h
    exact .nested <|
      (body.instrument_returns env hbody).bind (test.instrument_returns env htest).map
  | .tryCatch stmts handler finalizer =>
    replace h := Bool.and_eq_true_iff.mp h
    simp only [Bool.and_eq_true] at h
    obtain ⟨-, hstmts, hhandler, hfinalizer⟩ := h
    exact .nested <|
      (statementList_returns (instrumentEach_returns env stmts hstmts)).inScope.bind <|
        (instrumentHandler_returns env handler hhandler).bind
          (instrumentFinalizer_returns env finalizer hfinalizer).map
  | .switch discriminant cases =>
    replace h := Bool.and_eq_true_iff.mp h
    simp only [Bool.and_eq_true] at h
    obtain ⟨-, hdiscriminant, hcases⟩ := h
    exact .nested <| (discriminant.instrument_returns env hdiscriminant).bind
      (instrumentCases_returns env cases hcases).inScope.map
  | .labeled label body =>
    replace h := Bool.and_eq_true_iff.mp h
    exact .nested (body.instrument_returns env h.2).map
  | .break _ | .continue _ | .empty => exact .nested (.pure _)
  | .typeAlias decl => simp [Stmt.all, NodeTest.plain] at h
  | .interface decl => simp [Stmt.all, NodeTest.plain] at h
  | .import decl =>
    simp only [Stmt.all, NodeTest.plain, Bool.and_true] at h
    refine .nested ?_
    rw [ImportDecl.toValue?_of_isPlain h]
    exact .pure _
  | .export (some declaration) specifiers source kind =>
    simp only [Stmt.all, NodeTest.plain, optStmtAll, Bool.and_eq_true, beq_iff_eq] at h
    obtain ⟨rfl, hdeclaration⟩ := h
    exact .nested <| (declaration.instrument_returns env hdeclaration).bind (.pure _)
  | .export none specifiers source kind =>
    simp only [Stmt.all, NodeTest.plain, optStmtAll, Bool.and_true, beq_iff_eq] at h
    subst h
    exact .nested (.pure _)
  | .exportDefault value =>
    replace h := Bool.and_eq_true_iff.mp h
    exact .nested (value.instrument_returns env h.2).map
end

namespace Setting

theorem visitUnit_returns (stmts : List Stmt) (h : stmtsAll .plain stmts = true) :
    Returns (cx.visitUnit stmts) stmts :=
  (returns_recordNames _).bind
    (statementList_returns (instrumentEach_returns cx cx.environment stmts h))

/-- A unit that needs nothing has nothing put around its statements. -/
theorem enclose_of_idle {s : VisitState} (h : s.Idle) (body : List Stmt) :
    cx.enclose s body = body := by
  simp [enclose, VisitState.needsImport, VisitState.needsAssertHelper, VisitState.needsExtendHelper,
    Definition.flushSince, h.pending, h.hasTypes, h.hasAsserts, h.hasExtend]

end Setting

theorem VisitState.start_idle : start.Idle where
  untyped := by
    intro scope hscope entry hentry
    rw [List.mem_singleton.mp hscope] at hentry
    cases hentry
  pending := rfl
  hasTypes := rfl
  hasAsserts := rfl
  hasExtend := rfl

namespace Program

/-- A plain unit is instrumented without a failure, and comes out as it is. -/
theorem instrument_of_plain (options : Options) {p : Program} (h : p.all .plain = true) :
    p.instrument options = .ok p := by
  obtain ⟨s, hs, hvisit⟩ :=
    (Setting.ofProgram options p).visitUnit_returns p.body h .start VisitState.start_idle
  simp only [instrument, hvisit, Setting.enclose_of_idle _ hs]

/-- The unit with `import { a } from "m";` and
```
export const f = async ({ x = a }, ...ys) => { for await (const y of ys) x = y; };
```
-/
def plainModule : Program :=
  let loop : Stmt :=
    .forOf (.varDecl ⟨.const, [⟨.ident "y", none, none, .dummy⟩], .dummy⟩) (.ident "ys")
      (.expr (.assign "=" (.pattern (.ident "x")) (.ident "y") .dummy)) true
  let params : List Param :=
    [⟨.object [.keyValue (.ident "x") (.default (.ident "x") (.ident "a")) true], none, false⟩,
      ⟨.rest (.ident "ys"), none, false⟩]
  let arrow : Function :=
    ⟨none, params, .block [loop], none, [], true, true, false, .dummy⟩
  ⟨"plainModule.js",
    [.import ⟨[.named "a" "a" none], "m", .value⟩,
      .export (some (.varDecl
        ⟨.const, [⟨.ident "f", none, some (.function arrow), .dummy⟩], .dummy⟩)) [] none .value]⟩

theorem plainModule_unchanged : plainModule.all .plain = true ∧
    plainModule.instrument .default = .ok plainModule :=
  ⟨by decide, instrument_of_plain .default (by decide)⟩

end Program

end TypeGuard
