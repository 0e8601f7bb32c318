import TypeGuard.Proofs.Confinement.Check

/-!
# Visited trees and the state around them

A visit of an expression restores the scopes and the depth, and one of a statement widens the
innermost scope at most, however it ends. The induction follows the visit.
-/

namespace TypeGuard

open Visit VisitState Instrumentation

variable (cx : Setting)

mutual
theorem Expr.instrument_restores (env : Environment) (e : Expr) :
    Ends Restores (e.instrument cx env) := by
  unfold Expr.instrument
  refine .nestedRestores ?_
  match e with
  | .ident _ | .this | .super | .null | .bool _ | .num _ | .str _ | .regex _ _ => exact .pure _
  | .template quasis exprs => exact (instrumentExprs_restore env exprs).map
  | .taggedTemplate tag quasis exprs =>
    exact (tag.instrument_restores env).bind fun _ => (instrumentExprs_restore env exprs).map
  | .array elems => exact (instrumentElems_restore env elems).map
  | .object props => exact (instrumentProps_restore env props).map
  | .function func => exact (func.instrument_restores env).map
  | .class decl => exact (decl.instrument_restores env).map
  | .member obj name => exact (obj.instrument_restores env).map
  | .index obj key =>
    exact (obj.instrument_restores env).bind fun _ => (key.instrument_restores env).map
  | .call callee args =>
    exact (callee.instrument_restores env).bind fun _ => (instrumentExprs_restore env args).map
  | .new callee args =>
    exact (callee.instrument_restores env).bind fun _ => (instrumentExprs_restore env args).map
  | .unary op arg => exact (arg.instrument_restores env).map
  | .update op isPrefix arg => exact (arg.instrument_restores env).map
  | .binary op left right =>
    exact (left.instrument_restores env).bind fun _ => (right.instrument_restores env).map
  | .conditional test consequent alternate =>
    exact (test.instrument_restores env).bind fun _ =>
      (consequent.instrument_restores env).bind fun _ => (alternate.instrument_restores env).map
  | .assign op target value span =>
    exact (value.instrument_restores env).bind fun f => (target.instrument_restores env).bind
      fun t => (cx.checkAssigned_restores env span op t f).map
  | .seq exprs => exact (instrumentExprs_restore env exprs).map
  | .spread arg => exact (arg.instrument_restores env).map
  | .await arg => exact (arg.instrument_restores env).map
  | .yield arg delegate => exact (instrumentOptExpr_restores env arg).map
  | .paren inner => exact (inner.instrument_restores env).map
  | .cast inner type optional span =>
    refine (cx.reified?_restores env span type).bind fun target? => ?_
    cases target? with
    | some target => exact .pure _
    | none =>
      refine (inner.instrument_restores env).bind fun f => ?_
      split
      · exact .pure _
      · exact cx.checkValue_restores env span f type optional _

theorem instrumentExprs_restore (env : Environment) (es : List Expr) :
    Ends Restores (instrumentExprs cx env es) := by
  match es with
  | [] => exact .pure _
  | e :: es =>
    exact (e.instrument_restores env).bind fun _ => (instrumentExprs_restore env es).map

theorem instrumentOptExpr_restores (env : Environment) (e : Option Expr) :
    Ends Restores (instrumentOptExpr cx env e) := by
  match e with
  | some e => exact (e.instrument_restores env).map
  | none => exact .pure _

theorem instrumentElems_restore (env : Environment) (es : List (Option Expr)) :
    Ends Restores (instrumentElems cx env es) := by
  match es with
  | [] => exact .pure _
  | some e :: es =>
    exact (e.instrument_restores env).bind fun _ => (instrumentElems_restore env es).map
  | none :: es => exact (instrumentElems_restore env es).map

theorem PropKey.instrument_restores (env : Environment) (key : PropKey) :
    Ends Restores (key.instrument cx env) := by
  match key with
  | .computed e => exact (e.instrument_restores env).map
  | .ident _ | .str _ | .num _ => exact .pure _

theorem ObjectProp.instrument_restores (env : Environment) (p : ObjectProp) :
    Ends Restores (p.instrument cx env) := by
  match p with
  | .keyValue key value shorthand =>
    exact (key.instrument_restores env).bind fun _ => (value.instrument_restores env).map
  | .method key func =>
    exact (key.instrument_restores env).bind fun _ => (func.instrument_restores env).map
  | .spread arg => exact (arg.instrument_restores env).map

theorem instrumentProps_restore (env : Environment) (ps : List ObjectProp) :
    Ends Restores (instrumentProps cx env ps) := by
  match ps with
  | [] => exact .pure _
  | p :: ps =>
    exact (p.instrument_restores env).bind fun _ => (instrumentProps_restore env ps).map

theorem AssignTarget.instrument_restores (env : Environment) (target : AssignTarget) :
    Ends Restores (target.instrument cx env) := by
  match target with
  | .pattern target => exact (target.instrument_restores env).map
  | .expr target => exact (target.instrument_restores env).map

theorem Pattern.instrument_restores (env : Environment) (p : Pattern) :
    Ends Restores (p.instrument cx env) := by
  match p with
  | .ident _ => exact .pure _
  | .object props => exact (instrumentPatternProps_restore env props).map
  | .array elems => exact (instrumentPatterns_restore env elems).map
  | .default left right =>
    exact (left.instrument_restores env).bind fun _ => (right.instrument_restores env).map
  | .rest inner => exact (inner.instrument_restores env).map

theorem PatternProp.instrument_restores (env : Environment) (p : PatternProp) :
    Ends Restores (p.instrument cx env) := by
  match p with
  | .keyValue key value shorthand =>
    exact (key.instrument_restores env).bind fun _ => (value.instrument_restores env).map
  | .rest inner => exact (inner.instrument_restores env).map

theorem instrumentPatternProps_restore (env : Environment) (ps : List PatternProp) :
    Ends Restores (instrumentPatternProps cx env ps) := by
  match ps with
  | [] => exact .pure _
  | p :: ps =>
    exact (p.instrument_restores env).bind fun _ => (instrumentPatternProps_restore env ps).map

theorem instrumentPatterns_restore (env : Environment) (ps : List (Option Pattern)) :
    Ends Restores (instrumentPatterns cx env ps) := by
  match ps with
  | [] => exact .pure _
  | some p :: ps =>
    exact (p.instrument_restores env).bind fun _ => (instrumentPatterns_restore env ps).map
  | none :: ps => exact (instrumentPatterns_restore env ps).map

theorem instrumentParams_widen (env : Environment) (span : Span) (ps : List Param) :
    Ends Widens (instrumentParams cx env span ps) := by
  match ps with
  | [] => exact .pure _
  | ⟨pattern, type, optional⟩ :: ps =>
    exact (ends_recordUntyped pattern).bind fun _ =>
      (pattern.instrument_restores env).widens.bind fun _ =>
        (cx.checkParam_restores env span _).widens.bind fun _ =>
          (instrumentParams_widen env span ps).map

theorem FunctionBody.instrument_widens (env : Environment) (body : FunctionBody) :
    Ends Widens (body.instrument cx env) := by
  match body with
  | .block stmts =>
    exact (ends_recordNames _).bind fun _ =>
      (statementList_widens cx stmts (instrumentEach_widen env stmts)).map
  | .expr value => exact (value.instrument_restores env).widens.map

theorem Function.instrument_restores (env : Environment) (func : Function) :
    Ends Restores (func.instrument cx env) := by
  match func with
  | ⟨id, params, body, returnType, typeParams, isAsync, isArrow, isGenerator, span⟩ =>
    refine .inScope ?_
    refine (instrumentParams_widen (env.child typeParams) span params).bind fun visited => ?_
    refine (body.instrument_widens (env.child typeParams)).bind fun f => ?_
    refine (cx.returnCheck_restores _ span isAsync isGenerator returnType).widens.bind
      fun check => ?_
    exact (cx.checkedBody_restores isArrow isAsync visited.2 check f).widens.map

theorem ClassMember.instrument_restores (env : Environment) (m : ClassMember) :
    Ends Restores (m.instrument cx env) := by
  match m with
  | .method key kind isStatic func =>
    exact (key.instrument_restores env).bind fun _ => (func.instrument_restores env).map
  | .property key type value isStatic =>
    exact (key.instrument_restores env).bind fun _ => (instrumentOptExpr_restores env value).map

theorem instrumentMembers_restore (env : Environment) (ms : List ClassMember) :
    Ends Restores (instrumentMembers cx env ms) := by
  match ms with
  | [] => exact .pure _
  | m :: ms =>
    exact (m.instrument_restores env).bind fun _ => (instrumentMembers_restore env ms).map

theorem Class.instrument_restores (env : Environment) (decl : Class) :
    Ends Restores (decl.instrument cx env) := by
  match decl with
  | ⟨id, superClass, typeParams, body, span⟩ =>
    exact (instrumentOptExpr_restores (env.child typeParams) superClass).bind fun _ =>
      (instrumentMembers_restore (env.child typeParams) body).map

theorem instrumentDeclarators_widen (env : Environment) (kind : VarKind) (declSpan : Span)
    (ds : List Declarator) : Ends Widens (instrumentDeclarators cx env kind declSpan ds) := by
  match ds with
  | [] => exact .pure _
  | ⟨id, type, init, span⟩ :: ds =>
    exact (instrumentOptExpr_restores env init).widens.bind fun g =>
      (id.instrument_restores env).widens.bind fun f =>
        (cx.checkDeclared_widens env _ kind f type id.label g).bind fun _ =>
          (instrumentDeclarators_widen env kind declSpan ds).map

theorem VarDecl.instrument_widens (env : Environment) (decl : VarDecl) :
    Ends Widens (decl.instrument cx env) := by
  match decl with
  | ⟨kind, declarators, span⟩ => exact (instrumentDeclarators_widen env kind span declarators).map

theorem ForInit.instrument_widens (env : Environment) (i : ForInit) :
    Ends Widens (i.instrument cx env) := by
  match i with
  | .varDecl decl => exact (decl.instrument_widens env).map
  | .expr value => exact (value.instrument_restores env).widens.map

theorem instrumentForInit_widens (env : Environment) (i : Option ForInit) :
    Ends Widens (instrumentForInit cx env i) := by
  match i with
  | some i => exact (i.instrument_widens env).map
  | none => exact .pure _

theorem ForHead.instrument_widens (env : Environment) (head : ForHead) :
    Ends Widens (head.instrument cx env) := by
  match head with
  | .varDecl decl => exact (decl.instrument_widens env).map
  | .target target => exact (target.instrument_restores env).widens.map

theorem instrumentHandler_restores (env : Environment) (handler : Option CatchClause) :
    Ends Restores (instrumentHandler cx env handler) := by
  match handler with
  | some ⟨some param, stmts⟩ =>
    exact .inScope <| (ends_recordUntyped param).bind fun _ =>
      (param.instrument_restores env).widens.bind fun _ =>
        (statementList_widens cx stmts (instrumentEach_widen env stmts)).map
  | some ⟨none, stmts⟩ =>
    exact .inScope (statementList_widens cx stmts (instrumentEach_widen env stmts)).map
  | none => exact .pure _

theorem instrumentFinalizer_restores (env : Environment) (finalizer : Option (List Stmt)) :
    Ends Restores (instrumentFinalizer cx env finalizer) := by
  match finalizer with
  | some stmts =>
    exact (Ends.inScope (statementList_widens cx stmts (instrumentEach_widen env stmts))).map
  | none => exact .pure _

theorem instrumentCases_widen (env : Environment) (cs : List SwitchCase) :
    Ends Widens (instrumentCases cx env cs) := by
  match cs with
  | [] => exact .pure _
  | ⟨test, stmts⟩ :: cs =>
    exact (instrumentOptExpr_restores env test).widens.bind fun _ =>
      (statementList_widens cx stmts (instrumentEach_widen env stmts)).bind fun _ =>
        (instrumentCases_widen env cs).map

theorem instrumentEach_widen (env : Environment) (ss : List Stmt) :
    Ends Widens (instrumentEach cx env ss) := by
  match ss with
  | [] => exact .pure _
  | s :: ss =>
    exact (noticing_widens (s.instrument_widens env)).bind fun _ =>
      (instrumentEach_widen env ss).map

theorem instrumentAlternate_widens (env : Environment) (s : Option Stmt) :
    Ends Widens (instrumentAlternate cx env s) := by
  match s with
  | some s => exact (s.instrument_widens env).map
  | none => exact .pure _

theorem Stmt.instrument_widens (env : Environment) (s : Stmt) :
    Ends Widens (s.instrument cx env) := by
  unfold Stmt.instrument
  refine .nestedWidens ?_
  match s with
  | .expr value => exact (value.instrument_restores env).widens.map
  | .varDecl decl => exact (decl.instrument_widens env).map
  | .function func => exact (func.instrument_restores env).widens.map
  | .class decl => exact (decl.instrument_restores env).widens.map
  | .ret arg => exact (instrumentOptExpr_restores env arg).widens.map
  | .ifElse test consequent alternate =>
    exact (test.instrument_restores env).widens.bind fun _ =>
      (consequent.instrument_widens env).bind fun _ =>
        (instrumentAlternate_widens env alternate).map
  | .block stmts =>
    exact (Ends.inScope
      (statementList_widens cx stmts (instrumentEach_widen env stmts))).widens.map
  | .throw arg => exact (arg.instrument_restores env).widens.map
  | .forLoop init test update body =>
    refine Ends.widens (.inScope ?_)
    exact (instrumentForInit_widens env init).bind fun _ =>
      (instrumentOptExpr_restores env test).widens.bind fun _ =>
        (instrumentOptExpr_restores env update).widens.bind fun _ =>
          (body.instrument_widens env).map
  | .forIn left right body =>
    refine (right.instrument_restores env).widens.bind fun _ => Ends.widens (.inScope ?_)
    exact (left.instrument_widens env).bind fun _ => (body.instrument_widens env).map
  | .forOf left right body isAwait =>
    refine (right.instrument_restores env).widens.bind fun _ => Ends.widens (.inScope ?_)
    exact (left.instrument_widens env).bind fun _ => (body.instrument_widens env).map
  | .while test body =>
    exact (test.instrument_restores env).widens.bind fun _ => (body.instrument_widens env).map
  | .doWhile body test =>
    exact (body.instrument_widens env).bind fun _ => (test.instrument_restores env).widens.map
  | .tryCatch stmts handler finalizer =>
    have hblock := Ends.inScope (statementList_widens cx stmts (instrumentEach_widen env stmts))
    exact hblock.widens.bind fun _ => (instrumentHandler_restores env handler).widens.bind fun _ =>
      (instrumentFinalizer_restores env finalizer).widens.map
  | .switch discriminant cases =>
    exact (discriminant.instrument_restores env).widens.bind fun _ =>
      (Ends.inScope (instrumentCases_widen env cases)).widens.map
  | .labeled label body => exact (body.instrument_widens env).map
  | .break _ | .continue _ | .empty => exact .pure _
  | .typeAlias decl => exact (cx.declareAlias_restores env decl).widens.map
  | .interface decl => exact (cx.declareInterface_restores env decl).widens.map
  | .import decl => exact .pure _
  | .export (some declaration) specifiers source kind =>
    refine (declaration.instrument_widens env).bind fun f => ?_
    cases f <;> exact .pure _
  | .export none specifiers source kind => exact .pure _
  | .exportDefault value => exact (value.instrument_restores env).widens.map
end

end TypeGuard
