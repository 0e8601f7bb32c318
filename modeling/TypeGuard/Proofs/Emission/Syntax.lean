import TypeGuard.Proofs.Emission.Check

/-!
# Visited trees and their logs

Every visit turns a tree into what it becomes, and logs what it inserts. The induction follows the
visit. It is carried out for all demands that are met by what lists of statements and function
bodies become, of which it may be known that they are visited to their leaves.
-/

namespace TypeGuard

open Visit Instrumentation

variable (cx : Setting) {R : Demands} {known : Prop}

/-- What lists and bodies become meets the demands, if they are visited to their leaves wherever
that is known. -/
structure Demands.Met (R : Demands) (known : Prop) : Prop where
  list : ∀ {env d stmts vs l defs}, FitsIf known d (stmtsNesting stmts) →
    eachBecome cx R env d stmts vs l defs →
      R.list d stmts (withDefinitions (defs.map (·.toStmt cx.names.runtime)) vs)
  wrapped : ∀ {env d params body f l}, body.Becomes cx R env d f l → R.wrapped params body f

variable {cx}

theorem Demands.Met.statementList (hR : R.Met cx known) {env : Environment} {d : Nat}
    {stmts : List Stmt} (hd : FitsIf known d (stmtsNesting stmts))
    (hv : Emits d false (instrumentEach cx env stmts) (eachBecome cx R env d stmts)) :
    Inserts d false (statementList cx stmts (instrumentEach cx env stmts))
      (ListBecomes cx R d stmts (eachBecome cx R env d stmts)) :=
  statementList_becomes hv (fun _ _ _ => eachBecome_defers) fun _ _ _ heach => hR.list hd heach

variable (cx)

mutual
theorem Expr.instrument_becomes (hR : R.Met cx known) {top : Bool} (env : Environment) (d : Nat)
    (e : Expr) (hd : FitsIf known d e.nesting) :
    Inserts d top (e.instrument cx env) fun out log => e.Becomes cx R env d out log := by
  unfold Expr.instrument Expr.Becomes
  refine .nested ?_
  match e, hd with
  | .ident _, _ | .this, _ | .super, _ | .null, _ | .bool _, _ | .num _, _ | .str _, _
  | .regex _ _, _ => exact .pure ⟨rfl, rfl⟩
  | .template quasis exprs, hd =>
    exact (instrumentExprs_become hR env (d + 1) exprs hd.inner).map fun fs _ h => ⟨fs, rfl, h⟩
  | .taggedTemplate tag quasis exprs, hd =>
    exact (tag.instrument_becomes hR env (d + 1) hd.inner.left).bind fun f l hf =>
      (instrumentExprs_become hR env (d + 1) exprs hd.inner.right).map fun fs m hfs =>
        ⟨f, fs, l, m, rfl, rfl, hf, hfs⟩
  | .array elems, hd =>
    exact (instrumentElems_become hR env (d + 1) elems hd.inner).map fun fs _ h => ⟨fs, rfl, h⟩
  | .object props, hd =>
    exact (instrumentProps_become hR env (d + 1) props hd.inner).map fun fs _ h => ⟨fs, rfl, h⟩
  | .function func, hd =>
    exact (func.instrument_becomes hR env (d + 1) hd.inner).map fun f _ h => ⟨f, rfl, h⟩
  | .class decl, hd =>
    exact (decl.instrument_becomes hR env (d + 1) hd.inner).map fun f _ h => ⟨f, rfl, h⟩
  | .member obj name, hd =>
    exact (obj.instrument_becomes hR env (d + 1) hd.inner).map fun f _ h => ⟨f, rfl, h⟩
  | .index obj key, hd =>
    exact (obj.instrument_becomes hR env (d + 1) hd.inner.left).bind fun f l hf =>
      (key.instrument_becomes hR env (d + 1) hd.inner.right).map fun g m hg =>
        ⟨f, g, l, m, rfl, rfl, hf, hg⟩
  | .call callee args, hd =>
    exact (callee.instrument_becomes hR env (d + 1) hd.inner.left).bind fun f l hf =>
      (instrumentExprs_become hR env (d + 1) args hd.inner.right).map fun fs m hfs =>
        ⟨f, fs, l, m, rfl, rfl, hf, hfs⟩
  | .new callee args, hd =>
    exact (callee.instrument_becomes hR env (d + 1) hd.inner.left).bind fun f l hf =>
      (instrumentExprs_become hR env (d + 1) args hd.inner.right).map fun fs m hfs =>
        ⟨f, fs, l, m, rfl, rfl, hf, hfs⟩
  | .unary op arg, hd =>
    exact (arg.instrument_becomes hR env (d + 1) hd.inner).map fun f _ h => ⟨f, rfl, h⟩
  | .update op isPrefix arg, hd =>
    exact (arg.instrument_becomes hR env (d + 1) hd.inner).map fun f _ h => ⟨f, rfl, h⟩
  | .binary op left right, hd =>
    exact (left.instrument_becomes hR env (d + 1) hd.inner.left).bind fun f l hf =>
      (right.instrument_becomes hR env (d + 1) hd.inner.right).map fun g m hg =>
        ⟨f, g, l, m, rfl, rfl, hf, hg⟩
  | .conditional test consequent alternate, hd =>
    exact (test.instrument_becomes hR env (d + 1) hd.inner.left).bind fun f k hf =>
      (consequent.instrument_becomes hR env (d + 1) hd.inner.right.left).bind fun g l hg =>
        (alternate.instrument_becomes hR env (d + 1) hd.inner.right.right).map fun h m hh =>
          ⟨f, g, h, k, l, m, rfl, rfl, hf, hg, hh⟩
  | .assign op target value span, hd =>
    exact (value.instrument_becomes hR env (d + 1) hd.inner.right).bind fun f k hf =>
      (target.instrument_becomes hR env (d + 1) hd.inner.left).bind fun t l ht =>
        (Setting.checkAssigned_guarded env span op t f).map fun checked m hchecked =>
          ⟨t, f, checked, k, l, m, rfl, rfl, hf, ht, hchecked⟩
  | .seq exprs, hd =>
    exact (instrumentExprs_become hR env (d + 1) exprs hd.inner).map fun fs _ h => ⟨fs, rfl, h⟩
  | .spread arg, hd =>
    exact (arg.instrument_becomes hR env (d + 1) hd.inner).map fun f _ h => ⟨f, rfl, h⟩
  | .await arg, hd =>
    exact (arg.instrument_becomes hR env (d + 1) hd.inner).map fun f _ h => ⟨f, rfl, h⟩
  | .yield arg delegate, hd =>
    exact (instrumentOptExpr_becomes hR env (d + 1) arg hd.inner).map fun f _ h => ⟨f, rfl, h⟩
  | .paren inner, hd =>
    exact (inner.instrument_becomes hR env (d + 1) hd.inner).map fun f _ h => ⟨f, rfl, h⟩
  | .cast inner type optional span, hd =>
    refine .behind (Setting.reified?_reifies env span type) fun target? htarget => ?_
    cases target? with
    | some target => exact .pure (.inl ⟨target, htarget, rfl, rfl⟩)
    | none =>
      refine (inner.instrument_becomes hR env (d + 1) hd.inner).bind fun f l hf => ?_
      split
      · exact .pure (.inr ⟨f, l, [], rfl, htarget, hf, .unchecked⟩)
      · exact (Setting.checkValue_guarded env span f type optional inner.label).weaken
          fun out m hout => .inr ⟨f, l, m, rfl, htarget, hf, hout⟩

theorem instrumentExprs_become (hR : R.Met cx known) {top : Bool} (env : Environment) (d : Nat)
    (es : List Expr) (hd : FitsIf known d (exprsNesting es)) :
    Inserts d top (instrumentExprs cx env es) fun out log => exprsBecome cx R env d es out log := by
  match es, hd with
  | [], _ => exact .pure ⟨rfl, rfl⟩
  | e :: es, hd =>
    exact (e.instrument_becomes hR env d hd.left).bind fun f l hf =>
      (instrumentExprs_become hR env d es hd.right).map fun fs m hfs =>
        ⟨f, fs, l, m, rfl, rfl, hf, hfs⟩

theorem instrumentOptExpr_becomes (hR : R.Met cx known) {top : Bool} (env : Environment) (d : Nat)
    (e : Option Expr) (hd : FitsIf known d (optExprNesting e)) :
    Inserts d top (instrumentOptExpr cx env e) fun out log =>
      optExprBecomes cx R env d e out log := by
  match e, hd with
  | some e, hd => exact (e.instrument_becomes hR env d hd).map fun f _ h => ⟨f, rfl, h⟩
  | none, _ => exact .pure ⟨rfl, rfl⟩

theorem instrumentElems_become (hR : R.Met cx known) {top : Bool} (env : Environment) (d : Nat)
    (es : List (Option Expr)) (hd : FitsIf known d (elemsNesting es)) :
    Inserts d top (instrumentElems cx env es) fun out log => elemsBecome cx R env d es out log := by
  match es, hd with
  | [], _ => exact .pure ⟨rfl, rfl⟩
  | some e :: es, hd =>
    exact (e.instrument_becomes hR env d hd.left).bind fun f l hf =>
      (instrumentElems_become hR env d es hd.right).map fun fs m hfs =>
        ⟨f, fs, l, m, rfl, rfl, hf, hfs⟩
  | none :: es, hd => exact (instrumentElems_become hR env d es hd).map fun fs _ h => ⟨fs, rfl, h⟩

theorem PropKey.instrument_becomes (hR : R.Met cx known) {top : Bool} (env : Environment)
    (d : Nat) (key : PropKey) (hd : FitsIf known d key.nesting) :
    Inserts d top (key.instrument cx env) fun out log => key.Becomes cx R env d out log := by
  match key, hd with
  | .computed e, hd => exact (e.instrument_becomes hR env d hd).map fun f _ h => ⟨f, rfl, h⟩
  | .ident _, _ | .str _, _ | .num _, _ => exact .pure ⟨rfl, rfl⟩

theorem ObjectProp.instrument_becomes (hR : R.Met cx known) {top : Bool} (env : Environment)
    (d : Nat) (p : ObjectProp) (hd : FitsIf known d p.nesting) :
    Inserts d top (p.instrument cx env) fun out log => p.Becomes cx R env d out log := by
  match p, hd with
  | .keyValue key value shorthand, hd =>
    exact (key.instrument_becomes hR env d hd.left).bind fun f l hf =>
      (value.instrument_becomes hR env d hd.right).map fun g m hg => ⟨f, g, l, m, rfl, rfl, hf, hg⟩
  | .method key func, hd =>
    exact (key.instrument_becomes hR env d hd.left).bind fun f l hf =>
      (func.instrument_becomes hR env d hd.right).map fun g m hg => ⟨f, g, l, m, rfl, rfl, hf, hg⟩
  | .spread arg, hd => exact (arg.instrument_becomes hR env d hd).map fun f _ h => ⟨f, rfl, h⟩

theorem instrumentProps_become (hR : R.Met cx known) {top : Bool} (env : Environment) (d : Nat)
    (ps : List ObjectProp) (hd : FitsIf known d (objectPropsNesting ps)) :
    Inserts d top (instrumentProps cx env ps) fun out log =>
      objectPropsBecome cx R env d ps out log := by
  match ps, hd with
  | [], _ => exact .pure ⟨rfl, rfl⟩
  | p :: ps, hd =>
    exact (p.instrument_becomes hR env d hd.left).bind fun f l hf =>
      (instrumentProps_become hR env d ps hd.right).map fun fs m hfs =>
        ⟨f, fs, l, m, rfl, rfl, hf, hfs⟩

theorem AssignTarget.instrument_becomes (hR : R.Met cx known) {top : Bool} (env : Environment)
    (d : Nat) (target : AssignTarget) (hd : FitsIf known d target.nesting) :
    Inserts d top (target.instrument cx env) fun out log =>
      target.Becomes cx R env d out log := by
  match target, hd with
  | .pattern p, hd => exact (p.instrument_becomes hR env d hd).map fun f _ h => ⟨f, rfl, h⟩
  | .expr e, hd => exact (e.instrument_becomes hR env d hd).map fun f _ h => ⟨f, rfl, h⟩

theorem Pattern.instrument_becomes (hR : R.Met cx known) {top : Bool} (env : Environment)
    (d : Nat) (p : Pattern) (hd : FitsIf known d p.nesting) :
    Inserts d top (p.instrument cx env) fun out log => p.Becomes cx R env d out log := by
  match p, hd with
  | .ident _, _ => exact .pure ⟨rfl, rfl⟩
  | .object props, hd =>
    exact (instrumentPatternProps_become hR env d props hd).map fun fs _ h => ⟨fs, rfl, h⟩
  | .array elems, hd =>
    exact (instrumentPatterns_become hR env d elems hd).map fun fs _ h => ⟨fs, rfl, h⟩
  | .default left right, hd =>
    exact (left.instrument_becomes hR env d hd.left).bind fun f l hf =>
      (right.instrument_becomes hR env d hd.right).map fun g m hg => ⟨f, g, l, m, rfl, rfl, hf, hg⟩
  | .rest inner, hd => exact (inner.instrument_becomes hR env d hd).map fun f _ h => ⟨f, rfl, h⟩

theorem PatternProp.instrument_becomes (hR : R.Met cx known) {top : Bool} (env : Environment)
    (d : Nat) (p : PatternProp) (hd : FitsIf known d p.nesting) :
    Inserts d top (p.instrument cx env) fun out log => p.Becomes cx R env d out log := by
  match p, hd with
  | .keyValue key value shorthand, hd =>
    exact (key.instrument_becomes hR env d hd.left).bind fun f l hf =>
      (value.instrument_becomes hR env d hd.right).map fun g m hg => ⟨f, g, l, m, rfl, rfl, hf, hg⟩
  | .rest inner, hd => exact (inner.instrument_becomes hR env d hd).map fun f _ h => ⟨f, rfl, h⟩

theorem instrumentPatternProps_become (hR : R.Met cx known) {top : Bool} (env : Environment)
    (d : Nat) (ps : List PatternProp) (hd : FitsIf known d (patternPropsNesting ps)) :
    Inserts d top (instrumentPatternProps cx env ps) fun out log =>
      patternPropsBecome cx R env d ps out log := by
  match ps, hd with
  | [], _ => exact .pure ⟨rfl, rfl⟩
  | p :: ps, hd =>
    exact (p.instrument_becomes hR env d hd.left).bind fun f l hf =>
      (instrumentPatternProps_become hR env d ps hd.right).map fun fs m hfs =>
        ⟨f, fs, l, m, rfl, rfl, hf, hfs⟩

theorem instrumentPatterns_become (hR : R.Met cx known) {top : Bool} (env : Environment) (d : Nat)
    (ps : List (Option Pattern)) (hd : FitsIf known d (patternsNesting ps)) :
    Inserts d top (instrumentPatterns cx env ps) fun out log =>
      patternsBecome cx R env d ps out log := by
  match ps, hd with
  | [], _ => exact .pure ⟨rfl, rfl⟩
  | some p :: ps, hd =>
    exact (p.instrument_becomes hR env d hd.left).bind fun f l hf =>
      (instrumentPatterns_become hR env d ps hd.right).map fun fs m hfs =>
        ⟨f, fs, l, m, rfl, rfl, hf, hfs⟩
  | none :: ps, hd =>
    exact (instrumentPatterns_become hR env d ps hd).map fun fs _ h => ⟨fs, rfl, h⟩

theorem instrumentParams_become (hR : R.Met cx known) {top : Bool} (env : Environment)
    (span : Span) (d : Nat) (ps : List Param) (hd : FitsIf known d (paramsNesting ps)) :
    Inserts d top (instrumentParams cx env span ps) fun out log =>
      paramsBecome cx R env d ps out.1 out.2 log := by
  match ps, hd with
  | [], _ => exact .pure ⟨rfl, rfl, rfl⟩
  | ⟨pattern, type, optional⟩ :: ps, hd =>
    exact .behind (silent_recordUntyped pattern) fun _ _ =>
      (pattern.instrument_becomes hR env d hd.left).bind fun f k hf =>
        (Setting.checkParam_checks env span ⟨pattern, type, optional⟩).bind fun c l hc =>
          (instrumentParams_become hR env span d ps hd.right).map fun (fs, cs) m hfs =>
            ⟨f, fs, c, cs, k, l, m, rfl, rfl, rfl, hf, hc, hfs⟩

theorem FunctionBody.instrument_becomes (hR : R.Met cx known) (env : Environment) (d : Nat)
    (body : FunctionBody) (hd : FitsIf known d body.nesting) :
    Inserts d false (body.instrument cx env) fun out log => body.Becomes cx R env d out log := by
  match body, hd with
  | .block stmts, hd =>
    exact .behind (silent_recordNames _) fun _ _ =>
      (hR.statementList hd (instrumentEach_become hR env d stmts hd)).map fun fs _ h => ⟨fs, rfl, h⟩
  | .expr value, hd => exact (value.instrument_becomes hR env d hd).map fun f _ h => ⟨f, rfl, h⟩

theorem Function.instrument_becomes (hR : R.Met cx known) {top : Bool} (env : Environment)
    (d : Nat) (func : Function) (hd : FitsIf known d func.nesting) :
    Inserts d top (func.instrument cx env) fun out log => func.Becomes cx R env d out log := by
  match func, hd with
  | ⟨id, params, body, returnType, typeParams, isAsync, isArrow, isGenerator, span⟩, hd =>
    let inner := env.child typeParams
    refine .inScope <| (instrumentParams_become hR inner span d params hd.left).bind
      fun (ps, checks) k hps => (body.instrument_becomes hR inner d hd.right).bind fun f l hf => ?_
    refine .behind (Setting.returnCheck_silent inner span isAsync isGenerator returnType)
      fun check ⟨hsome, hplain⟩ => ?_
    refine (Setting.checkedBody_inserts isArrow isAsync checks hplain f).map fun b m hb => ?_
    obtain ⟨rfl, hb⟩ := hb
    exact ⟨ps, checks, f, check, b, k, l, rfl, rfl, hps, hf, hsome, hb, fun _ => hR.wrapped hf⟩

theorem ClassMember.instrument_becomes (hR : R.Met cx known) {top : Bool} (env : Environment)
    (d : Nat) (m : ClassMember) (hd : FitsIf known d m.nesting) :
    Inserts d top (m.instrument cx env) fun out log => m.Becomes cx R env d out log := by
  match m, hd with
  | .method key kind isStatic func, hd =>
    exact (key.instrument_becomes hR env d hd.left).bind fun f k hf =>
      (func.instrument_becomes hR env d hd.right).map fun g l hg => ⟨f, g, k, l, rfl, rfl, hf, hg⟩
  | .property key _ value isStatic, hd =>
    exact (key.instrument_becomes hR env d hd.left).bind fun f k hf =>
      (instrumentOptExpr_becomes hR env d value hd.right).map fun g l hg =>
        ⟨f, g, k, l, rfl, rfl, hf, hg⟩

theorem instrumentMembers_become (hR : R.Met cx known) {top : Bool} (env : Environment) (d : Nat)
    (ms : List ClassMember) (hd : FitsIf known d (membersNesting ms)) :
    Inserts d top (instrumentMembers cx env ms) fun out log =>
      membersBecome cx R env d ms out log := by
  match ms, hd with
  | [], _ => exact .pure ⟨rfl, rfl⟩
  | m :: ms, hd =>
    exact (m.instrument_becomes hR env d hd.left).bind fun f k hf =>
      (instrumentMembers_become hR env d ms hd.right).map fun fs l hfs =>
        ⟨f, fs, k, l, rfl, rfl, hf, hfs⟩

theorem Class.instrument_becomes (hR : R.Met cx known) {top : Bool} (env : Environment) (d : Nat)
    (decl : Class) (hd : FitsIf known d decl.nesting) :
    Inserts d top (decl.instrument cx env) fun out log => decl.Becomes cx R env d out log := by
  match decl, hd with
  | ⟨id, superClass, typeParams, body, span⟩, hd =>
    let inner := env.child typeParams
    exact (instrumentOptExpr_becomes hR inner d superClass hd.left).bind fun f l hf =>
      (instrumentMembers_become hR inner d body hd.right).map fun fs m hfs =>
        ⟨f, fs, l, m, rfl, rfl, hf, hfs⟩

theorem instrumentDeclarators_become (hR : R.Met cx known) {top : Bool} (env : Environment)
    (kind : VarKind) (declSpan : Span) (d : Nat) (ds : List Declarator)
    (hd : FitsIf known d (declaratorsNesting ds)) :
    Inserts d top (instrumentDeclarators cx env kind declSpan ds) fun out log =>
      declaratorsBecome cx R env d ds out log := by
  match ds, hd with
  | [], _ => exact .pure ⟨rfl, rfl⟩
  | ⟨id, type, init, span⟩ :: ds, hd =>
    exact (instrumentOptExpr_becomes hR env d init hd.right.left).bind fun g j hg =>
      (id.instrument_becomes hR env d hd.left).bind fun f k hf =>
        (Setting.checkDeclared_guarded env kind _ f type id.label g).bind fun checked l hchecked =>
          (instrumentDeclarators_become hR env kind declSpan d ds hd.right.right).map
            fun fs m hfs => ⟨f, g, checked, fs, j, k, l, m, rfl, rfl, hg, hf, hchecked, hfs⟩

theorem VarDecl.instrument_becomes (hR : R.Met cx known) {top : Bool} (env : Environment)
    (d : Nat) (decl : VarDecl) (hd : FitsIf known d decl.nesting) :
    Inserts d top (decl.instrument cx env) fun out log => decl.Becomes cx R env d out log := by
  match decl, hd with
  | ⟨kind, declarators, span⟩, hd =>
    exact (instrumentDeclarators_become hR env kind span d declarators hd).map
      fun fs _ h => ⟨fs, rfl, h⟩

theorem ForInit.instrument_becomes (hR : R.Met cx known) {top : Bool} (env : Environment)
    (d : Nat) (i : ForInit) (hd : FitsIf known d i.nesting) :
    Inserts d top (i.instrument cx env) fun out log => i.Becomes cx R env d out log := by
  match i, hd with
  | .varDecl decl, hd => exact (decl.instrument_becomes hR env d hd).map fun f _ h => ⟨f, rfl, h⟩
  | .expr value, hd => exact (value.instrument_becomes hR env d hd).map fun f _ h => ⟨f, rfl, h⟩

theorem instrumentForInit_becomes (hR : R.Met cx known) {top : Bool} (env : Environment) (d : Nat)
    (i : Option ForInit) (hd : FitsIf known d (optForInitNesting i)) :
    Inserts d top (instrumentForInit cx env i) fun out log =>
      optForInitBecomes cx R env d i out log := by
  match i, hd with
  | some i, hd => exact (i.instrument_becomes hR env d hd).map fun f _ h => ⟨f, rfl, h⟩
  | none, _ => exact .pure ⟨rfl, rfl⟩

theorem ForHead.instrument_becomes (hR : R.Met cx known) {top : Bool} (env : Environment)
    (d : Nat) (head : ForHead) (hd : FitsIf known d head.nesting) :
    Inserts d top (head.instrument cx env) fun out log => head.Becomes cx R env d out log := by
  match head, hd with
  | .varDecl decl, hd => exact (decl.instrument_becomes hR env d hd).map fun f _ h => ⟨f, rfl, h⟩
  | .target target, hd => exact (target.instrument_becomes hR env d hd).map fun f _ h => ⟨f, rfl, h⟩

theorem instrumentHandler_becomes (hR : R.Met cx known) {top : Bool} (env : Environment) (d : Nat)
    (handler : Option CatchClause) (hd : FitsIf known d (handlerNesting handler)) :
    Inserts d top (instrumentHandler cx env handler) fun out log =>
      handlerBecomes cx R env d handler out log := by
  match handler, hd with
  | some ⟨some param, stmts⟩, hd =>
    exact .inScope <| .behind (silent_recordUntyped param) fun _ _ =>
      (param.instrument_becomes hR env d hd.left).bind fun f l hf =>
        (hR.statementList hd.right (instrumentEach_become hR env d stmts hd.right)).map
          fun fs m hfs => ⟨f, fs, l, m, rfl, rfl, hf, hfs⟩
  | some ⟨none, stmts⟩, hd =>
    exact .inScope <| (hR.statementList hd (instrumentEach_become hR env d stmts hd)).map
      fun fs _ h => ⟨fs, rfl, h⟩
  | none, _ => exact .pure ⟨rfl, rfl⟩

theorem instrumentFinalizer_becomes (hR : R.Met cx known) {top : Bool} (env : Environment) (d : Nat)
    (finalizer : Option (List Stmt)) (hd : FitsIf known d (finalizerNesting finalizer)) :
    Inserts d top (instrumentFinalizer cx env finalizer) fun out log =>
      finalizerBecomes cx R env d finalizer out log := by
  match finalizer, hd with
  | some stmts, hd =>
    have hlist := hR.statementList hd (instrumentEach_become hR env d stmts hd)
    exact hlist.inScope.map fun fs _ h => ⟨fs, rfl, h⟩
  | none, _ => exact .pure ⟨rfl, rfl⟩

theorem instrumentCases_become (hR : R.Met cx known) (env : Environment) (d : Nat)
    (cs : List SwitchCase) (hd : FitsIf known d (casesNesting cs)) :
    Inserts d false (instrumentCases cx env cs) fun out log =>
      casesBecome cx R env d cs out log := by
  match cs, hd with
  | [], _ => exact .pure ⟨rfl, rfl⟩
  | ⟨test, stmts⟩ :: cs, hd =>
    exact (instrumentOptExpr_becomes hR env d test hd.left).bind fun f k hf =>
      (hR.statementList hd.right.left (instrumentEach_become hR env d stmts hd.right.left)).bind
        fun fs l hfs => (instrumentCases_become hR env d cs hd.right.right).map fun gs m hgs =>
          ⟨f, fs, gs, k, l, m, rfl, rfl, hf, hfs, hgs⟩

theorem instrumentEach_become (hR : R.Met cx known) {top : Bool} (env : Environment) (d : Nat)
    (ss : List Stmt) (hd : FitsIf known d (stmtsNesting ss)) :
    Emits d top (instrumentEach cx env ss) (eachBecome cx R env d ss) := by
  match ss, hd with
  | [], _ => exact .pure ⟨rfl, rfl, rfl⟩
  | s :: ss, hd =>
    exact (noticing_emits (s.instrument_becomes hR env d hd.left)).bind fun v l ds ⟨hv, hs⟩ =>
      (instrumentEach_become hR env d ss hd.right).map fun vs m es hvs =>
        ⟨v, vs, l, m, ds, es, rfl, rfl, rfl, hv, hs, hvs⟩

theorem instrumentAlternate_becomes (hR : R.Met cx known) {top : Bool} (env : Environment)
    (d : Nat) (s : Option Stmt) (hd : FitsIf known d (optStmtNesting s)) :
    Emits d top (instrumentAlternate cx env s) fun out log defs =>
      alternateBecomes cx R env d s out log defs := by
  match s, hd with
  | some s, hd => exact (s.instrument_becomes hR env d hd).map fun f _ _ h => ⟨f, rfl, h⟩
  | none, _ => exact .pure ⟨rfl, rfl, rfl⟩

theorem Stmt.instrument_becomes (hR : R.Met cx known) {top : Bool} (env : Environment) (d : Nat)
    (s : Stmt) (hd : FitsIf known d s.nesting) :
    Emits d top (s.instrument cx env) fun out log defs => s.Becomes cx R env d out log defs := by
  unfold Stmt.instrument Stmt.Becomes
  refine .nested ?_
  match s, hd with
  | .expr value, hd =>
    exact (value.instrument_becomes hR env (d + 1) hd.inner).mapEmits fun f _ h => ⟨f, rfl, rfl, h⟩
  | .varDecl decl, hd =>
    exact (decl.instrument_becomes hR env (d + 1) hd.inner).mapEmits fun f _ h => ⟨f, rfl, rfl, h⟩
  | .function func, hd =>
    exact (func.instrument_becomes hR env (d + 1) hd.inner).mapEmits fun f _ h => ⟨f, rfl, rfl, h⟩
  | .class decl, hd =>
    exact (decl.instrument_becomes hR env (d + 1) hd.inner).mapEmits fun f _ h => ⟨f, rfl, rfl, h⟩
  | .ret arg, hd =>
    exact (instrumentOptExpr_becomes hR env (d + 1) arg hd.inner).mapEmits
      fun f _ h => ⟨f, rfl, rfl, h⟩
  | .ifElse test consequent alternate, hd =>
    exact (test.instrument_becomes hR env (d + 1) hd.inner.left).andThen fun f k hf =>
      (consequent.instrument_becomes hR env (d + 1) hd.inner.right.left).bind fun g l ds hg =>
        (instrumentAlternate_becomes hR env (d + 1) alternate hd.inner.right.right).map
          fun h m es hh => ⟨f, g, h, k, l, m, ds, es, rfl, rfl, rfl, hf, hg, hh⟩
  | .block stmts, hd =>
    have hlist := hR.statementList hd.inner (instrumentEach_become hR env (d + 1) stmts hd.inner)
    exact hlist.inScope.mapEmits fun fs _ h => ⟨fs, rfl, rfl, h⟩
  | .throw arg, hd =>
    exact (arg.instrument_becomes hR env (d + 1) hd.inner).mapEmits fun f _ h => ⟨f, rfl, rfl, h⟩
  | .forLoop init test update body, hd =>
    exact .inScope <| (instrumentForInit_becomes hR env (d + 1) init hd.inner.left).andThen
      fun f j hf => (instrumentOptExpr_becomes hR env (d + 1) test hd.inner.right.left).andThen
      fun g k hg =>
        (instrumentOptExpr_becomes hR env (d + 1) update hd.inner.right.right.left).andThen
      fun h l hh => (body.instrument_becomes hR env (d + 1) hd.inner.right.right.right).map
      fun b m ds hb => ⟨f, g, h, b, j, k, l, m, rfl, rfl, hf, hg, hh, hb⟩
  | .forIn left right body, hd =>
    exact (right.instrument_becomes hR env (d + 1) hd.inner.right.left).andThen fun g k hg =>
      .inScope <| (left.instrument_becomes hR env (d + 1) hd.inner.left).andThen fun f l hf =>
        (body.instrument_becomes hR env (d + 1) hd.inner.right.right).map
          fun b m ds hb => ⟨f, g, b, k, l, m, rfl, rfl, hg, hf, hb⟩
  | .forOf left right body isAwait, hd =>
    exact (right.instrument_becomes hR env (d + 1) hd.inner.right.left).andThen fun g k hg =>
      .inScope <| (left.instrument_becomes hR env (d + 1) hd.inner.left).andThen fun f l hf =>
        (body.instrument_becomes hR env (d + 1) hd.inner.right.right).map
          fun b m ds hb => ⟨f, g, b, k, l, m, rfl, rfl, hg, hf, hb⟩
  | .while test body, hd =>
    exact (test.instrument_becomes hR env (d + 1) hd.inner.left).andThen fun f l hf =>
      (body.instrument_becomes hR env (d + 1) hd.inner.right).map
        fun b m ds hb => ⟨f, b, l, m, rfl, rfl, hf, hb⟩
  | .doWhile body test, hd =>
    refine (body.instrument_becomes hR env (d + 1) hd.inner.left).bind fun b l ds hb =>
      (test.instrument_becomes hR env (d + 1) hd.inner.right).mapEmits fun f m hf => ?_
    rw [List.append_nil]
    exact ⟨f, b, l, m, rfl, rfl, hb, hf⟩
  | .tryCatch stmts handler finalizer, hd =>
    have hlist := hR.statementList hd.inner.left
      (instrumentEach_become hR env (d + 1) stmts hd.inner.left)
    exact hlist.inScope.andThen fun fs k hfs =>
      (instrumentHandler_becomes hR env (d + 1) handler hd.inner.right.left).andThen fun f l hf =>
        (instrumentFinalizer_becomes hR env (d + 1) finalizer hd.inner.right.right).mapEmits
          fun g m hg => ⟨fs, f, g, k, l, m, rfl, rfl, rfl, hfs, hf, hg⟩
  | .switch discriminant cases, hd =>
    have hcases := instrumentCases_become hR env (d + 1) cases hd.inner.right
    exact (discriminant.instrument_becomes hR env (d + 1) hd.inner.left).andThen fun f l hf =>
      hcases.inScope.mapEmits fun gs m hgs => ⟨f, gs, l, m, rfl, rfl, rfl, hf, hgs⟩
  | .labeled label body, hd =>
    exact (body.instrument_becomes hR env (d + 1) hd.inner).map fun b _ _ h => ⟨b, rfl, h⟩
  | .break _, _ | .continue _, _ | .empty, _ => exact .pure ⟨rfl, rfl, rfl⟩
  | .typeAlias decl, _ => exact (Setting.declareAlias_declared env decl).map fun _ _ _ h => h
  | .interface decl, _ => exact (Setting.declareInterface_declared env decl).map fun _ _ _ h => h
  | .import decl, _ => exact .pure ⟨rfl, rfl, rfl⟩
  | .export (some declaration) specifiers source kind, hd =>
    refine (declaration.instrument_becomes hR env (d + 1) hd.inner).bind fun f l ds hf => ?_
    cases f with
    | some f => exact .pure ⟨some f, rfl, by simpa using hf⟩
    | none => exact .pure ⟨none, rfl, by simpa using hf⟩
  | .export none specifiers source kind, _ => exact .pure ⟨rfl, rfl, rfl⟩
  | .exportDefault value, hd =>
    exact (value.instrument_becomes hR env (d + 1) hd.inner).mapEmits fun f _ h => ⟨f, rfl, rfl, h⟩
end

end TypeGuard
