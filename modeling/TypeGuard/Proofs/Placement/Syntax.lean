import TypeGuard.Proofs.Placement.Check

/-!
# Placement in trees

A visit leaves every construct that is bound to its function where it may stand, provided that the
bodies of the functions with a checked result can be moved. At the greatest depth a tree is left as
it is, so that nothing has to be said of depths. The induction follows the visit, with one statement
for every kind of tree.
-/

namespace TypeGuard

open Visit Instrumentation

variable (cx : Setting) {k : Contextual}

mutual
/-- In a visited expression the construct stands only where it may. -/
theorem Expr.instrument_placed {allowed : Bool} (env : Environment) (e : Expr)
    (h : e.placed k allowed = true)
    (hm : e.all (.movable cx.options) = true) :
    Keeps AnyState (e.instrument cx env) (·.placed k allowed = true) := by
  unfold Expr.instrument
  refine .nested_any h ?_
  match e with
  | .ident _ | .this | .super | .null | .bool _ | .num _ | .str _ | .regex _ _ => exact .pure h
  | .template quasis exprs =>
    replace hm := Bool.and_eq_true_iff.mp hm
    exact (instrumentExprs_placed env exprs h hm.2).map fun _ h => h
  | .taggedTemplate tag quasis exprs =>
    replace h := Bool.and_eq_true_iff.mp h
    replace hm := Bool.and_eq_true_iff.mp hm
    simp only [Bool.and_eq_true] at h hm
    exact (tag.instrument_placed env h.1 hm.2.1).bind fun _ htag =>
      (instrumentExprs_placed env exprs h.2 hm.2.2).map fun _ hexprs => both htag hexprs
  | .array elems =>
    replace hm := Bool.and_eq_true_iff.mp hm
    exact (instrumentElems_placed env elems h hm.2).map fun _ h => h
  | .object props =>
    replace hm := Bool.and_eq_true_iff.mp hm
    exact (instrumentProps_placed env props h hm.2).map fun _ h => h
  | .function func =>
    replace hm := Bool.and_eq_true_iff.mp hm
    exact (func.instrument_placed env false h hm.2).map fun _ h => h
  | .class decl =>
    replace hm := Bool.and_eq_true_iff.mp hm
    exact (decl.instrument_placed env h hm.2).map fun _ h => h
  | .member obj name =>
    replace hm := Bool.and_eq_true_iff.mp hm
    exact (obj.instrument_placed env h hm.2).map fun _ h => h
  | .index obj key =>
    replace h := Bool.and_eq_true_iff.mp h
    replace hm := Bool.and_eq_true_iff.mp hm
    simp only [Bool.and_eq_true] at h hm
    exact (obj.instrument_placed env h.1 hm.2.1).bind fun _ hobj =>
      (key.instrument_placed env h.2 hm.2.2).map fun _ hkey => both hobj hkey
  | .call callee args =>
    replace h := Bool.and_eq_true_iff.mp h
    replace hm := Bool.and_eq_true_iff.mp hm
    simp only [Bool.and_eq_true] at h hm
    exact (callee.instrument_placed env h.1 hm.2.1).bind fun _ hcallee =>
      (instrumentExprs_placed env args h.2 hm.2.2).map fun _ hargs => both hcallee hargs
  | .new callee args =>
    replace h := Bool.and_eq_true_iff.mp h
    replace hm := Bool.and_eq_true_iff.mp hm
    simp only [Bool.and_eq_true] at h hm
    exact (callee.instrument_placed env h.1 hm.2.1).bind fun _ hcallee =>
      (instrumentExprs_placed env args h.2 hm.2.2).map fun _ hargs => both hcallee hargs
  | .unary op arg =>
    replace hm := Bool.and_eq_true_iff.mp hm
    exact (arg.instrument_placed env h hm.2).map fun _ h => h
  | .update op isPrefix arg =>
    replace hm := Bool.and_eq_true_iff.mp hm
    exact (arg.instrument_placed env h hm.2).map fun _ h => h
  | .binary op left right =>
    replace h := Bool.and_eq_true_iff.mp h
    replace hm := Bool.and_eq_true_iff.mp hm
    simp only [Bool.and_eq_true] at h hm
    exact (left.instrument_placed env h.1 hm.2.1).bind fun _ hleft =>
      (right.instrument_placed env h.2 hm.2.2).map fun _ hright => both hleft hright
  | .conditional test consequent alternate =>
    replace h := Bool.and_eq_true_iff.mp h
    replace hm := Bool.and_eq_true_iff.mp hm
    simp only [Bool.and_eq_true] at h hm
    obtain ⟨htest, hthen, helse⟩ := h
    exact (test.instrument_placed env htest hm.2.1).bind fun _ htest =>
      (consequent.instrument_placed env hthen hm.2.2.1).bind fun _ hthen =>
        (alternate.instrument_placed env helse hm.2.2.2).map fun _ helse =>
          both htest (both hthen helse)
  | .assign op target value span =>
    replace h := Bool.and_eq_true_iff.mp h
    replace hm := Bool.and_eq_true_iff.mp hm
    simp only [Bool.and_eq_true] at h hm
    exact (value.instrument_placed env h.2 hm.2.2).bind fun _ hvalue =>
      (target.instrument_placed env h.1 hm.2.1).bind fun target htarget =>
        (Setting.checkAssigned_placed env span op target hvalue).map fun _ hchecked =>
          both htarget hchecked
  | .seq exprs =>
    replace hm := Bool.and_eq_true_iff.mp hm
    exact (instrumentExprs_placed env exprs h hm.2).map fun _ h => h
  | .spread arg =>
    replace hm := Bool.and_eq_true_iff.mp hm
    exact (arg.instrument_placed env h hm.2).map fun _ h => h
  | .await arg =>
    replace h := Bool.and_eq_true_iff.mp h
    replace hm := Bool.and_eq_true_iff.mp hm
    exact (arg.instrument_placed env h.2 hm.2).map fun _ harg => both h.1 harg
  | .yield arg delegate =>
    replace h := Bool.and_eq_true_iff.mp h
    replace hm := Bool.and_eq_true_iff.mp hm
    exact (instrumentOptExpr_placed env arg h.2 hm.2).map fun _ harg => both h.1 harg
  | .paren inner =>
    replace hm := Bool.and_eq_true_iff.mp hm
    exact (inner.instrument_placed env h hm.2).map fun _ h => h
  | .cast inner type optional span =>
    replace hm := Bool.and_eq_true_iff.mp hm
    refine (Setting.keeps_reified? env span type).bind fun target _ => ?_
    cases target with
    | some target => exact .pure (Expr.path_placed target)
    | none =>
      refine (inner.instrument_placed env h hm.2).bind fun visited hvisited => ?_
      split
      · exact .pure hvisited
      · exact Setting.checkValue_placed env span type optional inner.label hvisited

theorem instrumentExprs_placed {allowed : Bool} (env : Environment) (es : List Expr)
    (h : exprsPlaced k allowed es = true) (hm : exprsAll (.movable cx.options) es = true) :
    Keeps AnyState (instrumentExprs cx env es) (exprsPlaced k allowed · = true) := by
  match es with
  | [] => exact .pure rfl
  | e :: es =>
    replace h := Bool.and_eq_true_iff.mp h
    replace hm := Bool.and_eq_true_iff.mp hm
    exact (e.instrument_placed env h.1 hm.1).bind fun _ he =>
      (instrumentExprs_placed env es h.2 hm.2).map fun _ hes => both he hes

theorem instrumentOptExpr_placed {allowed : Bool} (env : Environment) (e : Option Expr)
    (h : optExprPlaced k allowed e = true) (hm : optExprAll (.movable cx.options) e = true) :
    Keeps AnyState (instrumentOptExpr cx env e) (optExprPlaced k allowed · = true) := by
  match e with
  | some e => exact (e.instrument_placed env h hm).map fun _ h => h
  | none => exact .pure rfl

theorem instrumentElems_placed {allowed : Bool} (env : Environment) (es : List (Option Expr))
    (h : elemsPlaced k allowed es = true) (hm : elemsAll (.movable cx.options) es = true) :
    Keeps AnyState (instrumentElems cx env es) (elemsPlaced k allowed · = true) := by
  match es with
  | [] => exact .pure rfl
  | some e :: es =>
    replace h := Bool.and_eq_true_iff.mp h
    replace hm := Bool.and_eq_true_iff.mp hm
    exact (e.instrument_placed env h.1 hm.1).bind fun _ he =>
      (instrumentElems_placed env es h.2 hm.2).map fun _ hes => both he hes
  | none :: es => exact (instrumentElems_placed env es h hm).map fun _ hes => hes

theorem PropKey.instrument_placed {allowed : Bool} (env : Environment) (key : PropKey)
    (h : key.placed k allowed = true) (hm : key.all (.movable cx.options) = true) :
    Keeps AnyState (key.instrument cx env) (·.placed k allowed = true) := by
  match key with
  | .computed e => exact (e.instrument_placed env h hm).map fun _ h => h
  | .ident _ | .str _ | .num _ => exact .pure rfl

theorem ObjectProp.instrument_placed {allowed : Bool} (env : Environment) (p : ObjectProp)
    (h : p.placed k allowed = true) (hm : p.all (.movable cx.options) = true) :
    Keeps AnyState (p.instrument cx env) (·.placed k allowed = true) := by
  match p with
  | .keyValue key value shorthand =>
    replace h := Bool.and_eq_true_iff.mp h
    replace hm := Bool.and_eq_true_iff.mp hm
    exact (key.instrument_placed env h.1 hm.1).bind fun _ hkey =>
      (value.instrument_placed env h.2 hm.2).map fun _ hvalue => both hkey hvalue
  | .method key func =>
    replace h := Bool.and_eq_true_iff.mp h
    replace hm := Bool.and_eq_true_iff.mp hm
    exact (key.instrument_placed env h.1 hm.1).bind fun _ hkey =>
      (func.instrument_placed env true h.2 hm.2).map fun _ hfunc => both hkey hfunc
  | .spread arg => exact (arg.instrument_placed env h hm).map fun _ h => h

theorem instrumentProps_placed {allowed : Bool} (env : Environment) (ps : List ObjectProp)
    (h : objectPropsPlaced k allowed ps = true)
    (hm : objectPropsAll (.movable cx.options) ps = true) :
    Keeps AnyState (instrumentProps cx env ps) (objectPropsPlaced k allowed · = true) := by
  match ps with
  | [] => exact .pure rfl
  | p :: ps =>
    replace h := Bool.and_eq_true_iff.mp h
    replace hm := Bool.and_eq_true_iff.mp hm
    exact (p.instrument_placed env h.1 hm.1).bind fun _ hp =>
      (instrumentProps_placed env ps h.2 hm.2).map fun _ hps => both hp hps

theorem AssignTarget.instrument_placed {allowed : Bool} (env : Environment) (target : AssignTarget)
    (h : target.placed k allowed = true) (hm : target.all (.movable cx.options) = true) :
    Keeps AnyState (target.instrument cx env) (·.placed k allowed = true) := by
  match target with
  | .pattern p => exact (p.instrument_placed env h hm).map fun _ h => h
  | .expr e => exact (e.instrument_placed env h hm).map fun _ h => h

theorem Pattern.instrument_placed {allowed : Bool} (env : Environment) (p : Pattern)
    (h : p.placed k allowed = true) (hm : p.all (.movable cx.options) = true) :
    Keeps AnyState (p.instrument cx env) (·.placed k allowed = true) := by
  match p with
  | .ident _ => exact .pure rfl
  | .object props => exact (instrumentPatternProps_placed env props h hm).map fun _ h => h
  | .array elems => exact (instrumentPatterns_placed env elems h hm).map fun _ h => h
  | .default left right =>
    replace h := Bool.and_eq_true_iff.mp h
    replace hm := Bool.and_eq_true_iff.mp hm
    exact (left.instrument_placed env h.1 hm.1).bind fun _ hleft =>
      (right.instrument_placed env h.2 hm.2).map fun _ hright => both hleft hright
  | .rest inner => exact (inner.instrument_placed env h hm).map fun _ h => h

theorem PatternProp.instrument_placed {allowed : Bool} (env : Environment) (p : PatternProp)
    (h : p.placed k allowed = true) (hm : p.all (.movable cx.options) = true) :
    Keeps AnyState (p.instrument cx env) (·.placed k allowed = true) := by
  match p with
  | .keyValue key value shorthand =>
    replace h := Bool.and_eq_true_iff.mp h
    replace hm := Bool.and_eq_true_iff.mp hm
    exact (key.instrument_placed env h.1 hm.1).bind fun _ hkey =>
      (value.instrument_placed env h.2 hm.2).map fun _ hvalue => both hkey hvalue
  | .rest inner => exact (inner.instrument_placed env h hm).map fun _ h => h

theorem instrumentPatternProps_placed {allowed : Bool} (env : Environment) (ps : List PatternProp)
    (h : patternPropsPlaced k allowed ps = true)
    (hm : patternPropsAll (.movable cx.options) ps = true) :
    Keeps AnyState (instrumentPatternProps cx env ps) (patternPropsPlaced k allowed · = true) := by
  match ps with
  | [] => exact .pure rfl
  | p :: ps =>
    replace h := Bool.and_eq_true_iff.mp h
    replace hm := Bool.and_eq_true_iff.mp hm
    exact (p.instrument_placed env h.1 hm.1).bind fun _ hp =>
      (instrumentPatternProps_placed env ps h.2 hm.2).map fun _ hps => both hp hps

theorem instrumentPatterns_placed {allowed : Bool} (env : Environment) (ps : List (Option Pattern))
    (h : patternsPlaced k allowed ps = true) (hm : patternsAll (.movable cx.options) ps = true) :
    Keeps AnyState (instrumentPatterns cx env ps) (patternsPlaced k allowed · = true) := by
  match ps with
  | [] => exact .pure rfl
  | some p :: ps =>
    replace h := Bool.and_eq_true_iff.mp h
    replace hm := Bool.and_eq_true_iff.mp hm
    exact (p.instrument_placed env h.1 hm.1).bind fun _ hp =>
      (instrumentPatterns_placed env ps h.2 hm.2).map fun _ hps => both hp hps
  | none :: ps => exact (instrumentPatterns_placed env ps h hm).map fun _ hps => hps

/-- The values that the checks of parameters look at stand where the parameters do. -/
theorem instrumentParams_placed {allowed : Bool} (env : Environment) (span : Span) (ps : List Param)
    (h : paramsPlaced k allowed ps = true) (hm : paramsAll (.movable cx.options) ps = true) :
    Keeps AnyState (instrumentParams cx env span ps) fun (params, checks) =>
      paramsPlaced k allowed params = true ∧ stmtsPlaced k allowed checks = true := by
  match ps with
  | [] => exact .pure ⟨rfl, rfl⟩
  | ⟨pattern, type, optional⟩ :: ps =>
    replace h := Bool.and_eq_true_iff.mp h
    replace hm := Bool.and_eq_true_iff.mp hm
    obtain ⟨hpattern, hps⟩ := h
    obtain ⟨-, hmpattern⟩ := Bool.and_eq_true_iff.mp hm.1
    refine (keeps_modify _).bind fun _ _ =>
      (pattern.instrument_placed env hpattern hmpattern).bind fun visited hvisited =>
        (Setting.checkParam_placed env span ⟨pattern, type, optional⟩ hpattern).bind
          fun checks hchecks => (instrumentParams_placed env span ps hps hm.2).bind
            fun (params, further) ⟨hparams, hfurther⟩ => .pure ⟨both hvisited hparams, ?_⟩
    rw [stmtsPlaced_append, hchecks, hfurther]
    rfl

theorem FunctionBody.instrument_placed {allowed : Bool} (env : Environment) (body : FunctionBody)
    (h : body.placed k allowed = true) (hm : body.all (.movable cx.options) = true) :
    Keeps AnyState (body.instrument cx env) (·.placed k allowed = true) := by
  match body with
  | .block stmts =>
    exact (keeps_modify _).bind fun _ _ =>
      (statementList_placed (instrumentEach_placed env stmts h hm)).map fun _ h => h
  | .expr value => exact (value.instrument_placed env h hm).map fun _ h => h

theorem Function.instrument_placed {allowed : Bool} (env : Environment) (isMethod : Bool)
    (func : Function)
    (h : func.placed k isMethod allowed = true) (hm : func.all (.movable cx.options) = true) :
    Keeps AnyState (func.instrument cx env) (·.placed k isMethod allowed = true) := by
  match func with
  | ⟨id, params, body, returnType, typeParams, isAsync, isArrow, isGenerator, span⟩ =>
    replace h := Bool.and_eq_true_iff.mp h
    obtain ⟨hmovable, hm⟩ := Bool.and_eq_true_iff.mp hm
    obtain ⟨hmparams, hmbody⟩ := Bool.and_eq_true_iff.mp hm
    obtain ⟨hparams, hbody⟩ := h
    have hparams := Function.params_placed hmovable hparams
    have hbody := Function.body_placed hmovable hbody
    refine .inScope_any <|
      (instrumentParams_placed (env.child typeParams) span params hparams hmparams).bind
        fun (visited, checks) ⟨hvisited, hchecks⟩ =>
          (body.instrument_placed (env.child typeParams) hbody hmbody).bind fun moved hmoved =>
            (Setting.returnCheck_isSome (env.child typeParams) span isAsync isGenerator
              returnType).bind fun check hcheck => ?_
    change check.isSome = Function.isChecked cx.options
      ⟨id, params, body, returnType, typeParams, isAsync, isArrow, isGenerator, span⟩ at hcheck
    rw [Function.bodyMayHold, ← hcheck] at hmoved
    refine (Setting.checkedBody_placed hchecks hmoved).map fun wrapped hwrapped => ?_
    have hkept : check.isNone = !check.isSome := by cases check <;> rfl
    simp only [Function.placed, hkept, hcheck]
    exact both hvisited hwrapped

theorem ClassMember.instrument_placed {allowed : Bool} (env : Environment) (m : ClassMember)
    (h : m.placed k allowed = true) (hm : m.all (.movable cx.options) = true) :
    Keeps AnyState (m.instrument cx env) (·.placed k allowed = true) := by
  match m with
  | .method key kind isStatic func =>
    replace h := Bool.and_eq_true_iff.mp h
    replace hm := Bool.and_eq_true_iff.mp hm
    simp only [Bool.and_eq_true] at h hm
    exact (key.instrument_placed env h.1 hm.2.1).bind fun _ hkey =>
      (func.instrument_placed env true h.2 hm.2.2).map fun _ hfunc => both hkey hfunc
  | .property key type value isStatic =>
    replace h := Bool.and_eq_true_iff.mp h
    replace hm := Bool.and_eq_true_iff.mp hm
    simp only [Bool.and_eq_true] at h hm
    exact (key.instrument_placed env h.1 hm.2.1).bind fun _ hkey =>
      (instrumentOptExpr_placed env value h.2 hm.2.2).map fun _ hvalue => both hkey hvalue

theorem instrumentMembers_placed {allowed : Bool} (env : Environment) (ms : List ClassMember)
    (h : membersPlaced k allowed ms = true) (hm : membersAll (.movable cx.options) ms = true) :
    Keeps AnyState (instrumentMembers cx env ms) (membersPlaced k allowed · = true) := by
  match ms with
  | [] => exact .pure rfl
  | m :: ms =>
    replace h := Bool.and_eq_true_iff.mp h
    replace hm := Bool.and_eq_true_iff.mp hm
    exact (m.instrument_placed env h.1 hm.1).bind fun _ hm' =>
      (instrumentMembers_placed env ms h.2 hm.2).map fun _ hms => both hm' hms

theorem Class.instrument_placed {allowed : Bool} (env : Environment) (decl : Class)
    (h : decl.placed k allowed = true) (hm : decl.all (.movable cx.options) = true) :
    Keeps AnyState (decl.instrument cx env) (·.placed k allowed = true) := by
  match decl with
  | ⟨id, superClass, typeParams, body, span⟩ =>
    replace h := Bool.and_eq_true_iff.mp h
    replace hm := Bool.and_eq_true_iff.mp hm
    simp only [Bool.and_eq_true] at h hm
    obtain ⟨-, hmsuper, hmbody⟩ := hm
    exact (instrumentOptExpr_placed (env.child typeParams) superClass h.1 hmsuper).bind
      fun _ hsuper => (instrumentMembers_placed (env.child typeParams) body h.2 hmbody).map
        fun _ hbody => both hsuper hbody

theorem instrumentDeclarators_placed {allowed : Bool} (env : Environment) (kind : VarKind)
    (declSpan : Span)
    (ds : List Declarator) (h : declaratorsPlaced k allowed ds = true)
    (hm : declaratorsAll (.movable cx.options) ds = true) :
    Keeps AnyState (instrumentDeclarators cx env kind declSpan ds)
      (declaratorsPlaced k allowed · = true) := by
  match ds with
  | [] => exact .pure rfl
  | ⟨id, type, init, span⟩ :: ds =>
    replace h := Bool.and_eq_true_iff.mp h
    replace hm := Bool.and_eq_true_iff.mp hm
    simp only [Bool.and_eq_true] at h
    obtain ⟨hid, hinit, hds⟩ := h
    obtain ⟨hmd, hmds⟩ := hm
    obtain ⟨-, hmd⟩ := Bool.and_eq_true_iff.mp hmd
    obtain ⟨hmid, hminit⟩ := Bool.and_eq_true_iff.mp hmd
    exact (instrumentOptExpr_placed env init hinit hminit).bind fun _ hinit =>
      (id.instrument_placed env hid hmid).bind fun visited hvisited =>
        (Setting.checkDeclared_placed env _ kind visited type id.label hinit).bind
          fun _ hchecked => (instrumentDeclarators_placed env kind declSpan ds hds hmds).map
            fun _ hds => both hvisited (both hchecked hds)

theorem VarDecl.instrument_placed {allowed : Bool} (env : Environment) (decl : VarDecl)
    (h : decl.placed k allowed = true) (hm : decl.all (.movable cx.options) = true) :
    Keeps AnyState (decl.instrument cx env) (·.placed k allowed = true) := by
  match decl with
  | ⟨kind, declarators, span⟩ =>
    exact (instrumentDeclarators_placed env kind span declarators h hm).map fun _ h => h

theorem ForInit.instrument_placed {allowed : Bool} (env : Environment) (i : ForInit)
    (h : i.placed k allowed = true) (hm : i.all (.movable cx.options) = true) :
    Keeps AnyState (i.instrument cx env) (·.placed k allowed = true) := by
  match i with
  | .varDecl decl => exact (decl.instrument_placed env h hm).map fun _ h => h
  | .expr value => exact (value.instrument_placed env h hm).map fun _ h => h

theorem instrumentForInit_placed {allowed : Bool} (env : Environment) (i : Option ForInit)
    (h : optForInitPlaced k allowed i = true) (hm : optForInitAll (.movable cx.options) i = true) :
    Keeps AnyState (instrumentForInit cx env i) (optForInitPlaced k allowed · = true) := by
  match i with
  | some i => exact (i.instrument_placed env h hm).map fun _ h => h
  | none => exact .pure rfl

theorem ForHead.instrument_placed {allowed : Bool} (env : Environment) (head : ForHead)
    (h : head.placed k allowed = true) (hm : head.all (.movable cx.options) = true) :
    Keeps AnyState (head.instrument cx env) (·.placed k allowed = true) := by
  match head with
  | .varDecl decl => exact (decl.instrument_placed env h hm).map fun _ h => h
  | .target target => exact (target.instrument_placed env h hm).map fun _ h => h

theorem instrumentHandler_placed {allowed : Bool} (env : Environment) (handler : Option CatchClause)
    (h : handlerPlaced k allowed handler = true)
    (hm : handlerAll (.movable cx.options) handler = true) :
    Keeps AnyState (instrumentHandler cx env handler) (handlerPlaced k allowed · = true) := by
  match handler with
  | some ⟨some param, stmts⟩ =>
    replace h := Bool.and_eq_true_iff.mp h
    replace hm := Bool.and_eq_true_iff.mp hm
    exact .inScope_any <| (keeps_modify _).bind fun _ _ =>
      (param.instrument_placed env h.1 hm.1).bind fun _ hparam =>
        (statementList_placed (instrumentEach_placed env stmts h.2 hm.2)).map fun _ hstmts =>
          both hparam hstmts
  | some ⟨none, stmts⟩ =>
    exact .inScope_any <|
      (statementList_placed (instrumentEach_placed env stmts h hm)).map fun _ h => h
  | none => exact .pure rfl

theorem instrumentFinalizer_placed {allowed : Bool} (env : Environment) (finalizer : Option
    (List Stmt))
    (h : finalizerPlaced k allowed finalizer = true)
    (hm : optStmtsAll (.movable cx.options) finalizer = true) :
    Keeps AnyState (instrumentFinalizer cx env finalizer) (finalizerPlaced k allowed · = true) := by
  match finalizer with
  | some stmts =>
    exact (statementList_placed (instrumentEach_placed env stmts h hm)).inScope_any.map fun _ h => h
  | none => exact .pure rfl

theorem instrumentCases_placed {allowed : Bool} (env : Environment) (cs : List SwitchCase)
    (h : casesPlaced k allowed cs = true) (hm : casesAll (.movable cx.options) cs = true) :
    Keeps AnyState (instrumentCases cx env cs) (casesPlaced k allowed · = true) := by
  match cs with
  | [] => exact .pure rfl
  | ⟨test, stmts⟩ :: cs =>
    replace h := Bool.and_eq_true_iff.mp h
    replace hm := Bool.and_eq_true_iff.mp hm
    simp only [Bool.and_eq_true] at h hm
    obtain ⟨htest, hstmts, hcs⟩ := h
    obtain ⟨hmtest, hmstmts, hmcs⟩ := hm
    exact (instrumentOptExpr_placed env test htest hmtest).bind fun _ htest =>
      (statementList_placed (instrumentEach_placed env stmts hstmts hmstmts)).bind fun _ hstmts =>
        (instrumentCases_placed env cs hcs hmcs).map fun _ hcs => both htest (both hstmts hcs)

theorem instrumentEach_placed {allowed : Bool} (env : Environment) (ss : List Stmt)
    (h : stmtsPlaced k allowed ss = true) (hm : stmtsAll (.movable cx.options) ss = true) :
    Keeps AnyState (instrumentEach cx env ss) (visitedPlaced k allowed · = true) := by
  match ss with
  | [] => exact .pure rfl
  | s :: ss =>
    replace h := Bool.and_eq_true_iff.mp h
    replace hm := Bool.and_eq_true_iff.mp hm
    exact (noticing_placed (s.instrument_placed env h.1 hm.1)).bind fun _ hs =>
      (instrumentEach_placed env ss h.2 hm.2).map fun _ hss =>
        (visitedPlaced_cons _ _).trans (both hs hss)

theorem instrumentAlternate_placed {allowed : Bool} (env : Environment) (s : Option Stmt)
    (h : optStmtPlaced k allowed s = true) (hm : optStmtAll (.movable cx.options) s = true) :
    Keeps AnyState (instrumentAlternate cx env s) (optStmtPlaced k allowed · = true) := by
  match s with
  | some s => exact (s.instrument_placed env h hm).map fun _ h => orEmptyBlock_placed h
  | none => exact .pure rfl

/-- In what is left of a visited statement the construct stands only where it may. -/
theorem Stmt.instrument_placed {allowed : Bool} (env : Environment) (s : Stmt)
    (h : s.placed k allowed = true)
    (hm : s.all (.movable cx.options) = true) :
    Keeps AnyState (s.instrument cx env) (optStmtPlaced k allowed · = true) := by
  unfold Stmt.instrument
  refine .nested_any h ?_
  match s with
  | .expr value =>
    replace hm := Bool.and_eq_true_iff.mp hm
    exact (value.instrument_placed env h hm.2).map fun _ h => h
  | .varDecl decl =>
    replace hm := Bool.and_eq_true_iff.mp hm
    exact (decl.instrument_placed env h hm.2).map fun _ h => h
  | .function func =>
    replace hm := Bool.and_eq_true_iff.mp hm
    exact (func.instrument_placed env false h hm.2).map fun _ h => h
  | .class decl =>
    replace hm := Bool.and_eq_true_iff.mp hm
    exact (decl.instrument_placed env h hm.2).map fun _ h => h
  | .ret arg =>
    replace hm := Bool.and_eq_true_iff.mp hm
    exact (instrumentOptExpr_placed env arg h hm.2).map fun _ h => h
  | .ifElse test consequent alternate =>
    replace h := Bool.and_eq_true_iff.mp h
    replace hm := Bool.and_eq_true_iff.mp hm
    simp only [Bool.and_eq_true] at h hm
    obtain ⟨htest, hthen, helse⟩ := h
    exact (test.instrument_placed env htest hm.2.1).bind fun _ htest =>
      (consequent.instrument_placed env hthen hm.2.2.1).bind fun _ hthen =>
        (instrumentAlternate_placed env alternate helse hm.2.2.2).map fun _ helse =>
          both htest (both (orEmptyBlock_placed hthen) helse)
  | .block stmts =>
    replace hm := Bool.and_eq_true_iff.mp hm
    exact (statementList_placed (instrumentEach_placed env stmts h hm.2)).inScope_any.map
      fun _ h => h
  | .throw arg =>
    replace hm := Bool.and_eq_true_iff.mp hm
    exact (arg.instrument_placed env h hm.2).map fun _ h => h
  | .forLoop init test update body =>
    replace h := Bool.and_eq_true_iff.mp h
    replace hm := Bool.and_eq_true_iff.mp hm
    simp only [Bool.and_eq_true] at h hm
    obtain ⟨hinit, htest, hupdate, hbody⟩ := h
    exact .inScope_any <| (instrumentForInit_placed env init hinit hm.2.1).bind fun _ hinit =>
      (instrumentOptExpr_placed env test htest hm.2.2.1).bind fun _ htest =>
        (instrumentOptExpr_placed env update hupdate hm.2.2.2.1).bind fun _ hupdate =>
          (body.instrument_placed env hbody hm.2.2.2.2).map fun _ hbody =>
            both hinit (both htest (both hupdate (orEmptyBlock_placed hbody)))
  | .forIn left right body =>
    replace h := Bool.and_eq_true_iff.mp h
    replace hm := Bool.and_eq_true_iff.mp hm
    simp only [Bool.and_eq_true] at h hm
    obtain ⟨hleft, hright, hbody⟩ := h
    exact (right.instrument_placed env hright hm.2.2.1).bind fun _ hright =>
      .inScope_any <| (left.instrument_placed env hleft hm.2.1).bind fun _ hleft =>
        (body.instrument_placed env hbody hm.2.2.2).map fun _ hbody =>
          both hleft (both hright (orEmptyBlock_placed hbody))
  | .forOf left right body isAwait =>
    replace h := Bool.and_eq_true_iff.mp h
    replace hm := Bool.and_eq_true_iff.mp hm
    simp only [Bool.and_eq_true] at h hm
    obtain ⟨hawait, hleft, hright, hbody⟩ := h
    exact (right.instrument_placed env hright hm.2.2.1).bind fun _ hright =>
      .inScope_any <| (left.instrument_placed env hleft hm.2.1).bind fun _ hleft =>
        (body.instrument_placed env hbody hm.2.2.2).map fun _ hbody =>
          both hawait (both hleft (both hright (orEmptyBlock_placed hbody)))
  | .while test body =>
    replace h := Bool.and_eq_true_iff.mp h
    replace hm := Bool.and_eq_true_iff.mp hm
    simp only [Bool.and_eq_true] at h hm
    exact (test.instrument_placed env h.1 hm.2.1).bind fun _ htest =>
      (body.instrument_placed env h.2 hm.2.2).map fun _ hbody =>
        both htest (orEmptyBlock_placed hbody)
  | .doWhile body test =>
    replace h := Bool.and_eq_true_iff.mp h
    replace hm := Bool.and_eq_true_iff.mp hm
    simp only [Bool.and_eq_true] at h hm
    exact (body.instrument_placed env h.1 hm.2.1).bind fun _ hbody =>
      (test.instrument_placed env h.2 hm.2.2).map fun _ htest =>
        both (orEmptyBlock_placed hbody) htest
  | .tryCatch stmts handler finalizer =>
    replace h := Bool.and_eq_true_iff.mp h
    replace hm := Bool.and_eq_true_iff.mp hm
    simp only [Bool.and_eq_true] at h hm
    obtain ⟨hstmts, hhandler, hfinalizer⟩ := h
    exact (statementList_placed (instrumentEach_placed env stmts hstmts hm.2.1)).inScope_any.bind
      fun _ hstmts => (instrumentHandler_placed env handler hhandler hm.2.2.1).bind
        fun _ hhandler => (instrumentFinalizer_placed env finalizer hfinalizer hm.2.2.2).map
          fun _ hfinalizer => both hstmts (both hhandler hfinalizer)
  | .switch discriminant cases =>
    replace h := Bool.and_eq_true_iff.mp h
    replace hm := Bool.and_eq_true_iff.mp hm
    simp only [Bool.and_eq_true] at h hm
    exact (discriminant.instrument_placed env h.1 hm.2.1).bind fun _ hdiscriminant =>
      (instrumentCases_placed env cases h.2 hm.2.2).inScope_any.map fun _ hcases =>
        both hdiscriminant hcases
  | .labeled label body =>
    replace hm := Bool.and_eq_true_iff.mp hm
    exact (body.instrument_placed env h hm.2).map fun _ h => orEmptyBlock_placed h
  | .break _ | .continue _ | .empty => exact .pure rfl
  | .typeAlias decl => exact (Setting.declareAlias_placed env decl).map fun _ h => h
  | .interface decl => exact (Setting.declareInterface_placed env decl).map fun _ h => h
  | .import decl =>
    refine .pure ?_
    cases decl.toValue? with
    | some _ => rfl
    | none => rfl
  | .export (some declaration) specifiers source kind =>
    replace hm := Bool.and_eq_true_iff.mp hm
    refine (declaration.instrument_placed env h hm.2).bind fun visited hvisited => ?_
    cases visited with
    | some visited => exact .pure hvisited
    | none => exact .pure rfl
  | .export none specifiers source kind => exact .pure rfl
  | .exportDefault value =>
    replace hm := Bool.and_eq_true_iff.mp hm
    exact (value.instrument_placed env h hm.2).map fun _ h => h
end

end TypeGuard
