import TypeGuard.Instrumentation

/-!
# Trees without static types

Whether a tree is free of static types: no annotation, no type parameter, no mark of an optional
parameter, no cast, no type declaration, and no import or export of types. What the checks of a unit
are built from, the constructors of combinators and the runtime support, is of this kind.
-/

namespace TypeGuard

def ImportSpecifier.untyped : ImportSpecifier → Bool
  | .named _ _ (some kind) => kind == .value
  | _ => true

def ImportDecl.untyped (d : ImportDecl) : Bool :=
  d.kind == .value && d.specifiers.all ImportSpecifier.untyped

mutual
/-- Whether no static type is left in an expression. -/
def Expr.untyped : Expr → Bool
  | .ident _ | .this | .super | .null | .bool _ | .num _ | .str _ | .regex _ _ => true
  | .template _ exprs => exprsUntyped exprs
  | .taggedTemplate tag _ exprs => tag.untyped && exprsUntyped exprs
  | .array elems => elemsUntyped elems
  | .object props => objectPropsUntyped props
  | .function func => func.untyped
  | .class decl => decl.untyped
  | .member obj _ => obj.untyped
  | .index obj key => obj.untyped && key.untyped
  | .call callee args => callee.untyped && exprsUntyped args
  | .new callee args => callee.untyped && exprsUntyped args
  | .unary _ arg => arg.untyped
  | .update _ _ arg => arg.untyped
  | .binary _ left right => left.untyped && right.untyped
  | .conditional test consequent alternate =>
    test.untyped && consequent.untyped && alternate.untyped
  | .assign _ target value _ => target.untyped && value.untyped
  | .seq exprs => exprsUntyped exprs
  | .spread arg => arg.untyped
  | .await arg => arg.untyped
  | .yield arg _ => optExprUntyped arg
  | .paren inner => inner.untyped
  | .cast _ _ _ _ => false

def exprsUntyped : List Expr → Bool
  | [] => true
  | e :: es => e.untyped && exprsUntyped es

def optExprUntyped : Option Expr → Bool
  | some e => e.untyped
  | none => true

def elemsUntyped : List (Option Expr) → Bool
  | [] => true
  | some e :: es => e.untyped && elemsUntyped es
  | none :: es => elemsUntyped es

def PropKey.untyped : PropKey → Bool
  | .computed e => e.untyped
  | .ident _ | .str _ | .num _ => true

def ObjectProp.untyped : ObjectProp → Bool
  | .keyValue key value _ => key.untyped && value.untyped
  | .method key func => key.untyped && func.untyped
  | .spread arg => arg.untyped

def objectPropsUntyped : List ObjectProp → Bool
  | [] => true
  | p :: ps => p.untyped && objectPropsUntyped ps

def AssignTarget.untyped : AssignTarget → Bool
  | .pattern target => target.untyped
  | .expr target => target.untyped

def Pattern.untyped : Pattern → Bool
  | .ident _ => true
  | .object props => patternPropsUntyped props
  | .array elems => patternsUntyped elems
  | .default left right => left.untyped && right.untyped
  | .rest inner => inner.untyped

def PatternProp.untyped : PatternProp → Bool
  | .keyValue key value _ => key.untyped && value.untyped
  | .rest inner => inner.untyped

def patternPropsUntyped : List PatternProp → Bool
  | [] => true
  | p :: ps => p.untyped && patternPropsUntyped ps

def patternsUntyped : List (Option Pattern) → Bool
  | [] => true
  | some p :: ps => p.untyped && patternsUntyped ps
  | none :: ps => patternsUntyped ps

/-- No parameter of an untyped function has a type or the mark of an optional one. -/
def paramsUntyped : List Param → Bool
  | [] => true
  | ⟨pattern, type, optional⟩ :: ps =>
    pattern.untyped && type.isNone && !optional && paramsUntyped ps

def FunctionBody.untyped : FunctionBody → Bool
  | .block stmts => stmtsUntyped stmts
  | .expr value => value.untyped

def Function.untyped : Function → Bool
  | ⟨_, params, body, returnType, typeParams, _, _, _, _⟩ =>
    paramsUntyped params && body.untyped && returnType.isNone && typeParams.isEmpty

def ClassMember.untyped : ClassMember → Bool
  | .method key _ _ func => key.untyped && func.untyped
  | .property key type value _ => key.untyped && type.isNone && optExprUntyped value

def membersUntyped : List ClassMember → Bool
  | [] => true
  | m :: ms => m.untyped && membersUntyped ms

def Class.untyped : Class → Bool
  | ⟨_, superClass, typeParams, body, _⟩ =>
    optExprUntyped superClass && typeParams.isEmpty && membersUntyped body

def declaratorsUntyped : List Declarator → Bool
  | [] => true
  | ⟨id, type, init, _⟩ :: ds =>
    id.untyped && type.isNone && optExprUntyped init && declaratorsUntyped ds

def VarDecl.untyped : VarDecl → Bool
  | ⟨_, declarators, _⟩ => declaratorsUntyped declarators

def ForInit.untyped : ForInit → Bool
  | .varDecl decl => decl.untyped
  | .expr value => value.untyped

def optForInitUntyped : Option ForInit → Bool
  | some i => i.untyped
  | none => true

def ForHead.untyped : ForHead → Bool
  | .varDecl decl => decl.untyped
  | .target target => target.untyped

def handlerUntyped : Option CatchClause → Bool
  | some ⟨some param, stmts⟩ => param.untyped && stmtsUntyped stmts
  | some ⟨none, stmts⟩ => stmtsUntyped stmts
  | none => true

def finalizerUntyped : Option (List Stmt) → Bool
  | some stmts => stmtsUntyped stmts
  | none => true

def casesUntyped : List SwitchCase → Bool
  | [] => true
  | ⟨test, stmts⟩ :: cs => optExprUntyped test && stmtsUntyped stmts && casesUntyped cs

def stmtsUntyped : List Stmt → Bool
  | [] => true
  | s :: ss => s.untyped && stmtsUntyped ss

def optStmtUntyped : Option Stmt → Bool
  | some s => s.untyped
  | none => true

/-- Whether no static type is left in a statement. -/
def Stmt.untyped : Stmt → Bool
  | .expr value => value.untyped
  | .varDecl decl => decl.untyped
  | .function func => func.untyped
  | .class decl => decl.untyped
  | .ret arg => optExprUntyped arg
  | .ifElse test consequent alternate =>
    test.untyped && consequent.untyped && optStmtUntyped alternate
  | .block stmts => stmtsUntyped stmts
  | .throw arg => arg.untyped
  | .forLoop init test update body =>
    optForInitUntyped init && optExprUntyped test && optExprUntyped update && body.untyped
  | .forIn left right body => left.untyped && right.untyped && body.untyped
  | .forOf left right body _ => left.untyped && right.untyped && body.untyped
  | .while test body => test.untyped && body.untyped
  | .doWhile body test => body.untyped && test.untyped
  | .tryCatch stmts handler finalizer =>
    stmtsUntyped stmts && handlerUntyped handler && finalizerUntyped finalizer
  | .switch discriminant cases => discriminant.untyped && casesUntyped cases
  | .labeled _ body => body.untyped
  | .break _ | .continue _ | .empty => true
  | .typeAlias _ | .interface _ => false
  | .import decl => decl.untyped
  | .export declaration _ _ kind => optStmtUntyped declaration && kind == .value
  | .exportDefault value => value.untyped
end

/-- Whether no static type is left in a unit. -/
def Program.untyped (p : Program) : Bool := stmtsUntyped p.body

/-- Two parts that are free of static types exactly where two others are. -/
theorem both {a a' b b' : Bool} (ha : a = a') (hb : b = b') : (a && b) = (a' && b') := by
  rw [ha, hb]

/-! ### Lists of statements -/

@[simp] theorem stmtsUntyped_nil : stmtsUntyped [] = true := rfl

@[simp] theorem stmtsUntyped_cons (s : Stmt) (ss : List Stmt) :
    stmtsUntyped (s :: ss) = (s.untyped && stmtsUntyped ss) := rfl

@[simp] theorem optStmtUntyped_some (s : Stmt) : optStmtUntyped (some s) = s.untyped := rfl

@[simp] theorem optStmtUntyped_none : optStmtUntyped none = true := rfl

@[simp] theorem Stmt.expr_untyped (value : Expr) : (expr value).untyped = value.untyped := rfl

@[simp] theorem stmtsUntyped_append (ss ts : List Stmt) :
    stmtsUntyped (ss ++ ts) = (stmtsUntyped ss && stmtsUntyped ts) := by
  induction ss with
  | nil => rfl
  | cons s ss ih =>
    show (s.untyped && stmtsUntyped (ss ++ ts)) = (s.untyped && stmtsUntyped ss && stmtsUntyped ts)
    rw [ih, Bool.and_assoc]

@[simp] theorem stmtsUntyped_toList (s : Option Stmt) :
    stmtsUntyped s.toList = optStmtUntyped s := by
  cases s with
  | some s => exact Bool.and_true _
  | none => rfl

theorem stmtsUntyped_map {α : Type} {f : α → Stmt} (hf : ∀ a, (f a).untyped = true)
    (as : List α) : stmtsUntyped (as.map f) = true := by
  induction as with
  | nil => rfl
  | cons a as ih => exact both (hf a) ih

@[simp] theorem Stmt.ret_untyped (value : Expr) :
    (ret (some value)).untyped = value.untyped := rfl

@[simp] theorem FunctionBody.block_untyped (stmts : List Stmt) :
    (block stmts).untyped = stmtsUntyped stmts := rfl

@[simp] theorem FunctionBody.expr_untyped (value : Expr) :
    (expr value).untyped = value.untyped := rfl

@[simp] theorem FunctionBody.stmts_untyped (body : FunctionBody) :
    stmtsUntyped body.stmts = body.untyped := by
  cases body with
  | block stmts => rfl
  | expr value => exact Bool.and_true _

/-! ### Built syntax -/

namespace Expr

@[simp] theorem arrayOf_untyped (es : List Expr) : (arrayOf es).untyped = exprsUntyped es := by
  show elemsUntyped (es.map some) = exprsUntyped es
  induction es with
  | nil => rfl
  | cons e es ih => exact both rfl ih

@[simp] theorem foldl_member_untyped (names : List String) (e : Expr) :
    (names.foldl member e).untyped = e.untyped := by
  induction names generalizing e with
  | nil => rfl
  | cons name names ih => exact ih (e.member name)

@[simp] theorem path_untyped (name : TypeName) : (path name).untyped = true := by
  unfold path
  split
  · rfl
  · exact foldl_member_untyped _ _

end Expr

@[simp] theorem Stmt.constDecl_untyped (name : String) (init : Expr) (span : Span) :
    (constDecl name init span).untyped = init.untyped :=
  Bool.and_true _

/-! ### Combinators as expressions -/

@[simp] theorem Predicate.toExpr_untyped (p : Predicate) : p.toExpr.untyped = true := by
  cases p with
  | ref name => exact Expr.path_untyped name
  | equals value => cases value <;> rfl

@[simp] theorem exprsUntyped_nameArg (name : Option String) :
    exprsUntyped (nameArg name) = true := by
  cases name <;> rfl

@[simp] theorem exprsUntyped_interfaceArgs (name : Option String) (exact : Bool) :
    exprsUntyped (interfaceArgs name exact) = true := by
  cases name <;> cases exact <;> rfl

@[simp] theorem exprsUntyped_map_str (values : List String) :
    exprsUntyped (values.map .str) = true := by
  induction values with
  | nil => rfl
  | cons v vs ih => exact ih

@[simp] theorem PropKey.ofString_untyped (key : String) : (ofString key).untyped = true := by
  unfold ofString
  split <;> rfl

namespace Combinator

mutual
/-- The constructor of a combinator is free of static types. -/
@[simp] theorem toExpr_untyped (names : RuntimeNames) (c : Combinator) :
    (c.toExpr names).untyped = true := by
  match c with
  | builtin _ | declare _ => rfl
  | ref name => exact Expr.path_untyped name
  | list elem name => exact both (toExpr_untyped names elem) (exprsUntyped_nameArg name)
  | maybe inner name => exact both (toExpr_untyped names inner) (exprsUntyped_nameArg name)
  | tuple elems name => exact both (arrayOf_exprs_untyped names elems) (exprsUntyped_nameArg name)
  | union members name =>
    exact both (arrayOf_exprs_untyped names members) (exprsUntyped_nameArg name)
  | enum values name =>
    exact both ((Expr.arrayOf_untyped _).trans (exprsUntyped_map_str values))
      (exprsUntyped_nameArg name)
  | dict key value name =>
    exact both (toExpr_untyped names key)
      (both (toExpr_untyped names value) (exprsUntyped_nameArg name))
  | refinement base predicate name =>
    exact both (toExpr_untyped names base)
      (both predicate.toExpr_untyped (exprsUntyped_nameArg name))
  | interface ps name exact =>
    exact both (propExprs_untyped names ps) (exprsUntyped_interfaceArgs name exact)
  | intersection members name =>
    exact both (arrayOf_exprs_untyped names members) (exprsUntyped_nameArg name)
  | extend members name =>
    exact both (arrayOf_exprs_untyped names members) (exprsUntyped_nameArg name)
  | props ps => exact propExprs_untyped names ps

theorem arrayOf_exprs_untyped (names : RuntimeNames) (cs : List Combinator) :
    (Expr.arrayOf (exprs names cs)).untyped = true := by
  match cs with
  | [] => rfl
  | c :: cs => exact both (toExpr_untyped names c) (arrayOf_exprs_untyped names cs)

theorem propExprs_untyped (names : RuntimeNames) (ps : List (String × Combinator)) :
    objectPropsUntyped (propExprs names ps) = true := by
  match ps with
  | [] => rfl
  | (key, c) :: ps =>
    exact both (both (PropKey.ofString_untyped key) (toExpr_untyped names c))
      (propExprs_untyped names ps)
end

end Combinator

/-! ### Inserted syntax -/

@[simp] theorem Expr.asserted_untyped (assertName : String) (value type : Expr) (label : String) :
    (value.asserted assertName type label).untyped = (value.untyped && type.untyped) := by
  show (value.untyped && (type.untyped && true)) = _
  rw [Bool.and_true]

@[simp] theorem producedValue_untyped (isArrow isAsync : Bool) (stmts : List Stmt) :
    (producedValue isArrow isAsync stmts).untyped = stmtsUntyped stmts := by
  unfold producedValue
  split
  · rename_i h
    simp only [Bool.and_eq_true, List.isEmpty_iff] at h
    rw [h.1]
    rfl
  · split
    · show (stmtsUntyped stmts && true && true && true) = stmtsUntyped stmts
      simp
    · show (stmtsUntyped stmts && true && true && true) = stmtsUntyped stmts
      simp

namespace Definition

@[simp] theorem declare_untyped (names : RuntimeNames) (name : String) (span : Span) :
    (declare names name span).untyped = true :=
  Stmt.constDecl_untyped _ _ _

@[simp] theorem flushSince_untyped (names : RuntimeNames) (start : Nat) (queue : List Definition) :
    stmtsUntyped (flushSince names start queue).1 = true := by
  refine stmtsUntyped_map (fun d => ?_) _
  show ((d.check.toExpr names).untyped && true) = true
  rw [Bool.and_true, Combinator.toExpr_untyped]

end Definition

namespace Support

@[simp] theorem libraryImport_untyped (names : UnitNames) (library : String) :
    (libraryImport names library).untyped = true := rfl

@[simp] theorem assertHelper_untyped (names : UnitNames) (warnOnFailure : Bool) :
    (assertHelper names warnOnFailure).untyped = true := by
  cases warnOnFailure <;> rfl

@[simp] theorem extendHelper_untyped (names : UnitNames) : (extendHelper names).untyped = true :=
  rfl

end Support

@[simp] theorem ImportDecl.toValue?_untyped (d : ImportDecl) :
    optStmtUntyped (d.toValue?.map .import) = true := by
  have hspec (s : ImportSpecifier) : s.toValue.untyped = true := by cases s <;> rfl
  unfold toValue?
  split
  · rfl
  · dsimp only
    split
    · rfl
    · show (true && List.all _ ImportSpecifier.untyped) = true
      refine both rfl (List.all_eq_true.mpr fun s hs => ?_)
      obtain ⟨s, -, rfl⟩ := List.mem_map.mp hs
      exact hspec s

end TypeGuard
