import TypeGuard.Instrumentation
import TypeGuard.Proofs.Untyped

/-!
# Constructs bound to their function

`super`, `await` and `yield` are legal in certain functions only. Whether each of them stands where
it may is asked of a tree for one of the three at a time, given whether that one may stand where the
tree does. What checks and the runtime support are built from holds none of them.
-/

namespace TypeGuard

/-- A construct that only certain functions may contain. -/
inductive Contextual where
  | super
  | await
  | yield
  deriving DecidableEq, Repr

namespace Contextual

/-- Whether the construct may stand outside all functions. -/
def atTopLevel : Contextual → Bool
  | await => true
  | super | yield => false

/-- Whether the construct may stand directly in a function; `hasHome` tells whether the function, or
the one it takes its receiver from, is a method. -/
def inFunction (hasHome isAsync isGenerator : Bool) : Contextual → Bool
  | super => hasHome
  | await => isAsync
  | yield => isGenerator

/-- Whether an occurrence of `other` is in order where `allowed` tells whether the construct that is
looked for may stand. -/
def admits (k : Contextual) (allowed : Bool) (other : Contextual) : Bool := k != other || allowed

end Contextual

variable (k : Contextual)

mutual
/-- Whether the construct stands only where it may in an expression. -/
def Expr.placed (allowed : Bool) : Expr → Bool
  | .super => k.admits allowed .super
  | .ident _ | .this | .null | .bool _ | .num _ | .str _ | .regex _ _ => true
  | .template _ exprs => exprsPlaced allowed exprs
  | .taggedTemplate tag _ exprs => tag.placed allowed && exprsPlaced allowed exprs
  | .array elems => elemsPlaced allowed elems
  | .object props => objectPropsPlaced allowed props
  | .function func => func.placed false allowed
  | .class decl => decl.placed allowed
  | .member obj _ => obj.placed allowed
  | .index obj key => obj.placed allowed && key.placed allowed
  | .call callee args => callee.placed allowed && exprsPlaced allowed args
  | .new callee args => callee.placed allowed && exprsPlaced allowed args
  | .unary _ arg => arg.placed allowed
  | .update _ _ arg => arg.placed allowed
  | .binary _ left right => left.placed allowed && right.placed allowed
  | .conditional test consequent alternate =>
    test.placed allowed && (consequent.placed allowed && alternate.placed allowed)
  | .assign _ target value _ => target.placed allowed && value.placed allowed
  | .seq exprs => exprsPlaced allowed exprs
  | .spread arg => arg.placed allowed
  | .await arg => k.admits allowed .await && arg.placed allowed
  | .yield arg _ => k.admits allowed .yield && optExprPlaced allowed arg
  | .paren inner => inner.placed allowed
  | .cast inner _ _ _ => inner.placed allowed

def exprsPlaced (allowed : Bool) : List Expr → Bool
  | [] => true
  | e :: es => e.placed allowed && exprsPlaced allowed es

def optExprPlaced (allowed : Bool) : Option Expr → Bool
  | some e => e.placed allowed
  | none => true

def elemsPlaced (allowed : Bool) : List (Option Expr) → Bool
  | [] => true
  | some e :: es => e.placed allowed && elemsPlaced allowed es
  | none :: es => elemsPlaced allowed es

def PropKey.placed (allowed : Bool) : PropKey → Bool
  | .computed e => e.placed allowed
  | .ident _ | .str _ | .num _ => true

def ObjectProp.placed (allowed : Bool) : ObjectProp → Bool
  | .keyValue key value _ => key.placed allowed && value.placed allowed
  | .method key func => key.placed allowed && func.placed true allowed
  | .spread arg => arg.placed allowed

def objectPropsPlaced (allowed : Bool) : List ObjectProp → Bool
  | [] => true
  | p :: ps => p.placed allowed && objectPropsPlaced allowed ps

def AssignTarget.placed (allowed : Bool) : AssignTarget → Bool
  | .pattern target => target.placed allowed
  | .expr target => target.placed allowed

def Pattern.placed (allowed : Bool) : Pattern → Bool
  | .ident _ => true
  | .object props => patternPropsPlaced allowed props
  | .array elems => patternsPlaced allowed elems
  | .default left right => left.placed allowed && right.placed allowed
  | .rest inner => inner.placed allowed

def PatternProp.placed (allowed : Bool) : PatternProp → Bool
  | .keyValue key value _ => key.placed allowed && value.placed allowed
  | .rest inner => inner.placed allowed

def patternPropsPlaced (allowed : Bool) : List PatternProp → Bool
  | [] => true
  | p :: ps => p.placed allowed && patternPropsPlaced allowed ps

def patternsPlaced (allowed : Bool) : List (Option Pattern) → Bool
  | [] => true
  | some p :: ps => p.placed allowed && patternsPlaced allowed ps
  | none :: ps => patternsPlaced allowed ps

def paramsPlaced (allowed : Bool) : List Param → Bool
  | [] => true
  | ⟨pattern, _, _⟩ :: ps => pattern.placed allowed && paramsPlaced allowed ps

def FunctionBody.placed (allowed : Bool) : FunctionBody → Bool
  | .block stmts => stmtsPlaced allowed stmts
  | .expr value => value.placed allowed

/-- Only a method has a home object of its own; an arrow function takes over what stands around
it. -/
def Function.placed (isMethod allowed : Bool) : Function → Bool
  | ⟨_, params, body, _, _, isAsync, isArrow, isGenerator, _⟩ =>
    paramsPlaced (k.inFunction (isMethod || isArrow && allowed) isAsync isGenerator) params &&
      body.placed (k.inFunction (isMethod || isArrow && allowed) isAsync isGenerator)

def ClassMember.placed (allowed : Bool) : ClassMember → Bool
  | .method key _ _ func => key.placed allowed && func.placed true allowed
  | .property key _ value _ => key.placed allowed && optExprPlaced allowed value

def membersPlaced (allowed : Bool) : List ClassMember → Bool
  | [] => true
  | m :: ms => m.placed allowed && membersPlaced allowed ms

def Class.placed (allowed : Bool) : Class → Bool
  | ⟨_, superClass, _, body, _⟩ => optExprPlaced allowed superClass && membersPlaced allowed body

def declaratorsPlaced (allowed : Bool) : List Declarator → Bool
  | [] => true
  | ⟨id, _, init, _⟩ :: ds =>
    id.placed allowed && (optExprPlaced allowed init && declaratorsPlaced allowed ds)

def VarDecl.placed (allowed : Bool) : VarDecl → Bool
  | ⟨_, declarators, _⟩ => declaratorsPlaced allowed declarators

def ForInit.placed (allowed : Bool) : ForInit → Bool
  | .varDecl decl => decl.placed allowed
  | .expr value => value.placed allowed

def optForInitPlaced (allowed : Bool) : Option ForInit → Bool
  | some i => i.placed allowed
  | none => true

def ForHead.placed (allowed : Bool) : ForHead → Bool
  | .varDecl decl => decl.placed allowed
  | .target target => target.placed allowed

def handlerPlaced (allowed : Bool) : Option CatchClause → Bool
  | some ⟨some param, stmts⟩ => param.placed allowed && stmtsPlaced allowed stmts
  | some ⟨none, stmts⟩ => stmtsPlaced allowed stmts
  | none => true

def finalizerPlaced (allowed : Bool) : Option (List Stmt) → Bool
  | some stmts => stmtsPlaced allowed stmts
  | none => true

def casesPlaced (allowed : Bool) : List SwitchCase → Bool
  | [] => true
  | ⟨test, stmts⟩ :: cs =>
    optExprPlaced allowed test && (stmtsPlaced allowed stmts && casesPlaced allowed cs)

def stmtsPlaced (allowed : Bool) : List Stmt → Bool
  | [] => true
  | s :: ss => s.placed allowed && stmtsPlaced allowed ss

def optStmtPlaced (allowed : Bool) : Option Stmt → Bool
  | some s => s.placed allowed
  | none => true

/-- Whether the construct stands only where it may in a statement. A loop that awaits its values is
an `await` itself. -/
def Stmt.placed (allowed : Bool) : Stmt → Bool
  | .expr value => value.placed allowed
  | .varDecl decl => decl.placed allowed
  | .function func => func.placed false allowed
  | .class decl => decl.placed allowed
  | .ret arg => optExprPlaced allowed arg
  | .ifElse test consequent alternate =>
    test.placed allowed && (consequent.placed allowed && optStmtPlaced allowed alternate)
  | .block stmts => stmtsPlaced allowed stmts
  | .throw arg => arg.placed allowed
  | .forLoop init test update body =>
    optForInitPlaced allowed init &&
      (optExprPlaced allowed test && (optExprPlaced allowed update && body.placed allowed))
  | .forIn left right body => left.placed allowed && (right.placed allowed && body.placed allowed)
  | .forOf left right body isAwait =>
    (!isAwait || k.admits allowed .await) &&
      (left.placed allowed && (right.placed allowed && body.placed allowed))
  | .while test body => test.placed allowed && body.placed allowed
  | .doWhile body test => body.placed allowed && test.placed allowed
  | .tryCatch stmts handler finalizer =>
    stmtsPlaced allowed stmts &&
      (handlerPlaced allowed handler && finalizerPlaced allowed finalizer)
  | .switch discriminant cases => discriminant.placed allowed && casesPlaced allowed cases
  | .labeled _ body => body.placed allowed
  | .break _ | .continue _ | .empty | .typeAlias _ | .interface _ | .import _ => true
  | .export declaration _ _ _ => optStmtPlaced allowed declaration
  | .exportDefault value => value.placed allowed
end

/-- Whether a construct stands only where it may in a unit. -/
def Program.placed (p : Program) : Bool := stmtsPlaced k k.atTopLevel p.body

/-- Every `super` stands in a method with only arrow functions in between, every `await` directly in
an async function or outside all functions, and every `yield` directly in a generator function. -/
def Program.wellPlaced (p : Program) : Bool :=
  p.placed .super && (p.placed .await && p.placed .yield)

theorem Program.wellPlaced_iff (p : Program) : p.wellPlaced = true ↔ ∀ k, p.placed k = true := by
  rw [wellPlaced, Bool.and_eq_true, Bool.and_eq_true]
  constructor
  · rintro ⟨hsuper, hawait, hyield⟩ k
    cases k with
    | super => exact hsuper
    | await => exact hawait
    | yield => exact hyield
  · intro h
    exact ⟨h .super, h .await, h .yield⟩

variable {k : Contextual} {allowed : Bool}

/-! ### Lists of statements -/

@[simp] theorem stmtsPlaced_append (ss ts : List Stmt) :
    stmtsPlaced k allowed (ss ++ ts) = (stmtsPlaced k allowed ss && stmtsPlaced k allowed ts) := by
  induction ss with
  | nil => rfl
  | cons s ss ih =>
    show (s.placed k allowed && stmtsPlaced k allowed (ss ++ ts)) =
      (s.placed k allowed && stmtsPlaced k allowed ss && stmtsPlaced k allowed ts)
    rw [ih, Bool.and_assoc]

@[simp] theorem stmtsPlaced_toList (s : Option Stmt) :
    stmtsPlaced k allowed s.toList = optStmtPlaced k allowed s := by
  cases s with
  | some s => exact Bool.and_true _
  | none => rfl

theorem stmtsPlaced_map {α : Type} {f : α → Stmt} (hf : ∀ a, (f a).placed k allowed = true)
    (as : List α) : stmtsPlaced k allowed (as.map f) = true := by
  induction as with
  | nil => rfl
  | cons a as ih => exact both (hf a) ih

@[simp] theorem FunctionBody.stmts_placed (body : FunctionBody) :
    stmtsPlaced k allowed body.stmts = body.placed k allowed := by
  cases body with
  | block stmts => rfl
  | expr value => exact Bool.and_true _

/-! ### Built syntax -/

namespace Expr

theorem arrayOf_placed (es : List Expr) :
    (arrayOf es).placed k allowed = exprsPlaced k allowed es := by
  show elemsPlaced k allowed (es.map some) = exprsPlaced k allowed es
  induction es with
  | nil => rfl
  | cons e es ih => exact both rfl ih

theorem foldl_member_placed (names : List String) (e : Expr) :
    (names.foldl member e).placed k allowed = e.placed k allowed := by
  induction names generalizing e with
  | nil => rfl
  | cons name names ih => exact ih (e.member name)

@[simp] theorem path_placed (name : TypeName) : (path name).placed k allowed = true := by
  unfold path
  split
  · rfl
  · exact foldl_member_placed _ _

end Expr

@[simp] theorem Stmt.constDecl_placed (name : String) (init : Expr) (span : Span) :
    (constDecl name init span).placed k allowed = init.placed k allowed := by
  show (init.placed k allowed && true) = _
  rw [Bool.and_true]

/-! ### Combinators as expressions -/

theorem Predicate.toExpr_placed (p : Predicate) : p.toExpr.placed k allowed = true := by
  cases p with
  | ref name => exact Expr.path_placed name
  | equals value => cases value <;> rfl

theorem exprsPlaced_nameArg (name : Option String) :
    exprsPlaced k allowed (nameArg name) = true := by
  cases name <;> rfl

theorem exprsPlaced_interfaceArgs (name : Option String) (exact : Bool) :
    exprsPlaced k allowed (interfaceArgs name exact) = true := by
  cases name <;> cases exact <;> rfl

theorem exprsPlaced_map_str (values : List String) :
    exprsPlaced k allowed (values.map .str) = true := by
  induction values with
  | nil => rfl
  | cons v vs ih => exact ih

theorem PropKey.ofString_placed (key : String) : (ofString key).placed k allowed = true := by
  unfold ofString
  split <;> rfl

namespace Combinator

mutual
/-- The constructor of a combinator holds no construct that is bound to its function. -/
@[simp] theorem toExpr_placed (names : RuntimeNames) (c : Combinator) :
    (c.toExpr names).placed k allowed = true := by
  match c with
  | builtin _ | declare _ => rfl
  | ref name => exact Expr.path_placed name
  | list elem name => exact both (toExpr_placed names elem) (exprsPlaced_nameArg name)
  | maybe inner name => exact both (toExpr_placed names inner) (exprsPlaced_nameArg name)
  | tuple elems name => exact both (arrayOf_exprs_placed names elems) (exprsPlaced_nameArg name)
  | union members name =>
    exact both (arrayOf_exprs_placed names members) (exprsPlaced_nameArg name)
  | enum values name =>
    have hvalues : (Expr.arrayOf (values.map .str)).placed k allowed = true := by
      rw [Expr.arrayOf_placed, exprsPlaced_map_str]
    exact both hvalues (exprsPlaced_nameArg name)
  | dict key value name =>
    exact both (toExpr_placed names key)
      (both (toExpr_placed names value) (exprsPlaced_nameArg name))
  | refinement base predicate name =>
    exact both (toExpr_placed names base)
      (both predicate.toExpr_placed (exprsPlaced_nameArg name))
  | interface ps name exact =>
    exact both (propExprs_placed names ps) (exprsPlaced_interfaceArgs name exact)
  | intersection members name =>
    exact both (arrayOf_exprs_placed names members) (exprsPlaced_nameArg name)
  | extend members name =>
    exact both (arrayOf_exprs_placed names members) (exprsPlaced_nameArg name)
  | props ps => exact propExprs_placed names ps

theorem arrayOf_exprs_placed (names : RuntimeNames) (cs : List Combinator) :
    (Expr.arrayOf (exprs names cs)).placed k allowed = true := by
  match cs with
  | [] => rfl
  | c :: cs => exact both (toExpr_placed names c) (arrayOf_exprs_placed names cs)

theorem propExprs_placed (names : RuntimeNames) (ps : List (String × Combinator)) :
    objectPropsPlaced k allowed (propExprs names ps) = true := by
  match ps with
  | [] => rfl
  | (key, c) :: ps =>
    exact both (both (PropKey.ofString_placed key) (toExpr_placed names c))
      (propExprs_placed names ps)
end

end Combinator

/-! ### Inserted syntax -/

@[simp] theorem Expr.asserted_placed (assertName : String) (value type : Expr) (label : String) :
    (value.asserted assertName type label).placed k allowed =
      (value.placed k allowed && type.placed k allowed) := by
  show (value.placed k allowed && (type.placed k allowed && true)) = _
  rw [Bool.and_true]

mutual
/-- What is put together again from a pattern repeats its keys, and nothing else that is placed. -/
theorem Pattern.toValue_placed (p : Pattern) (h : p.placed k allowed = true) :
    p.toValue.placed k allowed = true := by
  match p with
  | .ident _ => rfl
  | .default left _ =>
    simp only [Pattern.placed, Bool.and_eq_true] at h
    exact left.toValue_placed h.1
  | .rest inner => exact inner.toValue_placed h
  | .array elems => exact elemValues_placed elems h
  | .object props => exact propValues_placed props h

theorem elemValues_placed (ps : List (Option Pattern)) (h : patternsPlaced k allowed ps = true) :
    elemsPlaced k allowed (elemValues ps) = true := by
  match ps with
  | [] => rfl
  | some p :: ps =>
    simp only [patternsPlaced, Bool.and_eq_true] at h
    exact both (p.toValue_placed h.1) (elemValues_placed ps h.2)
  | none :: ps => exact elemValues_placed ps h

theorem propValues_placed (ps : List PatternProp) (h : patternPropsPlaced k allowed ps = true) :
    objectPropsPlaced k allowed (propValues ps) = true := by
  match ps with
  | [] => rfl
  | .keyValue key value _ :: ps =>
    simp only [patternPropsPlaced, PatternProp.placed, Bool.and_eq_true] at h
    obtain ⟨⟨hkey, hvalue⟩, hps⟩ := h
    exact both (both hkey (value.toValue_placed hvalue)) (propValues_placed ps hps)
  | .rest (.ident _) :: ps => exact propValues_placed ps h
  | .rest (.object props) :: ps =>
    simp only [patternPropsPlaced, PatternProp.placed, Bool.and_eq_true] at h
    exact both (Pattern.toValue_placed _ h.1) (propValues_placed ps h.2)
  | .rest (.array elems) :: ps =>
    simp only [patternPropsPlaced, PatternProp.placed, Bool.and_eq_true] at h
    exact both (Pattern.toValue_placed _ h.1) (propValues_placed ps h.2)
  | .rest (.default left right) :: ps =>
    simp only [patternPropsPlaced, PatternProp.placed, Bool.and_eq_true] at h
    exact both (Pattern.toValue_placed _ h.1) (propValues_placed ps h.2)
  | .rest (.rest inner) :: ps =>
    simp only [patternPropsPlaced, PatternProp.placed, Bool.and_eq_true] at h
    exact both (Pattern.toValue_placed _ h.1) (propValues_placed ps h.2)
end

theorem Param.checked_placed (p : Param) (h : p.pattern.placed k allowed = true) :
    p.checked.placed k allowed = true := by
  unfold checked
  split
  · rename_i inner hpattern
    rw [hpattern] at h
    exact h
  · rename_i left right hpattern
    rw [hpattern, Pattern.placed, Bool.and_eq_true] at h
    exact h.1
  · exact h

/-- A body stays well-placed in a function of its own if it is so where that function leads. -/
theorem producedValue_placed {isArrow isAsync : Bool} {stmts : List Stmt}
    (h : stmtsPlaced k (k.inFunction (isArrow && allowed) isAsync false) stmts = true) :
    (producedValue isArrow isAsync stmts).placed k allowed = true := by
  unfold producedValue
  split
  · rfl
  · cases isArrow with
    | true => exact both h rfl
    | false => exact both h rfl

namespace Definition

@[simp] theorem declare_placed (names : RuntimeNames) (name : String) (span : Span) :
    (declare names name span).placed k allowed = true :=
  Stmt.constDecl_placed _ _ _

theorem flushSince_placed (names : RuntimeNames) (start : Nat) (queue : List Definition) :
    stmtsPlaced k allowed (flushSince names start queue).1 = true := by
  refine stmtsPlaced_map (fun d => ?_) _
  show ((d.check.toExpr names).placed k allowed && true) = true
  rw [Bool.and_true, Combinator.toExpr_placed]

end Definition

namespace Support

theorem libraryImport_placed (names : UnitNames) (library : String) :
    (libraryImport names library).placed k allowed = true := rfl

theorem assertHelper_placed (names : UnitNames) (warnOnFailure : Bool) :
    (assertHelper names warnOnFailure).placed k allowed = true := by
  cases warnOnFailure <;> rfl

theorem extendHelper_placed (names : UnitNames) : (extendHelper names).placed k allowed = true :=
  rfl

end Support

end TypeGuard
