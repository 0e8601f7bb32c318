import TypeGuard.Limits
import TypeGuard.Syntax

/-!
# How deeply trees nest

The number of statements and expressions that stand one within the other. Patterns, functions,
classes and declarations take no level of their own.
-/

namespace TypeGuard

mutual
/-- The greatest number of statements and expressions one within the other, the expression itself
included. -/
def Expr.nesting : Expr → Nat
  | .ident _ | .this | .super | .null | .bool _ | .num _ | .str _ | .regex _ _ => 1
  | .template _ exprs => exprsNesting exprs + 1
  | .taggedTemplate tag _ exprs => max tag.nesting (exprsNesting exprs) + 1
  | .array elems => elemsNesting elems + 1
  | .object props => objectPropsNesting props + 1
  | .function func => func.nesting + 1
  | .class decl => decl.nesting + 1
  | .member obj _ => obj.nesting + 1
  | .index obj key => max obj.nesting key.nesting + 1
  | .call callee args => max callee.nesting (exprsNesting args) + 1
  | .new callee args => max callee.nesting (exprsNesting args) + 1
  | .unary _ arg => arg.nesting + 1
  | .update _ _ arg => arg.nesting + 1
  | .binary _ left right => max left.nesting right.nesting + 1
  | .conditional test consequent alternate =>
    max test.nesting (max consequent.nesting alternate.nesting) + 1
  | .assign _ target value _ => max target.nesting value.nesting + 1
  | .seq exprs => exprsNesting exprs + 1
  | .spread arg => arg.nesting + 1
  | .await arg => arg.nesting + 1
  | .yield arg _ => optExprNesting arg + 1
  | .paren inner => inner.nesting + 1
  | .cast inner _ _ _ => inner.nesting + 1

def exprsNesting : List Expr → Nat
  | [] => 0
  | e :: es => max e.nesting (exprsNesting es)

def optExprNesting : Option Expr → Nat
  | some e => e.nesting
  | none => 0

def elemsNesting : List (Option Expr) → Nat
  | [] => 0
  | some e :: es => max e.nesting (elemsNesting es)
  | none :: es => elemsNesting es

def PropKey.nesting : PropKey → Nat
  | .computed e => e.nesting
  | .ident _ | .str _ | .num _ => 0

def ObjectProp.nesting : ObjectProp → Nat
  | .keyValue key value _ => max key.nesting value.nesting
  | .method key func => max key.nesting func.nesting
  | .spread arg => arg.nesting

def objectPropsNesting : List ObjectProp → Nat
  | [] => 0
  | p :: ps => max p.nesting (objectPropsNesting ps)

def AssignTarget.nesting : AssignTarget → Nat
  | .pattern target => target.nesting
  | .expr target => target.nesting

def Pattern.nesting : Pattern → Nat
  | .ident _ => 0
  | .object props => patternPropsNesting props
  | .array elems => patternsNesting elems
  | .default left right => max left.nesting right.nesting
  | .rest inner => inner.nesting

def PatternProp.nesting : PatternProp → Nat
  | .keyValue key value _ => max key.nesting value.nesting
  | .rest inner => inner.nesting

def patternPropsNesting : List PatternProp → Nat
  | [] => 0
  | p :: ps => max p.nesting (patternPropsNesting ps)

def patternsNesting : List (Option Pattern) → Nat
  | [] => 0
  | some p :: ps => max p.nesting (patternsNesting ps)
  | none :: ps => patternsNesting ps

def paramsNesting : List Param → Nat
  | [] => 0
  | ⟨pattern, _, _⟩ :: ps => max pattern.nesting (paramsNesting ps)

def FunctionBody.nesting : FunctionBody → Nat
  | .block stmts => stmtsNesting stmts
  | .expr value => value.nesting

def Function.nesting : Function → Nat
  | ⟨_, params, body, _, _, _, _, _, _⟩ => max (paramsNesting params) body.nesting

def ClassMember.nesting : ClassMember → Nat
  | .method key _ _ func => max key.nesting func.nesting
  | .property key _ value _ => max key.nesting (optExprNesting value)

def membersNesting : List ClassMember → Nat
  | [] => 0
  | m :: ms => max m.nesting (membersNesting ms)

def Class.nesting : Class → Nat
  | ⟨_, superClass, _, body, _⟩ => max (optExprNesting superClass) (membersNesting body)

def declaratorsNesting : List Declarator → Nat
  | [] => 0
  | ⟨id, _, init, _⟩ :: ds => max id.nesting (max (optExprNesting init) (declaratorsNesting ds))

def VarDecl.nesting : VarDecl → Nat
  | ⟨_, declarators, _⟩ => declaratorsNesting declarators

def ForInit.nesting : ForInit → Nat
  | .varDecl decl => decl.nesting
  | .expr value => value.nesting

def optForInitNesting : Option ForInit → Nat
  | some i => i.nesting
  | none => 0

def ForHead.nesting : ForHead → Nat
  | .varDecl decl => decl.nesting
  | .target target => target.nesting

def handlerNesting : Option CatchClause → Nat
  | some ⟨some param, stmts⟩ => max param.nesting (stmtsNesting stmts)
  | some ⟨none, stmts⟩ => stmtsNesting stmts
  | none => 0

def finalizerNesting : Option (List Stmt) → Nat
  | some stmts => stmtsNesting stmts
  | none => 0

def casesNesting : List SwitchCase → Nat
  | [] => 0
  | ⟨test, stmts⟩ :: cs => max (optExprNesting test) (max (stmtsNesting stmts) (casesNesting cs))

def stmtsNesting : List Stmt → Nat
  | [] => 0
  | s :: ss => max s.nesting (stmtsNesting ss)

def optStmtNesting : Option Stmt → Nat
  | some s => s.nesting
  | none => 0

/-- The greatest number of statements and expressions one within the other, the statement itself
included. -/
def Stmt.nesting : Stmt → Nat
  | .expr value => value.nesting + 1
  | .varDecl decl => decl.nesting + 1
  | .function func => func.nesting + 1
  | .class decl => decl.nesting + 1
  | .ret arg => optExprNesting arg + 1
  | .ifElse test consequent alternate =>
    max test.nesting (max consequent.nesting (optStmtNesting alternate)) + 1
  | .block stmts => stmtsNesting stmts + 1
  | .throw arg => arg.nesting + 1
  | .forLoop init test update body =>
    max (optForInitNesting init)
      (max (optExprNesting test) (max (optExprNesting update) body.nesting)) + 1
  | .forIn left right body => max left.nesting (max right.nesting body.nesting) + 1
  | .forOf left right body _ => max left.nesting (max right.nesting body.nesting) + 1
  | .while test body => max test.nesting body.nesting + 1
  | .doWhile body test => max body.nesting test.nesting + 1
  | .tryCatch stmts handler finalizer =>
    max (stmtsNesting stmts) (max (handlerNesting handler) (finalizerNesting finalizer)) + 1
  | .switch discriminant cases => max discriminant.nesting (casesNesting cases) + 1
  | .labeled _ body => body.nesting + 1
  | .break _ | .continue _ | .empty | .typeAlias _ | .interface _ | .import _ => 1
  | .export declaration _ _ _ => optStmtNesting declaration + 1
  | .exportDefault value => value.nesting + 1
end

/-- The greatest number of statements and expressions of the unit that stand one within the
other. -/
def Program.nesting (p : Program) : Nat := stmtsNesting p.body

/-- A tree of the given nesting that stands at depth `d` is visited to its leaves. -/
def Fits (d nesting : Nat) : Prop := d + nesting ≤ Limits.treeDepth

namespace Fits

variable {d m n : Nat}

theorem lt (h : Fits d (n + 1)) : d < Limits.treeDepth := by
  unfold Fits at h
  omega

theorem not_le (h : Fits d (n + 1)) : ¬ Limits.treeDepth ≤ d := Nat.not_le_of_lt h.lt

theorem inner (h : Fits d (n + 1)) : Fits (d + 1) n := by
  unfold Fits at h ⊢
  omega

theorem left (h : Fits d (max m n)) : Fits d m := by
  unfold Fits at h ⊢
  omega

theorem right (h : Fits d (max m n)) : Fits d n := by
  unfold Fits at h ⊢
  omega

end Fits

/-- The tree is visited to its leaves if that much is known of the unit. -/
def FitsIf (known : Prop) (d nesting : Nat) : Prop := known → Fits d nesting

namespace FitsIf

variable {known : Prop} {d m n : Nat}

theorem inner (h : FitsIf known d (n + 1)) : FitsIf known (d + 1) n := fun hk => (h hk).inner

theorem left (h : FitsIf known d (max m n)) : FitsIf known d m := fun hk => (h hk).left

theorem right (h : FitsIf known d (max m n)) : FitsIf known d n := fun hk => (h hk).right

end FitsIf

end TypeGuard
