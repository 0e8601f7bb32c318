import TypeGuard.Syntax

/-!
# Tests of all nodes

Whether every node of a tree passes a test. A test says what it asks of the node itself; the parts
of the node are asked in their turn.
-/

namespace TypeGuard

/-- What is asked of the nodes of a tree, by their kind. -/
structure NodeTest where
  expr : Expr → Bool
  param : Param → Bool
  function : Function → Bool
  member : ClassMember → Bool
  classDecl : Class → Bool
  declarator : Declarator → Bool
  stmt : Stmt → Bool

variable (t : NodeTest)

mutual
/-- Whether an expression and all nodes within it pass the test. -/
def Expr.all (e : Expr) : Bool :=
  t.expr e &&
    match e with
    | .ident _ | .this | .super | .null | .bool _ | .num _ | .str _ | .regex _ _ => true
    | .template _ exprs => exprsAll exprs
    | .taggedTemplate tag _ exprs => tag.all && exprsAll exprs
    | .array elems => elemsAll elems
    | .object props => objectPropsAll props
    | .function func => func.all
    | .class decl => decl.all
    | .member obj _ => obj.all
    | .index obj key => obj.all && key.all
    | .call callee args => callee.all && exprsAll args
    | .new callee args => callee.all && exprsAll args
    | .unary _ arg => arg.all
    | .update _ _ arg => arg.all
    | .binary _ left right => left.all && right.all
    | .conditional test consequent alternate => test.all && (consequent.all && alternate.all)
    | .assign _ target value _ => target.all && value.all
    | .seq exprs => exprsAll exprs
    | .spread arg => arg.all
    | .await arg => arg.all
    | .yield arg _ => optExprAll arg
    | .paren inner => inner.all
    | .cast inner _ _ _ => inner.all

def exprsAll : List Expr → Bool
  | [] => true
  | e :: es => e.all && exprsAll es

def optExprAll : Option Expr → Bool
  | some e => e.all
  | none => true

def elemsAll : List (Option Expr) → Bool
  | [] => true
  | some e :: es => e.all && elemsAll es
  | none :: es => elemsAll es

def PropKey.all : PropKey → Bool
  | .computed e => e.all
  | .ident _ | .str _ | .num _ => true

def ObjectProp.all : ObjectProp → Bool
  | .keyValue key value _ => key.all && value.all
  | .method key func => key.all && func.all
  | .spread arg => arg.all

def objectPropsAll : List ObjectProp → Bool
  | [] => true
  | p :: ps => p.all && objectPropsAll ps

def AssignTarget.all : AssignTarget → Bool
  | .pattern target => target.all
  | .expr target => target.all

def Pattern.all : Pattern → Bool
  | .ident _ => true
  | .object props => patternPropsAll props
  | .array elems => patternsAll elems
  | .default left right => left.all && right.all
  | .rest inner => inner.all

def PatternProp.all : PatternProp → Bool
  | .keyValue key value _ => key.all && value.all
  | .rest inner => inner.all

def patternPropsAll : List PatternProp → Bool
  | [] => true
  | p :: ps => p.all && patternPropsAll ps

def patternsAll : List (Option Pattern) → Bool
  | [] => true
  | some p :: ps => p.all && patternsAll ps
  | none :: ps => patternsAll ps

def Param.all (p : Param) : Bool :=
  t.param p &&
    match p with
    | ⟨pattern, _, _⟩ => pattern.all

def paramsAll : List Param → Bool
  | [] => true
  | p :: ps => p.all && paramsAll ps

def FunctionBody.all : FunctionBody → Bool
  | .block stmts => stmtsAll stmts
  | .expr value => value.all

def Function.all (func : Function) : Bool :=
  t.function func &&
    match func with
    | ⟨_, params, body, _, _, _, _, _, _⟩ => paramsAll params && body.all

def ClassMember.all (m : ClassMember) : Bool :=
  t.member m &&
    match m with
    | .method key _ _ func => key.all && func.all
    | .property key _ value _ => key.all && optExprAll value

def membersAll : List ClassMember → Bool
  | [] => true
  | m :: ms => m.all && membersAll ms

def Class.all (decl : Class) : Bool :=
  t.classDecl decl &&
    match decl with
    | ⟨_, superClass, _, body, _⟩ => optExprAll superClass && membersAll body

def Declarator.all (d : Declarator) : Bool :=
  t.declarator d &&
    match d with
    | ⟨id, _, init, _⟩ => id.all && optExprAll init

def declaratorsAll : List Declarator → Bool
  | [] => true
  | d :: ds => d.all && declaratorsAll ds

def VarDecl.all : VarDecl → Bool
  | ⟨_, declarators, _⟩ => declaratorsAll declarators

def ForInit.all : ForInit → Bool
  | .varDecl decl => decl.all
  | .expr value => value.all

def optForInitAll : Option ForInit → Bool
  | some i => i.all
  | none => true

def ForHead.all : ForHead → Bool
  | .varDecl decl => decl.all
  | .target target => target.all

def optPatternAll : Option Pattern → Bool
  | some p => p.all
  | none => true

def handlerAll : Option CatchClause → Bool
  | some ⟨param, stmts⟩ => optPatternAll param && stmtsAll stmts
  | none => true

def optStmtsAll : Option (List Stmt) → Bool
  | some stmts => stmtsAll stmts
  | none => true

def casesAll : List SwitchCase → Bool
  | [] => true
  | ⟨test, stmts⟩ :: cs => optExprAll test && (stmtsAll stmts && casesAll cs)

def stmtsAll : List Stmt → Bool
  | [] => true
  | s :: ss => s.all && stmtsAll ss

def optStmtAll : Option Stmt → Bool
  | some s => s.all
  | none => true

/-- Whether a statement and all nodes within it pass the test. -/
def Stmt.all (s : Stmt) : Bool :=
  t.stmt s &&
    match s with
    | .expr value => value.all
    | .varDecl decl => decl.all
    | .function func => func.all
    | .class decl => decl.all
    | .ret arg => optExprAll arg
    | .ifElse test consequent alternate => test.all && (consequent.all && optStmtAll alternate)
    | .block stmts => stmtsAll stmts
    | .throw arg => arg.all
    | .forLoop init test update body =>
      optForInitAll init && (optExprAll test && (optExprAll update && body.all))
    | .forIn left right body => left.all && (right.all && body.all)
    | .forOf left right body _ => left.all && (right.all && body.all)
    | .while test body => test.all && body.all
    | .doWhile body test => body.all && test.all
    | .tryCatch stmts handler finalizer =>
      stmtsAll stmts && (handlerAll handler && optStmtsAll finalizer)
    | .switch discriminant cases => discriminant.all && casesAll cases
    | .labeled _ body => body.all
    | .break _ | .continue _ | .empty | .typeAlias _ | .interface _ | .import _ => true
    | .export declaration _ _ _ => optStmtAll declaration
    | .exportDefault value => value.all
end

/-- Whether all nodes of a unit pass the test. -/
def Program.all (p : Program) : Bool := stmtsAll t p.body

end TypeGuard
