import TypeGuard.Instrumentation
import TypeGuard.Proofs.Untyped

/-!
# Types that checks repeat

The check of a parameter puts the value of the parameter together again from its pattern as it was
written, computed keys included. Whether a static type gets into a check in this way is told by
`checksUntyped`, which follows the visit through a tree: a cast that reifies a type is not entered,
and type parameters count where they are in scope.
-/

namespace TypeGuard

/-- Whether a cast to the type stands for a reference to the type. -/
def StaticType.isReified (env : Environment) : StaticType → Bool
  | .generic ref =>
    match ref.classify env with
    | .ok (.reify _) => true
    | _ => false
  | _ => false

/-- Whether the value that the check of a parameter looks at, if there is such a check, is free of
static types. -/
def Param.checkUntyped (cx : Setting) (p : Param) : Bool :=
  p.type.isNone || cx.options.skipAsserts || p.checked.toValue.untyped

variable (cx : Setting)

mutual
def Expr.checksUntyped (env : Environment) : Expr → Bool
  | .ident _ | .this | .super | .null | .bool _ | .num _ | .str _ | .regex _ _ => true
  | .template _ exprs => exprsCheckUntyped env exprs
  | .taggedTemplate tag _ exprs => tag.checksUntyped env && exprsCheckUntyped env exprs
  | .array elems => elemsCheckUntyped env elems
  | .object props => objectPropsCheckUntyped env props
  | .function func => func.checksUntyped env
  | .class decl => decl.checksUntyped env
  | .member obj _ => obj.checksUntyped env
  | .index obj key => obj.checksUntyped env && key.checksUntyped env
  | .call callee args => callee.checksUntyped env && exprsCheckUntyped env args
  | .new callee args => callee.checksUntyped env && exprsCheckUntyped env args
  | .unary _ arg => arg.checksUntyped env
  | .update _ _ arg => arg.checksUntyped env
  | .binary _ left right => left.checksUntyped env && right.checksUntyped env
  | .conditional test consequent alternate =>
    test.checksUntyped env && consequent.checksUntyped env && alternate.checksUntyped env
  | .assign _ target value _ => target.checksUntyped env && value.checksUntyped env
  | .seq exprs => exprsCheckUntyped env exprs
  | .spread arg => arg.checksUntyped env
  | .await arg => arg.checksUntyped env
  | .yield arg _ => optExprChecksUntyped env arg
  | .paren inner => inner.checksUntyped env
  | .cast inner type _ _ => type.isReified env || inner.checksUntyped env

def exprsCheckUntyped (env : Environment) : List Expr → Bool
  | [] => true
  | e :: es => e.checksUntyped env && exprsCheckUntyped env es

def optExprChecksUntyped (env : Environment) : Option Expr → Bool
  | some e => e.checksUntyped env
  | none => true

def elemsCheckUntyped (env : Environment) : List (Option Expr) → Bool
  | [] => true
  | some e :: es => e.checksUntyped env && elemsCheckUntyped env es
  | none :: es => elemsCheckUntyped env es

def PropKey.checksUntyped (env : Environment) : PropKey → Bool
  | .computed e => e.checksUntyped env
  | .ident _ | .str _ | .num _ => true

def ObjectProp.checksUntyped (env : Environment) : ObjectProp → Bool
  | .keyValue key value _ => key.checksUntyped env && value.checksUntyped env
  | .method key func => key.checksUntyped env && func.checksUntyped env
  | .spread arg => arg.checksUntyped env

def objectPropsCheckUntyped (env : Environment) : List ObjectProp → Bool
  | [] => true
  | p :: ps => p.checksUntyped env && objectPropsCheckUntyped env ps

def AssignTarget.checksUntyped (env : Environment) : AssignTarget → Bool
  | .pattern target => target.checksUntyped env
  | .expr target => target.checksUntyped env

def Pattern.checksUntyped (env : Environment) : Pattern → Bool
  | .ident _ => true
  | .object props => patternPropsCheckUntyped env props
  | .array elems => patternsCheckUntyped env elems
  | .default left right => left.checksUntyped env && right.checksUntyped env
  | .rest inner => inner.checksUntyped env

def PatternProp.checksUntyped (env : Environment) : PatternProp → Bool
  | .keyValue key value _ => key.checksUntyped env && value.checksUntyped env
  | .rest inner => inner.checksUntyped env

def patternPropsCheckUntyped (env : Environment) : List PatternProp → Bool
  | [] => true
  | p :: ps => p.checksUntyped env && patternPropsCheckUntyped env ps

def patternsCheckUntyped (env : Environment) : List (Option Pattern) → Bool
  | [] => true
  | some p :: ps => p.checksUntyped env && patternsCheckUntyped env ps
  | none :: ps => patternsCheckUntyped env ps

def paramsCheckUntyped (env : Environment) : List Param → Bool
  | [] => true
  | ⟨pattern, type, optional⟩ :: ps =>
    pattern.checksUntyped env && Param.checkUntyped cx ⟨pattern, type, optional⟩ &&
      paramsCheckUntyped env ps

def FunctionBody.checksUntyped (env : Environment) : FunctionBody → Bool
  | .block stmts => stmtsCheckUntyped env stmts
  | .expr value => value.checksUntyped env

def Function.checksUntyped (env : Environment) : Function → Bool
  | ⟨_, params, body, _, typeParams, _, _, _, _⟩ =>
    paramsCheckUntyped (env.child typeParams) params && body.checksUntyped (env.child typeParams)

def ClassMember.checksUntyped (env : Environment) : ClassMember → Bool
  | .method key _ _ func => key.checksUntyped env && func.checksUntyped env
  | .property key _ value _ => key.checksUntyped env && optExprChecksUntyped env value

def membersCheckUntyped (env : Environment) : List ClassMember → Bool
  | [] => true
  | m :: ms => m.checksUntyped env && membersCheckUntyped env ms

def Class.checksUntyped (env : Environment) : Class → Bool
  | ⟨_, superClass, typeParams, body, _⟩ =>
    optExprChecksUntyped (env.child typeParams) superClass &&
      membersCheckUntyped (env.child typeParams) body

def declaratorsCheckUntyped (env : Environment) : List Declarator → Bool
  | [] => true
  | ⟨id, _, init, _⟩ :: ds =>
    id.checksUntyped env && optExprChecksUntyped env init && declaratorsCheckUntyped env ds

def VarDecl.checksUntyped (env : Environment) : VarDecl → Bool
  | ⟨_, declarators, _⟩ => declaratorsCheckUntyped env declarators

def ForInit.checksUntyped (env : Environment) : ForInit → Bool
  | .varDecl decl => decl.checksUntyped env
  | .expr value => value.checksUntyped env

def optForInitChecksUntyped (env : Environment) : Option ForInit → Bool
  | some i => i.checksUntyped env
  | none => true

def ForHead.checksUntyped (env : Environment) : ForHead → Bool
  | .varDecl decl => decl.checksUntyped env
  | .target target => target.checksUntyped env

def handlerChecksUntyped (env : Environment) : Option CatchClause → Bool
  | some ⟨some param, stmts⟩ => param.checksUntyped env && stmtsCheckUntyped env stmts
  | some ⟨none, stmts⟩ => stmtsCheckUntyped env stmts
  | none => true

def finalizerChecksUntyped (env : Environment) : Option (List Stmt) → Bool
  | some stmts => stmtsCheckUntyped env stmts
  | none => true

def casesCheckUntyped (env : Environment) : List SwitchCase → Bool
  | [] => true
  | ⟨test, stmts⟩ :: cs =>
    optExprChecksUntyped env test && stmtsCheckUntyped env stmts && casesCheckUntyped env cs

def stmtsCheckUntyped (env : Environment) : List Stmt → Bool
  | [] => true
  | s :: ss => s.checksUntyped env && stmtsCheckUntyped env ss

def optStmtChecksUntyped (env : Environment) : Option Stmt → Bool
  | some s => s.checksUntyped env
  | none => true

def Stmt.checksUntyped (env : Environment) : Stmt → Bool
  | .expr value => value.checksUntyped env
  | .varDecl decl => decl.checksUntyped env
  | .function func => func.checksUntyped env
  | .class decl => decl.checksUntyped env
  | .ret arg => optExprChecksUntyped env arg
  | .ifElse test consequent alternate =>
    test.checksUntyped env && consequent.checksUntyped env && optStmtChecksUntyped env alternate
  | .block stmts => stmtsCheckUntyped env stmts
  | .throw arg => arg.checksUntyped env
  | .forLoop init test update body =>
    optForInitChecksUntyped env init && optExprChecksUntyped env test &&
      optExprChecksUntyped env update && body.checksUntyped env
  | .forIn left right body =>
    left.checksUntyped env && right.checksUntyped env && body.checksUntyped env
  | .forOf left right body _ =>
    left.checksUntyped env && right.checksUntyped env && body.checksUntyped env
  | .while test body => test.checksUntyped env && body.checksUntyped env
  | .doWhile body test => body.checksUntyped env && test.checksUntyped env
  | .tryCatch stmts handler finalizer =>
    stmtsCheckUntyped env stmts && handlerChecksUntyped env handler &&
      finalizerChecksUntyped env finalizer
  | .switch discriminant cases =>
    discriminant.checksUntyped env && casesCheckUntyped env cases
  | .labeled _ body => body.checksUntyped env
  | .break _ | .continue _ | .empty | .typeAlias _ | .interface _ | .import _ => true
  | .export declaration _ _ _ => optStmtChecksUntyped env declaration
  | .exportDefault value => value.checksUntyped env
end

end TypeGuard
