import TypeGuard.Binding
import TypeGuard.Instrumentation.Check
import TypeGuard.Support

/-!
# Instrumented trees

Turns the static annotations of a unit into runtime checks. One visit in source order replaces every
statement: type declarations become constants, annotated values get assertions around them, and the
annotations disappear.
-/

namespace TypeGuard

namespace Instrumentation

open Visit

/-! ### Statement lists -/

/-- A visited statement of a list. One that carried types only has disappeared. -/
structure Visited where
  stmt : Option Stmt
  /-- Whether the statement deferred a definition. -/
  defers : Bool

/-- The statements of a list with definitions put after the last statement that deferred one. -/
def withDefinitions (definitions : List Stmt) : List Visited → List Stmt
  | [] => []
  | v :: vs =>
    v.stmt.toList ++
      if v.defers && !vs.any (·.defers) then definitions ++ vs.filterMap (·.stmt)
      else withDefinitions definitions vs

/-- A visited statement together with whether its visit deferred a definition. -/
def noticing (visit : Visit (Option Stmt)) : Visit Visited := do
  let before ← pendingCount
  let stmt ← visit
  let after ← pendingCount
  return ⟨stmt, before < after⟩

/-- A list of statements, given the visit of each. The functions and classes that the list declares
are recorded at first. The definitions that it deferred are put into the list itself, unless it is
that of the unit. -/
def statementList (cx : Setting) (stmts : List Stmt) (visit : Visit (List Visited)) :
    Visit (List Stmt) := do
  recordNames (declaredNames stmts)
  let start ← pendingCount
  let visited ← visit
  let state ← get
  if visited.any (·.defers) && !state.scopes.atTopLevel then
    let definitions ← flushSince cx.names.runtime start
    return withDefinitions definitions visited
  else return visited.filterMap (·.stmt)

/-- What a branch or the body of a loop is left with. -/
def orEmptyBlock (stmt : Option Stmt) : Stmt := stmt.getD (.block [])

end Instrumentation

open Visit Instrumentation

variable (cx : Setting)

mutual
def Expr.instrument (env : Environment) (e : Expr) : Visit Expr :=
  nested e <|
    match e with
    | .ident _ | .this | .super | .null | .bool _ | .num _ | .str _ | .regex _ _ => return e
    | .template quasis exprs => return .template quasis (← instrumentExprs env exprs)
    | .taggedTemplate tag quasis exprs =>
      return .taggedTemplate (← tag.instrument env) quasis (← instrumentExprs env exprs)
    | .array elems => return .array (← instrumentElems env elems)
    | .object props => return .object (← instrumentProps env props)
    | .function func => return .function (← func.instrument env)
    | .class decl => return .class (← decl.instrument env)
    | .member obj name => return .member (← obj.instrument env) name
    | .index obj key => return .index (← obj.instrument env) (← key.instrument env)
    | .call callee args => return .call (← callee.instrument env) (← instrumentExprs env args)
    | .new callee args => return .new (← callee.instrument env) (← instrumentExprs env args)
    | .unary op arg => return .unary op (← arg.instrument env)
    | .update op isPrefix arg => return .update op isPrefix (← arg.instrument env)
    | .binary op left right => return .binary op (← left.instrument env) (← right.instrument env)
    | .conditional test consequent alternate =>
      return .conditional (← test.instrument env) (← consequent.instrument env)
        (← alternate.instrument env)
    | .assign op target value span => do
      let value ← value.instrument env
      let target ← target.instrument env
      return .assign op target (← cx.checkAssigned env span op target value) span
    | .seq exprs => return .seq (← instrumentExprs env exprs)
    | .spread arg => return .spread (← arg.instrument env)
    | .await arg => return .await (← arg.instrument env)
    | .yield arg delegate => return .yield (← instrumentOptExpr env arg) delegate
    | .paren inner => return .paren (← inner.instrument env)
    | .cast inner type optional span => do
      match ← cx.reified? env span type with
      | some target => return .path target
      | none =>
        let visited ← inner.instrument env
        if cx.options.skipAsserts then return visited
        else cx.checkValue env span visited type optional inner.label

def instrumentExprs (env : Environment) : List Expr → Visit (List Expr)
  | [] => return []
  | e :: es => return (← e.instrument env) :: (← instrumentExprs env es)

def instrumentOptExpr (env : Environment) : Option Expr → Visit (Option Expr)
  | some e => return some (← e.instrument env)
  | none => return none

def instrumentElems (env : Environment) : List (Option Expr) → Visit (List (Option Expr))
  | [] => return []
  | some e :: es => return some (← e.instrument env) :: (← instrumentElems env es)
  | none :: es => return none :: (← instrumentElems env es)

def PropKey.instrument (env : Environment) : PropKey → Visit PropKey
  | .computed e => return .computed (← e.instrument env)
  | .ident name => return .ident name
  | .str value => return .str value
  | .num text => return .num text

def ObjectProp.instrument (env : Environment) : ObjectProp → Visit ObjectProp
  | .keyValue key value shorthand =>
    return .keyValue (← key.instrument env) (← value.instrument env) shorthand
  | .method key func => return .method (← key.instrument env) (← func.instrument env)
  | .spread arg => return .spread (← arg.instrument env)

def instrumentProps (env : Environment) : List ObjectProp → Visit (List ObjectProp)
  | [] => return []
  | p :: ps => return (← p.instrument env) :: (← instrumentProps env ps)

def AssignTarget.instrument (env : Environment) : AssignTarget → Visit AssignTarget
  | .pattern target => return .pattern (← target.instrument env)
  | .expr target => return .expr (← target.instrument env)

/-- The expressions within a pattern are visited; the pattern itself stays. -/
def Pattern.instrument (env : Environment) : Pattern → Visit Pattern
  | .ident name => return .ident name
  | .object props => return .object (← instrumentPatternProps env props)
  | .array elems => return .array (← instrumentPatterns env elems)
  | .default left right => return .default (← left.instrument env) (← right.instrument env)
  | .rest inner => return .rest (← inner.instrument env)

def PatternProp.instrument (env : Environment) : PatternProp → Visit PatternProp
  | .keyValue key value shorthand =>
    return .keyValue (← key.instrument env) (← value.instrument env) shorthand
  | .rest inner => return .rest (← inner.instrument env)

def instrumentPatternProps (env : Environment) : List PatternProp → Visit (List PatternProp)
  | [] => return []
  | p :: ps => return (← p.instrument env) :: (← instrumentPatternProps env ps)

def instrumentPatterns (env : Environment) : List (Option Pattern) → Visit (List (Option Pattern))
  | [] => return []
  | some p :: ps => return some (← p.instrument env) :: (← instrumentPatterns env ps)
  | none :: ps => return none :: (← instrumentPatterns env ps)

/-- Parameters without their types, and the checks of these types. A check looks at the parameter as
it was written. -/
def instrumentParams (env : Environment) (span : Span) :
    List Param → Visit (List Param × List Stmt)
  | [] => return ([], [])
  | ⟨pattern, type, optional⟩ :: ps => do
    recordUntyped pattern
    let visited ← pattern.instrument env
    let checks ← cx.checkParam env span ⟨pattern, type, optional⟩
    let (params, further) ← instrumentParams env span ps
    return (⟨visited, none, false⟩ :: params, checks ++ further)

/-- The names that `var` binds in a body are known from its first statement on. -/
def FunctionBody.instrument (env : Environment) : FunctionBody → Visit FunctionBody
  | .block stmts => do
    recordNames (varNames stmts)
    return .block (← statementList cx stmts (instrumentEach env stmts))
  | .expr value => return .expr (← value.instrument env)

/-- A function is visited in a scope of its own, with its type parameters. -/
def Function.instrument (env : Environment) : Function → Visit Function
  | ⟨id, params, body, returnType, typeParams, isAsync, isArrow, isGenerator, span⟩ =>
    inScope do
      let env := env.child typeParams
      let (params, paramChecks) ← instrumentParams env span params
      let body ← body.instrument env
      let check ← cx.returnCheck env span isAsync isGenerator returnType
      let body ← cx.checkedBody isArrow isAsync paramChecks check body
      return ⟨id, params, body, none, [], isAsync && check.isNone, isArrow, isGenerator, span⟩

def ClassMember.instrument (env : Environment) : ClassMember → Visit ClassMember
  | .method key kind isStatic func =>
    return .method (← key.instrument env) kind isStatic (← func.instrument env)
  | .property key _ value isStatic =>
    return .property (← key.instrument env) none (← instrumentOptExpr env value) isStatic

def instrumentMembers (env : Environment) : List ClassMember → Visit (List ClassMember)
  | [] => return []
  | m :: ms => return (← m.instrument env) :: (← instrumentMembers env ms)

/-- The type parameters of a class hold for its members and the class that it extends. -/
def Class.instrument (env : Environment) : Class → Visit Class
  | ⟨id, superClass, typeParams, body, span⟩ => do
    let env := env.child typeParams
    let superClass ← instrumentOptExpr env superClass
    return ⟨id, superClass, [], ← instrumentMembers env body, span⟩

/-- Declarators of a declaration of the given kind and span. -/
def instrumentDeclarators (env : Environment) (kind : VarKind) (declSpan : Span) :
    List Declarator → Visit (List Declarator)
  | [] => return []
  | ⟨id, type, init, span⟩ :: ds => do
    let init ← instrumentOptExpr env init
    let visited ← id.instrument env
    let init ← cx.checkDeclared env kind (span.orElse declSpan) visited type id.label init
    return ⟨visited, none, init, span⟩ :: (← instrumentDeclarators env kind declSpan ds)

def VarDecl.instrument (env : Environment) : VarDecl → Visit VarDecl
  | ⟨kind, declarators, span⟩ =>
    return ⟨kind, ← instrumentDeclarators env kind span declarators, span⟩

def ForInit.instrument (env : Environment) : ForInit → Visit ForInit
  | .varDecl decl => return .varDecl (← decl.instrument env)
  | .expr value => return .expr (← value.instrument env)

def instrumentForInit (env : Environment) : Option ForInit → Visit (Option ForInit)
  | some i => return some (← i.instrument env)
  | none => return none

def ForHead.instrument (env : Environment) : ForHead → Visit ForHead
  | .varDecl decl => return .varDecl (← decl.instrument env)
  | .target target => return .target (← target.instrument env)

/-- A catch clause is visited in a scope of its own, which holds its parameter. -/
def instrumentHandler (env : Environment) : Option CatchClause → Visit (Option CatchClause)
  | some ⟨some param, stmts⟩ =>
    inScope do
      recordUntyped param
      let param ← param.instrument env
      return some ⟨some param, ← statementList cx stmts (instrumentEach env stmts)⟩
  | some ⟨none, stmts⟩ =>
    inScope do return some ⟨none, ← statementList cx stmts (instrumentEach env stmts)⟩
  | none => return none

def instrumentFinalizer (env : Environment) : Option (List Stmt) → Visit (Option (List Stmt))
  | some stmts => return some (← inScope (statementList cx stmts (instrumentEach env stmts)))
  | none => return none

def instrumentCases (env : Environment) : List SwitchCase → Visit (List SwitchCase)
  | [] => return []
  | ⟨test, stmts⟩ :: cs => do
    let test ← instrumentOptExpr env test
    let stmts ← statementList cx stmts (instrumentEach env stmts)
    return ⟨test, stmts⟩ :: (← instrumentCases env cs)

/-- The statements of a list, each visited in turn. -/
def instrumentEach (env : Environment) : List Stmt → Visit (List Visited)
  | [] => return []
  | s :: ss => return (← noticing (s.instrument env)) :: (← instrumentEach env ss)

/-- The branch taken otherwise, which may be absent. -/
def instrumentAlternate (env : Environment) : Option Stmt → Visit (Option Stmt)
  | some s => return some (orEmptyBlock (← s.instrument env))
  | none => return none

/-- A statement; there is none left of one that carried types only. -/
def Stmt.instrument (env : Environment) (s : Stmt) : Visit (Option Stmt) :=
  nested (some s) <|
    match s with
    | .expr value => return some (.expr (← value.instrument env))
    | .varDecl decl => return some (.varDecl (← decl.instrument env))
    | .function func => return some (.function (← func.instrument env))
    | .class decl => return some (.class (← decl.instrument env))
    | .ret arg => return some (.ret (← instrumentOptExpr env arg))
    | .ifElse test consequent alternate => do
      let test ← test.instrument env
      let consequent ← consequent.instrument env
      let alternate ← instrumentAlternate env alternate
      return some (.ifElse test (orEmptyBlock consequent) alternate)
    | .block stmts =>
      return some (.block (← inScope (statementList cx stmts (instrumentEach env stmts))))
    | .throw arg => return some (.throw (← arg.instrument env))
    | .forLoop init test update body =>
      inScope do
        let init ← instrumentForInit env init
        let test ← instrumentOptExpr env test
        let update ← instrumentOptExpr env update
        return some (.forLoop init test update (orEmptyBlock (← body.instrument env)))
    | .forIn left right body => do
      let right ← right.instrument env
      inScope do
        let left ← left.instrument env
        return some (.forIn left right (orEmptyBlock (← body.instrument env)))
    | .forOf left right body isAwait => do
      let right ← right.instrument env
      inScope do
        let left ← left.instrument env
        return some (.forOf left right (orEmptyBlock (← body.instrument env)) isAwait)
    | .while test body => do
      let test ← test.instrument env
      return some (.while test (orEmptyBlock (← body.instrument env)))
    | .doWhile body test => do
      let body ← body.instrument env
      return some (.doWhile (orEmptyBlock body) (← test.instrument env))
    | .tryCatch stmts handler finalizer => do
      let stmts ← inScope (statementList cx stmts (instrumentEach env stmts))
      let handler ← instrumentHandler env handler
      return some (.tryCatch stmts handler (← instrumentFinalizer env finalizer))
    | .switch discriminant cases => do
      let discriminant ← discriminant.instrument env
      return some (.switch discriminant (← inScope (instrumentCases env cases)))
    | .labeled label body => return some (.labeled label (orEmptyBlock (← body.instrument env)))
    | .break _ | .continue _ | .empty => return some s
    | .typeAlias decl => return some (← cx.declareAlias env decl)
    | .interface decl => return some (← cx.declareInterface env decl)
    | .import decl => return decl.toValue?.map .import
    | .export (some declaration) specifiers source _ => do
      match ← declaration.instrument env with
      | some declaration => return some (.export (some declaration) specifiers source .value)
      | none => return none
    | .export none specifiers source _ => return some (.export none specifiers source .value)
    | .exportDefault value => return some (.exportDefault (← value.instrument env))
end

end TypeGuard
