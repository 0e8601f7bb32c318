import TypeGuard.Span
import TypeGuard.StaticType

/-!
# Annotated syntax trees

Statements, expressions and patterns of the host language with their static annotations. The same
trees describe a unit before and after its checks were put in; afterwards no annotation is left.
-/

namespace TypeGuard

inductive VarKind where
  | var
  | let
  | const
  deriving DecidableEq, Repr, Inhabited

def VarKind.keyword : VarKind → String
  | .var => "var"
  | .let => "let"
  | .const => "const"

/-- What an import or export moves: a value, a type, or the type of a value. -/
inductive ImportKind where
  | value
  | type
  | typeof
  deriving DecidableEq, Repr, Inhabited

inductive ImportSpecifier where
  | default (localName : String)
  | namespace (localName : String)
  | named (imported localName : String) (kind : Option ImportKind)
  deriving DecidableEq, Repr, Inhabited

structure ImportDecl where
  specifiers : List ImportSpecifier
  source : String
  kind : ImportKind
  deriving DecidableEq, Repr, Inhabited

structure ExportSpecifier where
  localName : String
  exported : String
  deriving DecidableEq, Repr, Inhabited

inductive MethodKind where
  | constructor
  | method
  | get
  | set
  deriving DecidableEq, Repr, Inhabited

/-- The declaration `type id<params> = right`. -/
structure TypeAlias where
  id : String
  typeParams : List TypeParam
  right : StaticType
  /-- Whether the declaration refers to itself. -/
  recursive : Bool
  span : Span

/-- The declaration `interface id<params> extends parents { body }`. -/
structure InterfaceDecl where
  id : String
  typeParams : List TypeParam
  parents : List GenericRef
  body : ObjectShape
  /-- Whether the declaration refers to itself. -/
  recursive : Bool
  span : Span

mutual
inductive Expr where
  | ident (name : String)
  | this
  | super
  | null
  | bool (value : Bool)
  /-- A number, as its source text. -/
  | num (text : String)
  | str (value : String)
  | regex (pattern flags : String)
  /-- A template literal: the raw texts, and the expressions between them. -/
  | template (quasis : List String) (exprs : List Expr)
  | taggedTemplate (tag : Expr) (quasis : List String) (exprs : List Expr)
  /-- An array literal; `none` is a hole. -/
  | array (elems : List (Option Expr))
  | object (props : List ObjectProp)
  | function (func : Function)
  | class (decl : Class)
  /-- The access `object.name`. -/
  | member (object : Expr) (name : String)
  /-- The access `object[index]`. -/
  | index (object : Expr) (index : Expr)
  | call (callee : Expr) (args : List Expr)
  | new (callee : Expr) (args : List Expr)
  | unary (op : String) (arg : Expr)
  /-- An update, before its operand where `isPrefix` holds and after it otherwise. -/
  | update (op : String) (isPrefix : Bool) (arg : Expr)
  | binary (op : String) (left right : Expr)
  | conditional (test consequent alternate : Expr)
  | assign (op : String) (target : AssignTarget) (value : Expr) (span : Span)
  | seq (exprs : List Expr)
  | spread (arg : Expr)
  | await (arg : Expr)
  | yield (arg : Option Expr) (delegate : Bool)
  | paren (inner : Expr)
  /-- The cast `(inner: type)`. -/
  | cast (inner : Expr) (type : StaticType) (optional : Bool) (span : Span)

inductive PropKey where
  | ident (name : String)
  | str (value : String)
  | num (text : String)
  | computed (expr : Expr)

inductive ObjectProp where
  | keyValue (key : PropKey) (value : Expr) (shorthand : Bool)
  | method (key : PropKey) (func : Function)
  | spread (arg : Expr)

inductive AssignTarget where
  | pattern (target : Pattern)
  | expr (target : Expr)

inductive Pattern where
  | ident (name : String)
  | object (props : List PatternProp)
  /-- An array pattern; `none` is a hole. -/
  | array (elems : List (Option Pattern))
  /-- A pattern with a default value. -/
  | default (left : Pattern) (right : Expr)
  | rest (inner : Pattern)

inductive PatternProp where
  | keyValue (key : PropKey) (value : Pattern) (shorthand : Bool)
  | rest (inner : Pattern)

structure Param where
  /-- The pattern, with its default value if there is one. -/
  pattern : Pattern
  type : Option StaticType
  /-- Whether the parameter is marked by a question mark. -/
  optional : Bool

inductive FunctionBody where
  | block (stmts : List Stmt)
  /-- The concise body of an arrow function. -/
  | expr (value : Expr)

structure Function where
  id : Option String
  params : List Param
  body : FunctionBody
  returnType : Option StaticType
  typeParams : List TypeParam
  isAsync : Bool
  isArrow : Bool
  isGenerator : Bool
  span : Span

inductive ClassMember where
  | method (key : PropKey) (kind : MethodKind) (isStatic : Bool) (func : Function)
  | property (key : PropKey) (type : Option StaticType) (value : Option Expr)
      (isStatic : Bool)

structure Class where
  id : Option String
  superClass : Option Expr
  typeParams : List TypeParam
  body : List ClassMember
  span : Span

structure Declarator where
  id : Pattern
  type : Option StaticType
  init : Option Expr
  span : Span

structure VarDecl where
  kind : VarKind
  declarators : List Declarator
  span : Span

/-- The first clause of a `for` with three clauses. -/
inductive ForInit where
  | varDecl (decl : VarDecl)
  | expr (value : Expr)

/-- The left side of a `for` over keys or values. -/
inductive ForHead where
  | varDecl (decl : VarDecl)
  | target (target : AssignTarget)

structure CatchClause where
  param : Option Pattern
  body : List Stmt

/-- A case of a `switch`; the default case has no test. -/
structure SwitchCase where
  test : Option Expr
  consequent : List Stmt

inductive Stmt where
  | expr (value : Expr)
  | varDecl (decl : VarDecl)
  | function (func : Function)
  | class (decl : Class)
  | ret (arg : Option Expr)
  | ifElse (test : Expr) (consequent : Stmt) (alternate : Option Stmt)
  | block (stmts : List Stmt)
  | throw (arg : Expr)
  | forLoop (init : Option ForInit) (test update : Option Expr) (body : Stmt)
  | forIn (left : ForHead) (right : Expr) (body : Stmt)
  | forOf (left : ForHead) (right : Expr) (body : Stmt) (isAwait : Bool)
  | while (test : Expr) (body : Stmt)
  | doWhile (body : Stmt) (test : Expr)
  | tryCatch (block : List Stmt) (handler : Option CatchClause) (finalizer : Option (List Stmt))
  | switch (discriminant : Expr) (cases : List SwitchCase)
  | break (label : Option String)
  | continue (label : Option String)
  | labeled (label : String) (body : Stmt)
  | empty
  | typeAlias (decl : TypeAlias)
  | interface (decl : InterfaceDecl)
  | import (decl : ImportDecl)
  | export (declaration : Option Stmt) (specifiers : List ExportSpecifier)
      (source : Option String) (kind : ImportKind)
  | exportDefault (value : Expr)
end

/-- One compilation unit. -/
structure Program where
  fileName : String
  body : List Stmt

instance : Inhabited Expr := ⟨.this⟩
instance : Inhabited Stmt := ⟨.empty⟩
instance : Inhabited Pattern := ⟨.object []⟩

end TypeGuard
