import TypeGuard.Combinator
import TypeGuard.Syntax.Build
import TypeGuard.Text.Letter

/-!
# Combinators as expressions

The expression that constructs a combinator at run time. It refers to two identifiers of the unit,
the imported library and the extend helper.
-/

namespace TypeGuard

/-- The identifiers that constructor expressions refer to. -/
structure RuntimeNames where
  /-- The imported library. -/
  library : String
  /-- The extend helper of the unit. -/
  extend : String
  deriving DecidableEq, Repr, Inhabited

/-- A predicate as an expression: its name, or a function that compares with the literal. -/
def Predicate.toExpr : Predicate → Expr
  | .ref name => .path name
  | .equals value =>
    let (param, operand) : String × Expr :=
      match value with
      | .number text => ("n", .num text)
      | .boolean b => ("b", .bool b)
      | .string s => ("s", .str s)
    let body : Stmt := .ret (some (.binary "===" (.ident param) operand))
    .function { Function.anonymous [body] with params := [Param.ofName param] }

/-- The key of a property: a plain name where it is an identifier, a string otherwise. -/
def PropKey.ofString (key : String) : PropKey :=
  if Text.isIdentifier key then .ident key else .str key

/-- The last argument of a constructor, the name if there is one. -/
def nameArg : Option String → List Expr
  | some name => [.str name]
  | none => []

/-- The last argument of an interface, which tells its name and whether it is exact. -/
def interfaceArgs : Option String → Bool → List Expr
  | some name, false => [.str name]
  | some name, true => [.objectOf [("name", .str name), ("strict", .bool true)]]
  | none, true => [.objectOf [("strict", .bool true)]]
  | none, false => []

namespace RuntimeNames

/-- The call of a constructor of the library. -/
def construct (names : RuntimeNames) (constructor : String) (args : List Expr) : Expr :=
  .callMember (.ident names.library) constructor args

end RuntimeNames

namespace Combinator

mutual
/-- The expression that constructs the combinator. -/
def toExpr (names : RuntimeNames) : Combinator → Expr
  | builtin type => .member (.ident names.library) type.libraryName
  | ref name => .path name
  | list elem name => names.construct "list" (elem.toExpr names :: nameArg name)
  | maybe inner name => names.construct "maybe" (inner.toExpr names :: nameArg name)
  | tuple elems name => names.construct "tuple" (.arrayOf (exprs names elems) :: nameArg name)
  | union members name => names.construct "union" (.arrayOf (exprs names members) :: nameArg name)
  | enum values name =>
    .callMember (.member (.ident names.library) "enums") "of"
      (.arrayOf (values.map .str) :: nameArg name)
  | dict key value name =>
    names.construct "dict" (key.toExpr names :: value.toExpr names :: nameArg name)
  | refinement base predicate name =>
    names.construct "refinement" (base.toExpr names :: predicate.toExpr :: nameArg name)
  | interface ps name exact =>
    names.construct "interface" (.object (propExprs names ps) :: interfaceArgs name exact)
  | intersection members name =>
    names.construct "intersection" (.arrayOf (exprs names members) :: nameArg name)
  | declare name => names.construct "declare" [.str name]
  | extend members name => .callName names.extend (.arrayOf (exprs names members) :: nameArg name)
  | props ps => .object (propExprs names ps)

def exprs (names : RuntimeNames) : List Combinator → List Expr
  | [] => []
  | c :: cs => c.toExpr names :: exprs names cs

def propExprs (names : RuntimeNames) : List (String × Combinator) → List ObjectProp
  | [] => []
  | (key, c) :: ps => .keyValue (.ofString key) (c.toExpr names) false :: propExprs names ps
end

end Combinator

end TypeGuard
