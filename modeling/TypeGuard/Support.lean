import TypeGuard.Syntax.Build
import TypeGuard.UnitNames

/-!
# Runtime support

The statements that a unit needs for its checks: the import of the library, and the helpers that
assert a value and extend an interface.
-/

namespace TypeGuard.Support

/-- The statement `if (test) { consequent } else alternate`. -/
def ifThen (test : Expr) (consequent : List Stmt) (alternate : Option Stmt) : Stmt :=
  .ifElse test (.block consequent) alternate

def negated (e : Expr) : Expr := .unary "!" e

/-- The sum of several expressions. -/
def sum (first : Expr) (rest : List Expr) : Expr := rest.foldl (.binary "+") first

/-- A chain of accesses that starts at an identifier. -/
def chain (root : String) (path : List String) : Expr := path.foldl .member (.ident root)

/-- The name of the type at hand. -/
def typeNameOf (library : String) : Expr :=
  .callMember (.ident library) "getTypeName" [.ident "type"]

/-- The test whether the type at hand was made by the library. -/
def isLibraryType (library : String) : Expr := .callMember (.ident library) "isType" [.ident "type"]

/-! ### The import -/

/-- The import of the library. -/
def libraryImport (names : UnitNames) (library : String) : Stmt :=
  .import ⟨[.default names.library], library, .value⟩

/-! ### The assert helper -/

/-- Makes the library log its failures. -/
def logFailures (library : String) : Stmt :=
  let log : Function :=
    { Function.anonymous [.expr (.call (chain "console" ["warn"]) [.ident "message"])] with
      params := [.ofName "message"] }
  .expr (.assign "=" (.expr (.member (.ident library) "fail")) (.function log) .dummy)

/-- Checks a value against a type of the library. -/
def checkLibraryType (library : String) : Stmt :=
  let description := sum (.ident "name") [.str ": ", typeNameOf library]
  ifThen (negated (.callMember (.ident "type") "is" [.ident "x"]))
    [.expr (.callName "type" [.ident "x", .arrayOf [description]])] none

/-- Checks a value against a class. -/
def checkClass (library : String) : Stmt :=
  let message :=
    sum (.str "Invalid value ")
      [.callMember (.ident library) "stringify" [.ident "x"], .str " supplied to ", .ident "name",
        .str " (expected a ", typeNameOf library, .str ")"]
  ifThen (negated (.binary "instanceof" (.ident "x") (.ident "type")))
    [.expr (.callMember (.ident library) "fail" [message])] none

/-- The helper that asserts that a value is of a type and returns it. -/
def assertHelper (names : UnitNames) (warnOnFailure : Bool) : Stmt :=
  let library := names.library
  let isNoStruct := Expr.binary "!==" (chain "type" ["meta", "kind"]) (.str "struct")
  let body :=
    [ifThen (.binary "&&" (isLibraryType library) isNoStruct) [checkLibraryType library]
        (some (checkClass library)),
      .ret (some (.ident "x"))]
  .function (.declaration names.assert [.ofName "x", .ofName "type", .ofName "name"]
    (if warnOnFailure then logFailures library :: body else body))

/-! ### The extend helper -/

/-- The function that tells whether a type is `Any`, or `maybe` around it. -/
def isAnyFunction (library : String) : Function :=
  let isMaybe := Expr.binary "===" (chain "type" ["meta", "kind"]) (.str "maybe")
  { Function.arrow
      [ifThen (.binary "===" (.ident "type") (.member (.ident library) "Any"))
          [.ret (some (.bool true))] none,
        ifThen (.binary "&&" (isLibraryType library) isMaybe)
          [.ret (some (.callName "isAny" [chain "type" ["meta", "type"]]))] none,
        .ret (some (.bool false))] with
    params := [.ofName "type"] }

/-- The function that tells which types are kept. -/
def isKeptFunction : Function :=
  { Function.arrow [] with
    params := [.ofName "type"],
    body := .expr (negated (.callName "isAny" [.ident "type"])) }

/-- The helper that joins types into an interface, `Any` and `maybe` around it left out. -/
def extendHelper (names : UnitNames) : Stmt :=
  let kept := Expr.callMember (.ident "types") "filter" [.function isKeptFunction]
  let extended := Expr.call (chain names.library ["interface", "extend"]) [kept, .ident "name"]
  .function (.declaration names.extend [.ofName "types", .ofName "name"]
    [.constDecl "isAny" (.function (isAnyFunction names.library)) .dummy, .ret (some extended)])

end TypeGuard.Support
