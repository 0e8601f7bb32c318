import TypeGuard.Syntax

/-!
# Building syntax

Shorthands for the trees that are put into a unit. What they build stands for no source text, unless
a span is given.
-/

namespace TypeGuard

namespace Expr

/-- The call of a named function. -/
def callName (name : String) (args : List Expr) : Expr := call (ident name) args

/-- The call of a method. -/
def callMember (obj : Expr) (name : String) (args : List Expr) : Expr := call (member obj name) args

/-- The expression `void 0`. -/
def void0 : Expr := unary "void" (num "0")

/-- An array literal without holes. -/
def arrayOf (elems : List Expr) : Expr := array (elems.map some)

/-- An object literal with plain names as keys. -/
def objectOf (props : List (String × Expr)) : Expr :=
  object (props.map fun (key, value) => .keyValue (.ident key) value false)

/-- The name with several segments as a chain of accesses. -/
def path (name : TypeName) : Expr :=
  match name.parts with
  | [] => void0
  | first :: rest => rest.foldl member (ident first)

/-- Whether this is the identifier `undefined`. -/
def isUndefined : Expr → Bool
  | ident name => name == "undefined"
  | _ => false

end Expr

namespace Function

/-- An anonymous function without parameters. -/
def anonymous (body : List Stmt) : Function :=
  ⟨none, [], .block body, none, [], false, false, false, .dummy⟩

/-- An arrow function without parameters. -/
def arrow (body : List Stmt) : Function := { anonymous body with isArrow := true }

/-- A declared function. -/
def declaration (name : String) (params : List Param) (body : List Stmt) : Function :=
  { anonymous body with id := some name, params := params }

end Function

/-- A parameter without type. -/
def Param.ofName (name : String) : Param := ⟨.ident name, none, false⟩

/-- The declaration of a constant. -/
def Stmt.constDecl (name : String) (init : Expr) (span : Span) : Stmt :=
  .varDecl ⟨.const, [⟨.ident name, none, some init, span⟩], span⟩

end TypeGuard
