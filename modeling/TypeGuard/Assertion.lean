import TypeGuard.Printing.Syntax
import TypeGuard.Syntax.Build

/-!
# Assertions

The parts of an inserted check: the call that asserts a value, the literals that need none, what the
check of a parameter looks at, and the value that a function body produces.
-/

namespace TypeGuard

namespace Expr

/-- The call that asserts a value under a label, by the helper of the given name. -/
def asserted (assertName : String) (value type : Expr) (label : String) : Expr :=
  callName assertName [value, type, str label]

/-- Whether the expression is a literal of the keyword type. -/
def isLiteralOf : Primitive → Expr → Bool
  | .boolean, bool _ => true
  | .number, num _ => true
  | .string, str _ => true
  | .null, null => true
  | .void, e => e.isUndefined
  | _, _ => false

/-- Whether the expression is a literal that is plainly of the type, which may be the inner type of
one `?T`. Such a value needs no check. -/
def isPlainly (e : Expr) : StaticType → Bool
  | .primitive p => e.isLiteralOf p
  | .nullable (.primitive p) => e.isLiteralOf p
  | _ => false

end Expr

/-! ### Parameters -/

namespace PropKey

/-- Whether the key is a plain name and the value the identifier of that name. -/
def abbreviates : PropKey → Expr → Bool
  | ident key, .ident name => key == name
  | _, _ => false

end PropKey

mutual
/-- The value that a pattern takes apart, put together again from the names that it binds. Default
values are left out. -/
def Pattern.toValue : Pattern → Expr
  | .ident name => .ident name
  | .default left _ => left.toValue
  | .rest inner => .spread inner.toValue
  | .array elems => .array (elemValues elems)
  | .object props => .object (propValues props)

def elemValues : List (Option Pattern) → List (Option Expr)
  | [] => []
  | some p :: ps => some p.toValue :: elemValues ps
  | none :: ps => none :: elemValues ps

/-- Properties that are rebuilt; the remaining properties stand under their own name where they have
one. -/
def propValues : List PatternProp → List ObjectProp
  | [] => []
  | .keyValue key value _ :: ps =>
    .keyValue key value.toValue (key.abbreviates value.toValue) :: propValues ps
  | .rest (.ident name) :: ps => .keyValue (.ident name) (.ident name) true :: propValues ps
  | .rest inner :: ps => .spread inner.toValue :: propValues ps
end

namespace Param

/-- What the check of a parameter looks at: the pattern behind the rest mark or default value. -/
def checked (p : Param) : Pattern :=
  match p.pattern with
  | .rest inner => inner
  | .default left _ => left
  | pattern => pattern

end Param

/-! ### Return values -/

/-- The label of every check of a return value. -/
def returnLabel : String := "return value"

namespace FunctionBody

/-- The statements of a body; a concise body returns its expression. -/
def stmts : FunctionBody → List Stmt
  | block stmts => stmts
  | expr value => [.ret (some value)]

end FunctionBody

/-- The expression for the value that the statements of a function body return: `void 0` where there
are none, a called arrow function for an arrow function, and otherwise a function applied to the
receiver and arguments at hand. The body of an async function stays within an async function, so
that the value is its promise. -/
def producedValue (isArrow isAsync : Bool) (stmts : List Stmt) : Expr :=
  if stmts.isEmpty && !isAsync then .void0
  else if isArrow then .call (.function { Function.arrow stmts with isAsync }) []
  else
    .callMember (.function { Function.anonymous stmts with isAsync }) "apply"
      [.this, .ident "arguments"]

end TypeGuard
