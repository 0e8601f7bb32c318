import TypeGuard.Syntax

/-!
# Precedence

How tightly each kind of expression binds. An expression stands in parentheses where its place asks
for a tighter one.
-/

namespace TypeGuard

namespace Precedence

def sequence : Nat := 1

def assignment : Nat := 2

def conditional : Nat := 3

def unary : Nat := 15

def call : Nat := 18

def primary : Nat := 20

/-- The precedence of a binary operator; an unknown one binds as loosely as `||`. -/
def ofOperator (op : String) : Nat :=
  if op ∈ ["??", "||"] then 4
  else if op = "&&" then 5
  else if op = "|" then 6
  else if op = "^" then 7
  else if op = "&" then 8
  else if op ∈ ["==", "!=", "===", "!=="] then 9
  else if op ∈ ["<", ">", "<=", ">=", "instanceof", "in"] then 10
  else if op ∈ ["<<", ">>", ">>>"] then 11
  else if op ∈ ["+", "-"] then 12
  else if op ∈ ["*", "/", "%"] then 13
  else if op = "**" then 14
  else 4

end Precedence

/-- How tightly the expression binds. -/
def Expr.precedence : Expr → Nat
  | .seq _ => Precedence.sequence
  | .assign .. | .spread _ | .yield .. => Precedence.assignment
  | .function func => if func.isArrow then Precedence.assignment else Precedence.primary
  | .conditional .. => Precedence.conditional
  | .binary op _ _ => Precedence.ofOperator op
  | .unary .. | .update .. | .await _ => Precedence.unary
  | .call .. | .new .. | .member .. | .index .. | .taggedTemplate .. => Precedence.call
  | _ => Precedence.primary

/-- Whether the text of the expression begins with `function`, `class` or a brace, which at the
beginning of a statement would be read as a declaration or a block. -/
def Expr.startsAmbiguously : Expr → Bool
  | .function func => !func.isArrow
  | .object _ | .class _ => true
  | .member obj _ => obj.startsAmbiguously
  | .index obj _ => obj.startsAmbiguously
  | .call callee _ => callee.startsAmbiguously
  | .taggedTemplate tag _ _ => tag.startsAmbiguously
  | .update _ false arg => arg.startsAmbiguously
  | .binary _ left _ => left.startsAmbiguously
  | .conditional test _ _ => test.startsAmbiguously
  | .seq (first :: _) => first.startsAmbiguously
  | .assign _ (.pattern (.object _)) _ _ => true
  | _ => false

/-- Whether this is an object literal. -/
def Expr.isObject : Expr → Bool
  | .object _ => true
  | _ => false

end TypeGuard
