import TypeGuard.Combinator.Expression

/-!
# Pending definitions

A recursive type is declared where its declaration stands and defined later, so that its check can
refer to its name. The definitions that are still to be written form a queue.
-/

namespace TypeGuard

/-- A definition that is still to be written. -/
structure Definition where
  name : String
  check : Combinator
  deriving Inhabited

namespace Definition

/-- The statement that declares a recursive type. -/
def declare (names : RuntimeNames) (name : String) (span : Span) : Stmt :=
  .constDecl name ((Combinator.declare name).toExpr names) span

/-- The statement that defines a recursive type. -/
def toStmt (names : RuntimeNames) (d : Definition) : Stmt :=
  .expr (.callMember (.ident d.name) "define" [d.check.toExpr names])

/-- The statements of the definitions after the first `start`, and what stays in the queue. -/
def flushSince (names : RuntimeNames) (start : Nat) (queue : List Definition) :
    List Stmt × List Definition :=
  ((queue.drop start).map (toStmt names), queue.take start)

end Definition

end TypeGuard
