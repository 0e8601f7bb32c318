import TypeGuard.Diagnostic

/-!
# Lowering errors

Why a type has no runtime check.
-/

namespace TypeGuard

inductive LoweringError where
  /-- A generic list type with other than one argument. -/
  | arity (name : String) (got : Nat)
  /-- An object type with several indexers. -/
  | ambiguousIndexer (count : Nat)
  /-- A refinement without exactly one `typeof` argument. -/
  | invalidRefinement
  /-- A reification without exactly one named type as its argument. -/
  | invalidReify
  /-- An exact type without exactly one object type as its argument. -/
  | invalidExact
  /-- A kind of type that has no meaning here. -/
  | unsupported (kind : String)
  /-- A type that nests too deeply. -/
  | tooDeep (limit : Nat)
  deriving DecidableEq, Repr, Inhabited

namespace LoweringError

def message : LoweringError → String
  | arity name got =>
    "unsupported " ++ name ++ " type annotation: expected 1 type parameter, got " ++ toString got
  | ambiguousIndexer count => "object type declares " ++ toString count ++ " indexers"
  | invalidRefinement => "invalid refinement definition"
  | invalidReify => "invalid use of $Reify"
  | invalidExact => "invalid use of $Exact"
  | unsupported kind => "unsupported type annotation: " ++ kind
  | tooDeep limit => "type annotation nested deeper than " ++ toString limit

def code : LoweringError → UInt32
  | arity _ _ => Diagnostic.codeListArity
  | ambiguousIndexer _ => Diagnostic.codeAmbiguousIndexer
  | invalidRefinement => Diagnostic.codeInvalidRefinement
  | invalidReify => Diagnostic.codeInvalidReify
  | invalidExact => Diagnostic.codeInvalidExact
  | unsupported _ => Diagnostic.codeUnsupportedType
  | tooDeep _ => Diagnostic.codeTooDeep

/-- What fills the holes of the code's template. -/
def args : LoweringError → List String
  | arity name got => [name, toString got]
  | ambiguousIndexer count => [toString count]
  | unsupported kind => [kind]
  | tooDeep limit => [toString limit]
  | invalidRefinement | invalidReify | invalidExact => []

/-- The error as a diagnostic at a span. -/
def toDiagnostic (file : String) (span : Span) (e : LoweringError) : Diagnostic :=
  .atSpan file span e.code e.args

end LoweringError

end TypeGuard
