import TypeGuard.Combinator.Expression
import TypeGuard.FreshName
import TypeGuard.Mention

/-!
# Generated names of a unit

The identifiers that a unit gets in addition to its own. They are chosen so that none of them
collides with a name that the unit mentions.
-/

namespace TypeGuard

/-- The identifiers of the library, the assert helper and the extend helper. -/
structure UnitNames where
  /-- The imported library. -/
  library : String
  /-- The assert helper. -/
  assert : String
  /-- The extend helper. -/
  extend : String
  deriving DecidableEq, Repr, Inhabited

namespace UnitNames

/-- The names for a unit, chosen one after the other. -/
def ofProgram (p : Program) : UnitNames :=
  let (library, taken) := FreshName.generate p.mentions "t"
  let (assert, taken) := FreshName.generate taken "assert"
  let (extend, _) := FreshName.generate taken "extend"
  ⟨library, assert, extend⟩

/-- The names that the constructors of checks refer to. -/
def runtime (names : UnitNames) : RuntimeNames := ⟨names.library, names.extend⟩

end UnitNames

end TypeGuard
