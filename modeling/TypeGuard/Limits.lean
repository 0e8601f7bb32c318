/-!
# Limits

Bounds on how deeply trees are followed, so that hostile input ends in a diagnostic or is left as it
is.
-/

namespace TypeGuard.Limits

/-- How deeply a type may nest before lowering it fails. -/
def typeDepth : Nat := 256

/-- How many steps into a binding pattern are followed. -/
def patternDepth : Nat := 100

/-- How deeply statements and expressions are visited. -/
def treeDepth : Nat := 500

/-- The largest suffix that is tried for a generated name. -/
def nameSuffix : Nat := 10000

end TypeGuard.Limits
