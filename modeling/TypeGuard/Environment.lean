import TypeGuard.StaticType

/-!
# Type environments

The type parameters in scope and the names that are erased: configured globals, ambient types and a
fixed set of pseudo-generics of the static checker that have no runtime shape.
-/

namespace TypeGuard

/-- Pseudo-generics that carry no runtime shape. -/
def erasedPseudoGenerics : List String :=
  ["$Shape", "$Keys", "$Diff", "$Abstract", "$Subtype", "$ObjMap"]

/-- Names that cannot be declared as types. -/
def reservedTypeNames : List String := ["$Refinement", "$Reify"]

def isReservedTypeName (name : String) : Bool := reservedTypeNames.contains name

/-- The type parameters in scope with their bounds, innermost first, and the erased names. -/
structure Environment where
  params : List (String × Option StaticType)
  erased : List String

instance : Inhabited Environment := ⟨⟨[], []⟩⟩

namespace Environment

/-- The environment without type parameters. Globals and ambient types are both erased. -/
def root (globals ambientTypes : List String) : Environment :=
  ⟨[], erasedPseudoGenerics ++ globals ++ ambientTypes⟩

/-- The environment with further type parameters, the last of a list innermost. -/
def child (env : Environment) (params : List TypeParam) : Environment :=
  { env with params := (params.map fun p => (p.name, p.bound)).reverse ++ env.params }

/-- The bound of the innermost type parameter with a name, if there is such a parameter. -/
def param? (env : Environment) (name : String) : Option (Option StaticType) :=
  env.params.lookup name

def isErased (env : Environment) (name : String) : Bool := env.erased.contains name

end Environment

end TypeGuard
