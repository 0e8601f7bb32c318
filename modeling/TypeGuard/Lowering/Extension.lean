import TypeGuard.Lowering

/-!
# Extended interfaces

An interface that extends others joins its parents, by name, with its own properties. Refinements
among the parents are no parents: their predicates are put on top of the own properties.
-/

namespace TypeGuard

namespace GenericRef

/-- Whether the parent stands for a predicate. -/
def isRefinement (ref : GenericRef) : Bool := ref.name.is "$Refinement"

end GenericRef

namespace Lowering

/-- The own properties of an interface with the predicates on top. -/
def ownMember (props : List (String × Combinator)) : List Predicate → Combinator
  | [] => .props props
  | predicates => predicates.foldl (.refinement · · none) (.interface props none false)

end Lowering

namespace ObjectShape

/-- The check of an interface with parents. -/
def lowerExtending (env : Environment) (parents : List GenericRef) (name : Option String)
    (body : ObjectShape) : Except LoweringError Combinator := do
  let predicates ← (parents.filter (·.isRefinement)).mapM (·.refinementPredicate)
  let refs := (parents.filter fun p => !p.isRefinement).map fun p => Combinator.ref p.name
  let props ← body.lowerProperties env
  return .extend (refs ++ [Lowering.ownMember props predicates]) name

end ObjectShape

end TypeGuard
