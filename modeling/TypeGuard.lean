import TypeGuard.Conformance
import TypeGuard.Main
import TypeGuard.Proofs.Erasure
import TypeGuard.Proofs.Lowering
import TypeGuard.Proofs.PassThrough
import TypeGuard.Proofs.Placement
import TypeGuard.Proofs.Rebuilding
import TypeGuard.Proofs.Resolution
import TypeGuard.Proofs.Shedding
import TypeGuard.Proofs.UnitNames
import TypeGuard.Wire.Diagnostic
import TypeGuard.Proofs.Wire.Reading
import TypeGuard.Proofs.Wire.StaticType
import TypeGuard.Proofs.Wire.Syntax
import TypeGuard.Proofs.Wire.Text
import TypeGuard.Proofs.Closure
import TypeGuard.Proofs.Hoisting
import TypeGuard.Proofs.Recursion
import TypeGuard.Proofs.Acceptance
import TypeGuard.Proofs.Acceptance.Extension
import TypeGuard.Proofs.Combinator.Reading
import TypeGuard.Proofs.Destructuring
import TypeGuard.Proofs.Ordering
import TypeGuard.Proofs.Agreement.Frame
import TypeGuard.Proofs.Agreement.Relation
import TypeGuard.Proofs.Agreement.Check
import TypeGuard.Proofs.Agreement.Syntax
import TypeGuard.Proofs.Agreement
import TypeGuard.Proofs.Mismatch
import TypeGuard.Proofs.Lowering.Failure
import TypeGuard.Proofs.Lowering.Shadowing
import TypeGuard.Proofs.Lowering.Exact
import TypeGuard.Proofs.Lowering.Special
import TypeGuard.Proofs.Confinement
import TypeGuard.Proofs.Printing.Leading
import TypeGuard.Proofs.Printing.Grouping
import TypeGuard.Proofs.Printing.Unambiguous
import TypeGuard.Proofs.Config.Comment
import TypeGuard.Proofs.Config.Load
import TypeGuard.Proofs.Destructuring.Path
import TypeGuard.Proofs.Lowering.Height
import TypeGuard.Proofs.Blame.Site
import TypeGuard.Proofs.Blame.Check
import TypeGuard.Proofs.Blame.Syntax
import TypeGuard.Proofs.Blame
import TypeGuard.Proofs.Text.Quoted
import TypeGuard.Proofs.Diagnostic.Filling
import TypeGuard.Proofs.Scope
