import TypeGuard.Proofs.Wire.Syntax
import TypeGuard.Run

/-!
# Texts of units

A unit goes from one run to the next as text. Its text is read back as the unit if its brackets nest
no deeper than readers of texts follow. No number in it is lost on the way, since it has integers
only, `Program.toJson_integral`.
-/

namespace TypeGuard.Program

theorem toJson_integral (p : Program) : p.toJson.Integral := p.reads.1

/-- A unit is read back from its text on one line. -/
theorem ofText?_text {p : Program} (h : p.toJson.depth ≤ Config.Reading.maxDepth) :
    ofText? p.toJson.text = some p := by
  show (Json.scan p.toJson.text).bind _ = _
  rw [Json.scan_text p.toJson_integral]
  exact p.reads.2 _ h

/-- A unit is read back from what a run prints that is asked for the tree. -/
theorem ofText?_render {args : Arguments} (hast : args.emitAst = true) {p : Program}
    (h : p.toJson.depth ≤ Config.Reading.maxDepth) : ofText? (args.render p) = some p := by
  have hrender : args.render p = p.toJson.prettyText ++ "\n" := if_pos hast
  show (Json.scan (args.render p)).bind _ = _
  rw [hrender, Json.scan_prettyText p.toJson_integral]
  exact p.reads.2 _ h

end TypeGuard.Program
