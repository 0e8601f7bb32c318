import TypeGuard.Lowering
import TypeGuard.Proofs.Results

/-!
# Exact object types

An object type is exact by a flag of its own or as the argument of `$Exact`. The two spellings are
lowered alike exactly where the object type has no indexer: the flag gives way to an indexer, and
`$Exact` passes over all of them, `StaticType.lower_exactly`.
-/

namespace TypeGuard

open Results

/-- The type `$Exact<shape>`. -/
def StaticType.exactly (shape : ObjectShape) : StaticType :=
  .generic ⟨.simple "$Exact", some [.object shape]⟩

namespace Lowering

variable {env : Environment} {sub : Sub} {name : Option String}

theorem level_exactly (shape : ObjectShape) : level env sub name (.exactly shape) =
    level env sub name (.object { shape with indexers := [], exact := true }) := by
  have hkind : GenericRef.classify env ⟨.simple "$Exact", some [.object shape]⟩ = .ok .exact := rfl
  have hargs : GenericRef.args ⟨.simple "$Exact", some [.object shape]⟩ = [.object shape] := rfl
  simp only [StaticType.exactly, level, generic, hkind, hargs, ok_bind, object]
  cases properties sub shape.properties <;> rfl

end Lowering

namespace StaticType

variable {env : Environment} {name : Option String} {shape : ObjectShape}

/-- Lowering `$Exact` passes over the indexers of its argument. -/
theorem lower_exactly_eq (env : Environment) (name : Option String) (shape : ObjectShape) :
    (exactly shape).lower env name =
      (object { shape with indexers := [], exact := true }).lower env name :=
  congrArg (Except.map _) (Lowering.level_exactly shape)

/-- What an object type is lowered to tells whether it has an indexer. -/
theorem lower_object_eq_ok {c : Combinator} (h : (object shape).lower env name = .ok c) :
    (shape.indexers = [] ∧ ∃ props, c = .interface props name shape.exact) ∨
      (shape.indexers ≠ [] ∧ ∃ key value, c = .dict key value name) := by
  obtain ⟨l, hl, rfl⟩ := map_eq_ok.mp h
  obtain ⟨d, hd, rfl⟩ := map_eq_ok.mp hl
  unfold Lowering.object at hd
  split at hd
  · rename_i hindexers
    obtain ⟨props, -, rfl⟩ := map_eq_ok.mp hd
    exact .inl ⟨hindexers, props, rfl⟩
  · rename_i indexer hindexers
    obtain ⟨key, -, hd⟩ := bind_eq_ok.mp hd
    obtain ⟨value, -, ⟨⟩⟩ := bind_eq_ok.mp hd
    exact .inr ⟨by simp [hindexers], key, value, rfl⟩
  · cases hd

theorem lower_exactly_ne_ok {c : Combinator} (hindexers : shape.indexers ≠ [])
    (h : (exactly shape).lower env name = .ok c) :
    (object { shape with exact := true }).lower env name ≠ .ok c := by
  intro hflagged
  rw [lower_exactly_eq] at h
  obtain ⟨-, props, rfl⟩ | ⟨hne, -⟩ := lower_object_eq_ok h
  · obtain ⟨hnone, -⟩ | ⟨-, key, value, hdict⟩ := lower_object_eq_ok hflagged
    · exact hindexers hnone
    · cases hdict
  · exact hne rfl

/-- The two spellings of an exact object type agree exactly where it has no indexer or both fail
with the same error: `$Exact` is lowered as if its argument had no indexer. -/
theorem lower_exactly (env : Environment) (name : Option String) (shape : ObjectShape) :
    let flagged := object { shape with exact := true }
    (exactly shape).lower env name =
      (object { shape with indexers := [], exact := true }).lower env name ∧
    ((exactly shape).lower env name = flagged.lower env name ↔ shape.indexers = [] ∨
      ∃ e, (exactly shape).lower env name = .error e ∧ flagged.lower env name = .error e) := by
  intro flagged
  refine ⟨lower_exactly_eq env name shape, fun h => ?_, ?_⟩
  · refine or_iff_not_imp_left.mpr fun hindexers => ?_
    cases hexactly : (exactly shape).lower env name with
    | ok c => exact absurd (h.symm.trans hexactly) (lower_exactly_ne_ok hindexers hexactly)
    | error e => exact ⟨e, rfl, h.symm.trans hexactly⟩
  · rintro (hindexers | ⟨e, hexactly, hflagged⟩)
    · rw [lower_exactly_eq, ← hindexers]
    · rw [hexactly, hflagged]

/-- The types `$Exact<{ [k: string]: number }>` and `{| [k: string]: number |}`, and the same with
two indexers. -/
theorem indexedShape_disagrees :
    let byKey : ObjectIndexer := ⟨some "k", .primitive .string, .primitive .number⟩
    let one : ObjectShape := ⟨[], [byKey], true⟩
    let two : ObjectShape := ⟨[], [byKey, byKey], true⟩
    (exactly one).lower (.root [] []) none = .ok (.interface [] none true) ∧
    (object one).lower (.root [] []) none =
      .ok (.dict (.builtin .string) (.builtin .number) none) ∧
    (exactly two).lower (.root [] []) none = .ok (.interface [] none true) ∧
    (object two).lower (.root [] []) none = .error (.ambiguousIndexer 2) :=
  ⟨rfl, rfl, rfl, rfl⟩

end StaticType

end TypeGuard
