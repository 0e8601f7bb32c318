import TypeGuard.Proofs.Lowering.Fault
import TypeGuard.Proofs.Lowering.Node

/-!
# Names of lowered types

A type that is lowered under a name has the check that it has without a name, with the name at the
root or nowhere, `StaticType.lower_named`. The name is missing where the root has no place for one,
and where the check is that of another type, which is lowered without a name.
-/

namespace TypeGuard

open Results

/-- The lowered type with the name at its root. A carrier under a predicate does not take it. -/
def Lowered.withName (name : String) (l : Lowered) : Lowered :=
  match l.predicate with
  | some _ => l
  | none => .plain (l.carrier.withName name)

theorem Lowered.close_withName (name : String) (l : Lowered) :
    (l.withName name).close name = (l.close none).withName name := by
  obtain ⟨carrier, predicate⟩ := l
  cases predicate <;> rfl

namespace Lowering

/-- The check of a type is that of another one: a type parameter has the check of its bound, and an
intersection of one type that is no refinement has the check of this type. -/
inductive Transparent (env : Environment) (sub : Sub) : StaticType → Prop where
  | bound {ref bound} : ref.classify env = .ok (.typeParam (some bound)) →
      Transparent env sub (.generic ref)
  | single {member l} : sub member = .ok l → l.predicate = none →
      Transparent env sub (.intersection [member])

variable {env : Environment} {sub : Sub} {t : StaticType} {name : String}

theorem union_some (sub : Sub) (members : List StaticType) (name : String) :
    union sub members name = (union sub members none).map (·.withName name) := by
  unfold union
  split
  · rfl
  · cases parts sub members <;> rfl

theorem object_some (sub : Sub) (shape : ObjectShape) (name : String) :
    object sub shape name = (object sub shape none).map (·.withName name) := by
  unfold object
  split
  · cases properties sub shape.properties <;> rfl
  · rename_i indexer _
    cases part sub indexer.key with
    | error e => rfl
    | ok key => cases part sub indexer.value <;> rfl
  · rfl

/-- Only the outermost refinement takes the name. -/
theorem stack_some (c : Combinator) (p : Predicate) (ps : List Predicate) (name : String) :
    stack c name (p :: ps) = (stack c none (p :: ps)).withName name := by
  induction ps generalizing c p with
  | nil => rfl
  | cons q qs ih => exact ih (.refinement c p none) q

theorem meet_some {cs : List Combinator} (h : cs.length ≠ 1) (name : String) :
    meet name cs = (meet none cs).withName name := by
  match cs with
  | [] | _ :: _ :: _ => rfl
  | [c] => exact absurd rfl h

/-- An intersection of plain members is that of its only member, if it has one only. -/
theorem intersection_some {members : List StaticType}
    (h : ¬ Transparent env sub (.intersection members)) :
    intersection sub members name = (intersection sub members none).map (·.withName name) := by
  unfold intersection
  cases hlowered : members.mapM sub with
  | error e => rfl
  | ok ls =>
    refine congrArg Except.ok ?_
    dsimp only
    cases hpredicates : ls.filterMap (·.predicate) with
    | cons p ps => exact stack_some _ p ps name
    | nil =>
      -- all members are plain, so that one carrier is left only if there is one member
      refine meet_some (fun hsingle => ?_) name
      have hplain : ∀ l ∈ ls, l.predicate = none := by simpa using hpredicates
      have hall : ls.filter (·.predicate.isNone) = ls :=
        List.filter_eq_self.mpr fun l hl => by simp [hplain l hl]
      rw [hall, List.length_map] at hsingle
      obtain ⟨l, rfl⟩ := List.length_eq_one_iff.mp hsingle
      obtain ⟨member, rest, hmember, hrest, rfl⟩ :=
        List.forall₂_cons_right_iff.mp (mapM_eq_ok.mp hlowered)
      cases hrest
      exact h (.single hmember (hplain l List.mem_cons_self))

theorem generic_some {ref : GenericRef} (h : ¬ Transparent env sub (.generic ref)) :
    generic env sub ref name = (generic env sub ref none).map (·.withName name) := by
  unfold generic
  cases hkind : ref.classify env with
  | error e => rfl
  | ok kind =>
    match kind with
    | .list =>
      rw [ok_bind, ok_bind]
      dsimp only
      split
      · rename_i elem _
        cases part sub elem <;> rfl
      · rfl
    | .exact =>
      rw [ok_bind, ok_bind]
      dsimp only
      split
      · rename_i shape _
        cases properties sub shape.properties <;> rfl
      · rfl
    | .typeParam (some bound) => exact absurd (.bound hkind) h
    | .function | .object | .promise | .erased | .reify _ | .typeParam none | .refinement _
    | .nominal => rfl

theorem map_plain_withName (x : Except LoweringError Combinator) :
    (x.map (·.withName name)).map .plain = (x.map .plain).map (Lowered.withName name) := by
  cases x <;> rfl

/-- The check of a type under a name is the one without a name, with the name at its root. -/
theorem level_some (h : ¬ Transparent env sub t) :
    level env sub name t = (level env sub none t).map (·.withName name) := by
  cases t with
  | primitive | existential | typeof | function | unsupported => rfl
  | literal value => cases value <;> rfl
  | list | nullable | tuple =>
    rw [level, level, map_map]
    rfl
  | union members =>
    exact (congrArg _ (union_some sub members name)).trans (map_plain_withName _)
  | object shape =>
    exact (congrArg _ (object_some sub shape name)).trans (map_plain_withName _)
  | intersection members =>
    exact (congrArg _ (intersection_some h)).trans (map_plain_withName _)
  | generic ref => exact generic_some h

theorem level_some_of_transparent (h : Transparent env sub t) :
    level env sub name t = level env sub none t := by
  cases h with
  | bound hkind => simp only [level, generic, hkind, ok_bind]
  | @single member l hl hplain =>
    simp [level, intersection, hl, hplain, ok_bind, pure, Except.pure, meet, stack]

theorem Transparent.follows {sub' : Sub} (hsub : ∀ u, Follows sub sub' u)
    (h : Transparent env sub t) : Transparent env sub' t := by
  cases h with
  | bound hkind => exact .bound hkind
  | single hl hplain => exact .single (hsub _ _ hl) hplain

end Lowering

namespace StaticType

open Lowering (Transparent)

variable {env : Environment} {t : StaticType} {name : String} {c : Combinator}

/-- How the parts of a type are lowered. -/
abbrev partSub (env : Environment) : Lowering.Sub :=
  Lowering.within env (Limits.typeDepth - 1) none

theorem lowerMarked_eq (env : Environment) (name : Option String) (t : StaticType) :
    t.lowerMarked env name = Lowering.level env (partSub env) name t := rfl

theorem partSub_follows (env : Environment) (t : StaticType) :
    Lowering.Follows (partSub env) (lowerMarked env none) t :=
  Lowering.within_mono (Nat.sub_le ..) t

/-- The check under a name is the one without a name, with the name at its root unless the check is
that of another type. -/
theorem exists_lower_none (h : t.lower env name = .ok c) :
    ∃ d, t.lower env none = .ok d ∧
      (c = d.withName name ∨ c = d ∧ Transparent env (lowerMarked env none) t) := by
  obtain ⟨l, hl, rfl⟩ := map_eq_ok.mp h
  rw [lowerMarked_eq] at hl
  by_cases htransparent : Transparent env (partSub env) t
  · rw [Lowering.level_some_of_transparent htransparent] at hl
    refine ⟨l.close none, map_eq_ok.mpr ⟨l, hl, rfl⟩, ?_⟩
    obtain ⟨carrier, _ | predicate⟩ := l
    · exact .inr ⟨rfl, htransparent.follows (partSub_follows env)⟩
    · exact .inl rfl
  · rw [Lowering.level_some htransparent] at hl
    obtain ⟨l', hl', rfl⟩ := map_eq_ok.mp hl
    exact ⟨l'.close none, map_eq_ok.mpr ⟨l', hl', rfl⟩, .inl (l'.close_withName name)⟩

/-- The check of a type has nodes as lowering makes them, apart from a name at its root. -/
theorem exists_made {name : Option String} (h : t.lower env name = .ok c) :
    ∃ d label, Lowering.Made env d ∧ c = d.named label := by
  cases name with
  | none => exact ⟨c, none, made_lower h, rfl⟩
  | some name =>
    obtain ⟨d, hd, rfl | ⟨rfl, -⟩⟩ := exists_lower_none h
    · exact ⟨d, some name, made_lower hd, rfl⟩
    · exact ⟨c, none, made_lower hd, rfl⟩

theorem unnamed_eq {d : Combinator} (hd : t.lower env none = .ok d)
    (h : c = d.withName name ∨ c = d) : c.unnamed = d := by
  have hnone : d.unnamed = d := Combinator.unnamed_of_name? (made_lower hd).root.name?_eq_none
  obtain rfl | rfl := h
  · rw [Combinator.unnamed_withName, hnone]
  · exact hnone

theorem lower_none_eq (env : Environment) (name : String) (t : StaticType) :
    t.lower env none = (t.lower env name).map Combinator.unnamed := by
  cases h : t.lower env name with
  | ok c =>
    obtain ⟨d, hd, hc⟩ := exists_lower_none h
    rw [hd, Except.map, unnamed_eq hd (hc.imp_right And.left)]
  | error e =>
    have hfails : failure? (t.lower env none) = failure? (t.lower env name) := by
      rw [failure?_lower, failure?_lower]
      exact (Lowering.failure?_level (partSub env) none t).trans
        (Lowering.failure?_level (partSub env) name t).symm
    rw [h] at hfails
    exact failure?_eq_some.mp hfails

/-- A type is lowered under a name exactly if it is without a name, or else fails with the same
error. The check without a name is the one under the name with its root name taken away, and has no
name anywhere. So nothing below the root has a name, and the root has the name or none: it has the
name if it can carry one, unless the type is a type parameter with a bound or an intersection of one
plain member only. -/
theorem lower_named (env : Environment) (name : String) (t : StaticType) :
    t.lower env none = (t.lower env name).map Combinator.unnamed ∧
    ∀ c, t.lower env name = .ok c →
      c.unnamed.Everywhere (·.name? = none) ∧
      (∀ d ∈ c.children, d.Everywhere (·.name? = none)) ∧
      (c.name? = some name ∨ c.name? = none) ∧
      (c.isConstructed = true → ¬ Transparent env (lowerMarked env none) t →
        c.name? = some name) := by
  refine ⟨lower_none_eq env name t, fun c hc => ?_⟩
  obtain ⟨d, hd, hroot⟩ := exists_lower_none hc
  have hunnamed : c.unnamed = d := unnamed_eq hd (hroot.imp_right And.left)
  have hnames : c.unnamed.Everywhere (·.name? = none) := by
    rw [hunnamed]
    exact (made_lower hd).imp fun _ => Lowering.Node.name?_eq_none
  refine ⟨hnames, fun a ha => hnames.child (by rwa [Combinator.children_unnamed]), ?_, ?_⟩
  · obtain rfl | ⟨rfl, -⟩ := hroot
    · rw [Combinator.name?_withName]
      exact ite_eq_or_eq ..
    · exact .inr (made_lower hd).root.name?_eq_none
  · intro hconstructed hopaque
    obtain rfl | ⟨-, htransparent⟩ := hroot
    · rw [Combinator.isConstructed_withName] at hconstructed
      rw [Combinator.name?_withName, if_pos hconstructed]
    · exact absurd htransparent hopaque

/-- The type `?number & $Refinement<typeof p> & $Refinement<typeof q>`. -/
def refinedTwice : StaticType :=
  let refinement (p : String) : StaticType :=
    .generic ⟨.simple "$Refinement", some [.typeof (.simple p)]⟩
  .intersection [.nullable (.primitive .number), refinement "p", refinement "q"]

/-- Of the three nested combinators the outermost one has the name. -/
theorem refinedTwice_named :
    let inner : Combinator := .maybe (.builtin .number) none
    let c : Combinator :=
      .refinement (.refinement inner (.ref (.simple "p")) none) (.ref (.simple "q")) (some "N")
    refinedTwice.lower (.root [] []) (some "N") = .ok c ∧
    ¬ Transparent (.root [] []) (lowerMarked (.root [] []) none) refinedTwice ∧
    refinedTwice.lower (.root [] []) none = .ok c.unnamed ∧ c.name? = some "N" ∧
    ∀ d ∈ c.children, d.Everywhere (·.name? = none) := by
  intro inner c
  have hc : refinedTwice.lower (.root [] []) (some "N") = .ok c := rfl
  have hopaque : ¬ Transparent (.root [] []) (lowerMarked (.root [] []) none) refinedTwice := nofun
  obtain ⟨hnone, hlaw⟩ := lower_named (.root [] []) "N" refinedTwice
  obtain ⟨-, hbelow, -, hroot⟩ := hlaw c hc
  rw [hc] at hnone
  exact ⟨hc, hopaque, hnone, hroot rfl hopaque, hbelow⟩

end StaticType

theorem ObjectShape.exists_made {env : Environment} {shape : ObjectShape} {name : Option String}
    {c : Combinator} (h : shape.lower env name = .ok c) :
    ∃ d label, Lowering.Made env d ∧ c = d.named label := by
  have hmakes := Lowering.within_makes env Limits.typeDepth
  cases name with
  | none => exact ⟨c, none, hmakes.object h, rfl⟩
  | some name =>
    rw [ObjectShape.lower, Lowering.object_some] at h
    obtain ⟨d, hd, rfl⟩ := map_eq_ok.mp h
    exact ⟨d, some name, hmakes.object hd, rfl⟩

end TypeGuard
