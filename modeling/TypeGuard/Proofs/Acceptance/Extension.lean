import TypeGuard.Proofs.Acceptance

/-!
# Further definitions

A model extends another one if it keeps all its definitions and possibly adds some. The rules of
acceptance ask that names are defined and that parts are accepted, never the contrary, so each rule
of a model is one of its extensions, and what a model accepts they accept: `Model.accepts_mono`.
-/

namespace TypeGuard.Model

/-- The first model has all definitions of the second one. -/
structure Extends (m' m : Model) : Prop where
  types : ∀ n c, m.type? n = some c → m'.type? n = some c
  predicates : ∀ n p, m.predicates.lookup n = some p → m'.predicates.lookup n = some p

variable {m m' : Model} {c : Combinator} {v : Json}

namespace Extends

theorem trans {m'' : Model} (h : m''.Extends m') (h' : m'.Extends m) : m''.Extends m where
  types n c hc := h.types n c (h'.types n c hc)
  predicates n p hp := h.predicates n p (h'.predicates n p hp)

/-- Defining a type extends a model if the name is new. -/
theorem define {name : String} (h : m.type? name = none) (c : Combinator) :
    (m.define name c).Extends m where
  types n d hd := by
    have hne : n ≠ name := by
      rintro rfl
      cases h.symm.trans hd
    rwa [type?, Model.define, List.lookup_cons, beq_eq_false_iff_ne.mpr hne]
  predicates _ _ := id

/-- Defining a predicate extends a model if the name is new. -/
theorem definePredicate {name : String} (h : m.predicates.lookup name = none) (p : Json → Bool) :
    (m.definePredicate name p).Extends m where
  types _ _ := id
  predicates n q hq := by
    have hne : n ≠ name := by
      rintro rfl
      cases h.symm.trans hq
    rwa [Model.definePredicate, List.lookup_cons, beq_eq_false_iff_ne.mpr hne]

theorem holds (h : m'.Extends m) {p : Predicate} (hp : m.holds p v = true) :
    m'.holds p v = true := by
  cases p with
  | equals value => exact hp
  | ref name =>
    rw [Model.holds] at hp ⊢
    cases hlookup : m.predicates.lookup name.dotted with
    | none =>
      rw [hlookup] at hp
      cases hp
    | some q =>
      rw [h.predicates _ _ hlookup]
      rwa [hlookup] at hp

theorem rule (h : m'.Extends m) {premises : List (Combinator × Json)}
    (hrule : m.Rule premises c v) : m'.Rule premises c v := by
  cases hrule with
  | builtin htype => exact .builtin htype
  | ref htarget => exact .ref (h.types _ _ htarget)
  | declare htarget => exact .declare (h.types _ _ htarget)
  | list => exact .list
  | null => exact .null
  | maybe => exact .maybe
  | tuple hlen => exact .tuple hlen
  | union hmem => exact .union hmem
  | enum hmem => exact .enum hmem
  | dict => exact .dict
  | refinement hholds => exact .refinement (h.holds hholds)
  | interface hexact => exact .interface hexact
  | props => exact .props
  | intersection => exact .intersection
  | extend => exact .extend

/-- By induction on the budget. -/
theorem passes_checkWithin (h : m'.Extends m) {n : Nat}
    (hpasses : passes (m.checkWithin n c v) = true) : passes (m'.checkWithin n c v) = true := by
  induction n generalizing c v with
  | zero => cases hpasses
  | succ n ih =>
    obtain ⟨premises, hrule, hpremises⟩ := exists_rule_of_passes_level hpasses
    apply (h.rule hrule).passes_level
    intro p hp
    exact ih (hpremises p hp)

end Extends

/-- What a model accepts is accepted by every model that extends it, and what is accepted with some
budget of nested checks is accepted with any larger one, by the model itself and by those that
extend it. -/
theorem accepts_mono (h : m'.Extends m) (c : Combinator) (v : Json) :
    (m.accepts c v = true → m'.accepts c v = true) ∧
    ∀ n k, n ≤ k → passes (m.checkWithin n c v) = true →
      passes (m.checkWithin k c v) = true ∧ passes (m'.checkWithin k c v) = true := by
  constructor
  · exact h.passes_checkWithin
  · intro n k hnk hpasses
    have hlarger : passes (m.checkWithin k c v) = true := passes_checkWithin_mono hnk hpasses
    exact ⟨hlarger, h.passes_checkWithin hlarger⟩

/-- The definition `Tree = { items: Array<Leaf | Tree> }`, without one of `Leaf`. -/
def treeModel : Model :=
  let item : Combinator := .union [.ref (.simple "Leaf"), .ref (.simple "Tree")] none
  empty.define "Tree" (.interface [("items", .list item none)] (some "Tree") false)

/-- The inner tree is accepted by way of `Tree` at first. Once leaves are defined, as the objects of
which a new predicate holds, the union that it stands in accepts it by way of `Leaf`. -/
theorem treeModel_mono :
    let leaf : Combinator := .refinement (.builtin .object) (.ref (.simple "small")) (some "Leaf")
    let m' := (treeModel.definePredicate "small" fun v => v.depth ≤ 3).define "Leaf" leaf
    let v := Json.obj [("items", .arr [.obj [("items", .arr [])]])]
    m'.Extends treeModel ∧ treeModel.accepts (.ref (.simple "Tree")) v = true ∧
    m'.accepts (.ref (.simple "Tree")) v = true := by
  intro leaf m' v
  have hextends : m'.Extends treeModel := .trans (.define rfl leaf) (.definePredicate rfl _)
  have haccepts : treeModel.accepts (.ref (.simple "Tree")) v = true := by decide
  exact ⟨hextends, haccepts, (accepts_mono hextends _ v).1 haccepts⟩

end TypeGuard.Model
