import TypeGuard.Proofs.Combinator
import TypeGuard.Proofs.Conformance
import TypeGuard.Proofs.Lowering.Conforms

/-!
# What combinators decide

A combinator decides a property of values if it is passed by those that have the property, whenever
the budget exceeds its height. For each kind of combinator there is one lemma, which says what it
decides given what its parts decide.
-/

namespace TypeGuard

/-! ### Evaluation of lists -/

namespace Model

@[simp] theorem passes_ok (u : Unit) : passes (.ok u) = true := rfl

@[simp] theorem passes_error (e : Mismatch) : passes (.error e) = false := rfl

@[simp] theorem passes_orHere (c : Combinator) (v : Json) (ok : Bool) :
    passes (orHere c v ok) = ok := by
  cases ok <;> rfl

theorem passes_checkElems {sub : Json → Except Mismatch Unit} {i : Nat} {items : List Json} :
    passes (checkElems sub i items) = true ↔ ∀ v ∈ items, passes (sub v) = true := by
  induction items generalizing i with
  | nil => simp [checkElems]
  | cons v items ih =>
    rw [checkElems, List.forall_mem_cons]
    cases h : sub v with
    | ok => simp [ih]
    | error e => simp

theorem passes_checkTuple {sub : Sub} {i : Nat} {cs : List Combinator} {items : List Json}
    (hlen : items.length = cs.length) :
    passes (checkTuple sub i cs items) = true ↔
      List.Forall₂ (fun c v => passes (sub c v) = true) cs items := by
  induction cs generalizing i items with
  | nil =>
    obtain rfl := List.length_eq_zero_iff.mp hlen
    simp [checkTuple]
  | cons c cs ih =>
    cases items with
    | nil => cases hlen
    | cons v items =>
      rw [checkTuple, List.forall₂_cons]
      cases h : sub c v with
      | ok => simp [ih (Nat.succ.inj hlen)]
      | error e => simp

theorem passes_checkEntries {key value : Json → Except Mismatch Unit}
    {entries : List (String × Json)} :
    passes (checkEntries key value entries) = true ↔
      (∀ entry ∈ entries, passes (key (.str entry.1)) = true) ∧
        ∀ entry ∈ entries, passes (value entry.2) = true := by
  induction entries with
  | nil => simp [checkEntries]
  | cons entry entries ih =>
    obtain ⟨k, v⟩ := entry
    rw [checkEntries, List.forall_mem_cons, List.forall_mem_cons]
    cases hk : key (.str k) with
    | error e => simp
    | ok =>
      cases hv : value v with
      | error e => simp
      | ok => simp [ih]

theorem passes_checkProps {sub : Sub} {members : List (String × Json)}
    {props : List (String × Combinator)} :
    passes (checkProps sub members props) = true ↔
      ∀ p ∈ props, passes (sub p.2 (Json.read members p.1)) = true := by
  induction props with
  | nil => simp [checkProps]
  | cons p props ih =>
    obtain ⟨key, c⟩ := p
    rw [checkProps, List.forall_mem_cons]
    change _ ↔ passes (sub c ((members.lookup key).getD .null)) = true ∧ _
    cases h : sub c ((members.lookup key).getD .null) with
    | error e => simp
    | ok => simp [ih]

theorem passes_checkExact {props : List (String × Combinator)} {members : List (String × Json)} :
    passes (checkExact props members) = true ↔
      ∀ entry ∈ members, entry.1 ∈ props.map (·.1) := by
  unfold checkExact
  split
  · rename_i key v h
    have hfound := List.find?_some h
    simp only [passes_error, Bool.false_eq_true, false_iff, not_forall]
    refine ⟨(key, v), List.mem_of_find?_eq_some h, fun hmem => ?_⟩
    obtain ⟨p, hp, rfl⟩ := List.mem_map.mp hmem
    simp only [Bool.not_eq_true', List.any_eq_false, beq_iff_eq] at hfound
    exact hfound p hp rfl
  · rename_i h
    simpa [List.find?_eq_none] using h

theorem passes_checkAll {sub : Sub} {v : Json} {cs : List Combinator} :
    passes (checkAll sub v cs) = true ↔ ∀ c ∈ cs, passes (sub c v) = true := by
  induction cs with
  | nil => simp [checkAll]
  | cons c cs ih =>
    rw [checkAll, List.forall_mem_cons]
    cases h : sub c v with
    | ok => simp [ih]
    | error e => simp

/-! ### Single levels -/

theorem passes_level_maybe {m : Model} {sub : Sub} {inner : Combinator} {name : Option String}
    {v : Json} :
    passes (m.level sub (.maybe inner name) v) = true ↔
      v = .null ∨ passes (sub inner v) = true := by
  cases v <;> simp [level]

theorem passes_level_union {m : Model} {sub : Sub} {members : List Combinator}
    {name : Option String} {v : Json} :
    passes (m.level sub (.union members name) v) = true ↔
      ∃ member ∈ members, passes (sub member v) = true := by
  rw [level, passes_orHere, List.any_eq_true]

theorem passes_level_refinement {m : Model} {sub : Sub} {base : Combinator} {predicate : Predicate}
    {name : Option String} {v : Json} :
    passes (m.level sub (.refinement base predicate name) v) = true ↔
      passes (sub base v) = true ∧ m.holds predicate v = true := by
  rw [level]
  cases sub base v with
  | ok => simp
  | error e => simp

theorem passes_level_interface {m : Model} {sub : Sub} {props : List (String × Combinator)}
    {name : Option String} {exact : Bool} {members : List (String × Json)} :
    passes (m.level sub (.interface props name exact) (.obj members)) = true ↔
      (∀ p ∈ props, passes (sub p.2 (Json.read members p.1)) = true) ∧
        (exact = true → ∀ entry ∈ members, entry.1 ∈ props.map (·.1)) := by
  rw [level, ← passes_checkProps]
  cases checkProps sub members props with
  | ok => cases exact <;> simp [passes_checkExact]
  | error e => simp

end Model

/-! ### Decisions -/

namespace Combinator

open Model

variable {m : Model} {P Q : Json → Prop} {c : Combinator} {cs : List Combinator}
  {Ps : List (Json → Prop)} {name : Option String}

/-- A closed combinator is passed by the values that have the property, given a budget above its
height. -/
def Decides (m : Model) (c : Combinator) (P : Json → Prop) : Prop :=
  c.isClosed = true → ∀ budget, c.height < budget →
    ∀ v, passes (m.checkWithin budget c v) = true ↔ P v

namespace Decides

-- the equations of these are derived once, here, and not by all the lemmas at the same time
attribute [local simp] isClosed height Model.level

theorem congr (h : c.Decides m P) (hPQ : ∀ v, P v ↔ Q v) : c.Decides m Q := by
  intro hclosed budget hbudget v
  rw [h hclosed budget hbudget v, hPQ]

/-- One level of the evaluation suffices, if its parts are below the height. -/
theorem of_level (h : c.isClosed = true → ∀ budget, c.height ≤ budget →
    ∀ v, passes (m.level (m.checkWithin budget) c v) = true ↔ P v) : c.Decides m P := by
  intro hclosed budget hbudget v
  obtain ⟨budget, rfl⟩ := Nat.exists_eq_succ_of_ne_zero (Nat.ne_zero_of_lt hbudget)
  exact h hclosed budget (Nat.le_of_lt_succ hbudget) v

theorem builtin (type : Builtin) : (Combinator.builtin type).Decides m (type.accepts · = true) :=
  of_level fun _ _ _ v => by simp [Model.level]

theorem any : Combinator.any.Decides m fun _ => True :=
  (builtin .any).congr fun v => iff_of_true (Builtin.accepts_any v) trivial

theorem list (h : c.Decides m P) :
    (Combinator.list c name).Decides m fun v => ∃ items, v = .arr items ∧ ∀ x ∈ items, P x := by
  refine of_level fun hclosed budget hbudget v => ?_
  rw [isClosed] at hclosed
  rw [height] at hbudget
  cases v with
  | arr items => simp [Model.level, passes_checkElems, h hclosed budget hbudget]
  | _ => simp [Model.level]

theorem maybe (h : c.Decides m P) :
    (Combinator.maybe c name).Decides m fun v => v = .null ∨ P v := by
  refine of_level fun hclosed budget hbudget v => ?_
  rw [isClosed] at hclosed
  rw [height] at hbudget
  cases v <;> simp [Model.level, h hclosed budget hbudget]

/-- What says nothing is passed by every value. -/
theorem of_isAnyLike {c : Combinator} (h : c.isAnyLike = true) : c.Decides m fun _ => True := by
  obtain ⟨names, rfl⟩ := isAnyLike_iff.mp h
  clear h
  induction names with
  | nil => exact any
  | cons name names ih => exact ih.maybe.congr fun v => iff_of_true (.inr trivial) trivial

theorem enum (values : List String) :
    (Combinator.enum values name).Decides m fun v => ∃ s ∈ values, v = .str s := by
  refine of_level fun _ budget _ v => ?_
  cases v <;> simp [Model.level]

theorem dict {key value : Combinator} (hkey : key.Decides m P) (hvalue : value.Decides m Q) :
    (Combinator.dict key value name).Decides m fun v => ∃ entries, v = .obj entries ∧
      (∀ entry ∈ entries, P (.str entry.1)) ∧ ∀ entry ∈ entries, Q entry.2 := by
  refine of_level fun hclosed budget hbudget v => ?_
  rw [isClosed, Bool.and_eq_true] at hclosed
  rw [height] at hbudget
  cases v with
  | obj entries =>
    simp [Model.level, passes_checkEntries, hkey hclosed.1 budget (by omega),
      hvalue hclosed.2 budget (by omega)]
  | _ => simp [Model.level]

theorem refinement (h : c.Decides m P) (predicate : Predicate) :
    (Combinator.refinement c predicate name).Decides m fun v =>
      P v ∧ m.holds predicate v = true := by
  refine of_level fun hclosed budget hbudget v => ?_
  rw [isClosed] at hclosed
  rw [height] at hbudget
  rw [passes_level_refinement, h hclosed budget hbudget v]

/-- The combinators of a list on one level of the evaluation. -/
theorem eachWithin (h : List.Forall₂ (Decides m) cs Ps) (hclosed : allClosed cs = true)
    {budget : Nat} (hbudget : levels cs ≤ budget) :
    List.Forall₂ (fun c P => ∀ v, passes (m.checkWithin budget c v) = true ↔ P v) cs Ps := by
  induction h with
  | nil => exact .nil
  | cons hc _ ih =>
    rw [allClosed, Bool.and_eq_true] at hclosed
    rw [levels] at hbudget
    exact .cons (hc hclosed.1 budget (by omega)) (ih hclosed.2 (by omega))

theorem tuple (h : List.Forall₂ (Decides m) cs Ps) :
    (Combinator.tuple cs name).Decides m fun v =>
      ∃ items, v = .arr items ∧ List.Forall₂ (fun P x => P x) Ps items := by
  refine of_level fun hclosed budget hbudget v => ?_
  rw [isClosed] at hclosed
  rw [height] at hbudget
  replace h := eachWithin h hclosed hbudget
  clear hclosed hbudget
  have hiff (items : List Json) :
      List.Forall₂ (fun c x => passes (m.checkWithin budget c x) = true) cs items ↔
        List.Forall₂ (fun P x => P x) Ps items := by
    induction h generalizing items with
    | nil => simp
    | cons hc _ ih =>
      cases items with
      | nil => simp
      | cons x items => rw [List.forall₂_cons, List.forall₂_cons, hc x, ih items]
  cases v with
  | arr items =>
    simp only [Model.level, Json.arr.injEq, exists_eq_left', ← hiff]
    split
    · rename_i hlen
      exact passes_checkTuple hlen
    · rename_i hlen
      simp only [passes_error, Bool.false_eq_true, false_iff]
      exact fun hall => hlen hall.length_eq.symm
  | _ => simp [Model.level]

theorem union (h : List.Forall₂ (Decides m) cs Ps) :
    (Combinator.union cs name).Decides m fun v => ∃ P ∈ Ps, P v := by
  refine of_level fun hclosed budget hbudget v => ?_
  rw [isClosed] at hclosed
  rw [height] at hbudget
  rw [Model.level, passes_orHere]
  replace h := eachWithin h hclosed hbudget
  clear hclosed hbudget
  induction h with
  | nil => simp
  | cons hc _ ih =>
    rw [List.any_cons, Bool.or_eq_true, hc v, List.exists_mem_cons_iff]
    exact or_congr_right ih

/-- With levels for each of them, all checks pass a value that has all the properties. -/
theorem forall_passes_iff (h : List.Forall₂ (Decides m) cs Ps) (hclosed : allClosed cs = true)
    {budget : Nat} (hbudget : levels cs ≤ budget) (v : Json) :
    (∀ c ∈ cs, passes (m.checkWithin budget c v) = true) ↔ ∀ P ∈ Ps, P v := by
  replace h := eachWithin h hclosed hbudget
  clear hclosed hbudget
  induction h with
  | nil => simp
  | cons hc _ ih =>
    rw [List.forall_mem_cons, List.forall_mem_cons, hc v]
    exact and_congr_right fun _ => ih

theorem intersection (h : List.Forall₂ (Decides m) cs Ps) :
    (Combinator.intersection cs name).Decides m fun v => ∀ P ∈ Ps, P v := by
  refine of_level fun hclosed budget hbudget v => ?_
  rw [isClosed] at hclosed
  rw [height] at hbudget
  rw [Model.level, passes_checkAll, forall_passes_iff h hclosed hbudget]

/-- The members that say nothing are left out, but every value passes them. -/
theorem extend (h : List.Forall₂ (Decides m) cs Ps) :
    (Combinator.extend cs name).Decides m fun v => ∀ P ∈ Ps, P v := by
  refine of_level fun hclosed budget hbudget v => ?_
  rw [isClosed] at hclosed
  rw [height] at hbudget
  rw [Model.level, passes_checkAll, ← forall_passes_iff h hclosed hbudget]
  constructor
  · intro hinformative c hc
    cases hany : c.isAnyLike with
    | false => exact hinformative c (mem_informative_iff.mpr ⟨hc, hany⟩)
    | true =>
      have hheight := height_lt_levels hc
      have hdecides : c.Decides m fun _ => True := of_isAnyLike hany
      exact (hdecides (isClosed_of_mem hclosed hc) budget (by omega) v).mpr trivial
  · exact fun hall c hc => hall c (mem_informative_iff.mp hc).1

theorem interface {props : List (String × Combinator)} {exact : Bool} {P : String → Json → Prop}
    (h : ∀ p ∈ props, p.2.Decides m (P p.1)) :
    (Combinator.interface props name exact).Decides m fun v => ∃ members, v = .obj members ∧
      (∀ p ∈ props, P p.1 (Json.read members p.1)) ∧
        (exact = true → ∀ entry ∈ members, entry.1 ∈ props.map (·.1)) := by
  refine of_level fun hclosed budget hbudget v => ?_
  rw [isClosed, allPropsClosed_eq] at hclosed
  rw [height, propLevels_eq] at hbudget
  have heach (p : String × Combinator) (hp : p ∈ props) (x : Json) :
      passes (m.checkWithin budget p.2 x) = true ↔ P p.1 x := by
    have hmem : p.2 ∈ props.map (·.2) := List.mem_map_of_mem hp
    have hheight := height_lt_levels hmem
    exact h p hp (isClosed_of_mem hclosed hmem) budget (by omega) x
  cases v with
  | obj members =>
    rw [passes_level_interface, forall₂_congr fun p hp => heach p hp _]
    simp only [Json.obj.injEq, exists_eq_left']
  | _ => simp [Model.level]

end Decides

end Combinator

end TypeGuard
