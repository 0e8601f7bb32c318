import TypeGuard.Conformance

/-!
# Checks without parts

What the checks that look at no part of a value accept: the builtin types, the literals and the
predicates of a model.
-/

namespace TypeGuard

variable {v : Json}

/-! ### Builtin types -/

namespace Builtin

theorem accepts_number_iff : number.accepts v = true ↔ ∃ d, v.asDouble? = some d := by
  cases v with
  | int i => exact iff_of_true rfl ⟨.ofInt i, rfl⟩
  | double d => exact iff_of_true rfl ⟨d, rfl⟩
  | _ => exact iff_of_false Bool.false_ne_true nofun

theorem accepts_string_iff : string.accepts v = true ↔ ∃ s, v = .str s := by
  cases v with
  | str s => exact iff_of_true rfl ⟨s, rfl⟩
  | _ => exact iff_of_false Bool.false_ne_true nofun

theorem accepts_boolean_iff : boolean.accepts v = true ↔ ∃ b, v = .bool b := by
  cases v with
  | bool b => exact iff_of_true rfl ⟨b, rfl⟩
  | _ => exact iff_of_false Bool.false_ne_true nofun

theorem accepts_nil_iff : nil.accepts v = true ↔ v = .null := by
  cases v with
  | null => exact iff_of_true rfl rfl
  | _ => exact iff_of_false Bool.false_ne_true nofun

theorem accepts_object_iff : object.accepts v = true ↔ ∃ members, v = .obj members := by
  cases v with
  | obj members => exact iff_of_true rfl ⟨members, rfl⟩
  | _ => exact iff_of_false Bool.false_ne_true nofun

@[simp] theorem accepts_any (v : Json) : any.accepts v = true := by
  cases v <;> rfl

/-- JSON has no functions. -/
@[simp] theorem accepts_function (v : Json) : function.accepts v = false := by
  cases v <;> rfl

/-- JSON has no promises. -/
@[simp] theorem accepts_promise (v : Json) : promise.accepts v = false := by
  cases v <;> rfl

end Builtin

/-! ### Literals -/

namespace Literal

theorem matchesValue_string_iff {s : String} : (string s).matchesValue v = true ↔ v = .str s := by
  cases v with
  | str t => exact beq_iff_eq.trans (Json.str.injEq t s).to_iff.symm
  | _ => exact iff_of_false Bool.false_ne_true nofun

theorem matchesValue_boolean_iff {b : Bool} :
    (boolean b).matchesValue v = true ↔ v = .bool b := by
  cases v with
  | bool c => exact beq_iff_eq.trans (Json.bool.injEq c b).to_iff.symm
  | _ => exact iff_of_false Bool.false_ne_true nofun

/-- Numbers are compared as doubles. -/
theorem matchesValue_number_iff {text : String} : (number text).matchesValue v = true ↔
    ∃ expected actual, Double.ofText text = some expected ∧ v.asDouble? = some actual ∧
      actual.numEq expected = true := by
  rw [matchesValue]
  cases Double.ofText text <;> cases v.asDouble? <;> simp

end Literal

/-! ### Predicates -/

namespace Model

variable {m : Model} {name : TypeName} {p : Json → Bool}

/-- A predicate holds if it is defined and true of the value. -/
theorem holds_ref_iff : m.holds (.ref name) v = true ↔
    ∃ p, m.predicates.lookup name.dotted = some p ∧ p v = true := by
  rw [holds]
  cases m.predicates.lookup name.dotted <;> simp

/-- The last definition of a predicate counts. -/
theorem holds_definePredicate : (m.definePredicate name.dotted p).holds (.ref name) v = p v := by
  simp [holds, definePredicate]

theorem holds_definePredicate_of_ne {other : String} (h : name.dotted ≠ other) :
    (m.definePredicate other p).holds (.ref name) v = m.holds (.ref name) v := by
  simp [holds, definePredicate, List.lookup_cons, beq_eq_false_iff_ne.mpr h]

theorem holds_equals {value : Literal} : m.holds (.equals value) v = value.matchesValue v := rfl

end Model

/-! ### Members that say something -/

namespace Combinator

/-- A combinator says nothing if it is `any` with any number of `maybe` around it. -/
theorem isAnyLike_iff {c : Combinator} : c.isAnyLike = true ↔
    ∃ names : List (Option String), c = names.foldr (fun name c => maybe c name) any := by
  constructor
  · intro h
    fun_induction isAnyLike c with
    | case1 => exact ⟨[], rfl⟩
    | case2 inner name ih =>
      obtain ⟨names, rfl⟩ := ih h
      exact ⟨name :: names, rfl⟩
    | case3 => cases h
  · rintro ⟨names, rfl⟩
    induction names with
    | nil => rfl
    | cons name names ih => exact ih

/-- The other members of an extension count, in their order. -/
theorem mem_informative_iff {members : List Combinator} {c : Combinator} :
    c ∈ informative members ↔ c ∈ members ∧ c.isAnyLike = false := by
  simp [informative]

end Combinator

end TypeGuard
