import Mathlib.Data.List.Lex
import TypeGuard.Proofs.Lowering.Fault

/-!
# Failing to lower a type

Lowering goes from a type to its parts, from left to right, and stops at the first one that is at
fault itself or lies too deep. The types that it comes to are the positions of a tree, which has the
bound of a type parameter below the references to it, so a bound that refers to its own parameter
goes on forever. `StaticType.lower_eq_error_iff` says that a type has no check exactly if one of its
positions fails, and that the error is the one of the first such position.
-/

namespace TypeGuard

open Results

/-! ### Positions -/

namespace StaticType

/-- The type at a position, which is given by the numbers of the parts that lead to it. -/
def position? (env : Environment) : StaticType → List Nat → Option StaticType
  | t, [] => some t
  | t, i :: path => (t.parts env)[i]?.bind fun u => u.position? env path

/-- Why the lowering of a type stops at a position, if that lies less than `limit` levels deep or
fails for being too deep. -/
def failureWithin? (env : Environment) (limit : Nat) (t : StaticType) (path : List Nat) :
    Option LoweringError :=
  (t.position? env path).bind fun u =>
    if path.length < limit then u.fault? env else some (.tooDeep Limits.typeDepth)

/-- Why the lowering of a type stops at a position. -/
def failureAt? (env : Environment) (t : StaticType) (path : List Nat) : Option LoweringError :=
  t.failureWithin? env Limits.typeDepth path

/-- One position comes before another one in preorder: it is above it or to the left of it. -/
def Precedes (p q : List Nat) : Prop := List.Lex (· < ·) p q

/-- The first of all positions with an error has the error `e`. -/
def IsFirst (errorAt? : List Nat → Option LoweringError) (e : LoweringError) : Prop :=
  ∃ path, errorAt? path = some e ∧ ∀ earlier, Precedes earlier path → errorAt? earlier = none

end StaticType

namespace Lowering

open StaticType

variable {env : Environment} {sub : Sub} {name : Option String}

theorem failureWithin?_nil (n : Nat) (t : StaticType) :
    t.failureWithin? env (n + 1) [] = t.fault? env := by
  simp [failureWithin?, position?]

theorem failureWithin?_cons (n i : Nat) (t : StaticType) (path : List Nat) :
    t.failureWithin? env (n + 1) (i :: path) =
      (t.parts env)[i]?.bind fun u => u.failureWithin? env n path := by
  simp [failureWithin?, position?, Option.bind_assoc]

theorem failureWithin?_of_ok {n : Nat} {t : StaticType} (h : failure? (within env n name t) = none)
    (path : List Nat) : t.failureWithin? env n path = none := by
  induction n generalizing name t path with
  | zero => cases h
  | succ n ih =>
    rw [failure?_within_succ, Option.or_eq_none_iff, firstFailure?, List.findSome?_eq_none_iff] at h
    cases path with
    | nil => rw [failureWithin?_nil, h.1]
    | cons i path =>
      rw [failureWithin?_cons, Option.bind_eq_none_iff]
      intro u hu
      exact ih (h.2 u (List.mem_of_getElem? hu)) path

theorem isFirst_of_failure {n : Nat} {t : StaticType} {e : LoweringError}
    (h : failure? (within env n name t) = some e) : IsFirst (t.failureWithin? env n) e := by
  induction n generalizing name t with
  | zero =>
    cases h
    exact ⟨[], rfl, nofun⟩
  | succ n ih =>
    rw [failure?_within_succ, Option.or_eq_some_iff] at h
    obtain hfault | ⟨hfault, hparts⟩ := h
    · refine ⟨[], ?_, nofun⟩
      rw [failureWithin?_nil, hfault]
    · obtain ⟨before, u, after, hsplit, hu, hbefore⟩ := List.findSome?_eq_some_iff.mp hparts
      obtain ⟨path, hpath, hfirst⟩ := ih hu
      refine ⟨before.length :: path, ?_, fun earlier hearlier => ?_⟩
      · simp [failureWithin?_cons, hsplit, hpath]
      · cases hearlier with
        | nil => rw [failureWithin?_nil, hfault]
        | @rel i rest _ _ hi =>
          rw [failureWithin?_cons, hsplit, List.getElem?_append_left hi,
            List.getElem?_eq_getElem hi]
          exact failureWithin?_of_ok (hbefore _ (List.getElem_mem hi)) rest
        | cons hrest => simp [failureWithin?_cons, hsplit, hfirst _ hrest]

end Lowering

namespace StaticType

variable {env : Environment} {name : Option String} {t u : StaticType} {e : LoweringError}

/-- There is one first position only. -/
theorem IsFirst.unique {errorAt? : List Nat → Option LoweringError} {e e' : LoweringError}
    (h : IsFirst errorAt? e) (h' : IsFirst errorAt? e') : e = e' := by
  obtain ⟨path, hpath, hfirst⟩ := h
  obtain ⟨path', hpath', hfirst'⟩ := h'
  have hsame : path = path' := by
    refine Std.Trichotomous.trichotomous (r := List.Lex (· < ·)) path path' ?_ ?_
    · intro hlt
      cases hpath.symm.trans (hfirst' path hlt)
    · intro hlt
      cases hpath'.symm.trans (hfirst path' hlt)
  subst hsame
  exact Option.some.inj (hpath.symm.trans hpath')

theorem isFirst_of_lower (h : t.lower env name = .error e) : IsFirst (t.failureAt? env) e :=
  Lowering.isFirst_of_failure ((failure?_lower env name t).symm.trans (failure?_eq_some.mpr h))

theorem exists_error_of_failureAt? (name : Option String) {path : List Nat}
    (h : t.failureAt? env path = some e) :
    ∃ e', t.lower env name = .error e' := by
  cases hlower : t.lower env name with
  | error e' => exact ⟨e', rfl⟩
  | ok c =>
    have hok : failure? (Lowering.within env Limits.typeDepth name t) = none := by
      rw [← failure?_lower, hlower, failure?_ok]
    cases h.symm.trans (Lowering.failureWithin?_of_ok hok path)

/-! ### Bounds that refer to their own parameter -/

/-- Below a reference to a type parameter with a bound there is another one to the same
parameter. -/
def IsSelfReferential (env : Environment) (t : StaticType) : Prop :=
  ∃ path ref below ref', t.position? env path = some (.generic ref) ∧ (ref.bound? env).isSome ∧
    (generic ref).position? env below = some (.generic ref') ∧ below ≠ [] ∧ ref'.name = ref.name

theorem position?_append (p q : List Nat) :
    t.position? env (p ++ q) = (t.position? env p).bind fun u => u.position? env q := by
  induction p generalizing t with
  | nil => rfl
  | cons i p ih => simp [position?, Option.bind_assoc, ih]

/-- A bound that leads back to itself does so any number of times. -/
theorem exists_deep_of_loop {loop : List Nat} (hne : loop ≠ [])
    (h : t.position? env loop = some t) (n : Nat) :
    ∃ path, n ≤ path.length ∧ t.position? env path = some t := by
  induction n with
  | zero => exact ⟨[], Nat.zero_le _, rfl⟩
  | succ n ih =>
    obtain ⟨path, hlength, hpath⟩ := ih
    have hloop := List.length_pos_of_ne_nil hne
    refine ⟨loop ++ path, ?_, ?_⟩
    · rw [List.length_append]
      omega
    · rw [position?_append, h, Option.bind_some, hpath]

theorem IsSelfReferential.exists_deep (h : t.IsSelfReferential env) (n : Nat) :
    ∃ path u, n ≤ path.length ∧ t.position? env path = some u := by
  obtain ⟨path, ref, below, ref', hpath, hsome, hbelow, hne, hname⟩ := h
  obtain ⟨bound, hbound⟩ := Option.isSome_iff_exists.mp hsome
  have hbound' : ref'.bound? env = some bound := by rw [GenericRef.bound?, hname]; exact hbound
  have hparts : (generic ref).parts env = [bound] := GenericRef.parts_of_bound hbound
  have hparts' : (generic ref').parts env = [bound] := GenericRef.parts_of_bound hbound'
  cases below with
  | nil => exact absurd rfl hne
  | cons i rest =>
    -- the bound stands below both references, so it stands below itself
    have hrest : bound.position? env rest = some (generic ref') := by
      cases i with
      | zero => simpa [position?, hparts] using hbelow
      | succ i => simp [position?, hparts] at hbelow
    have hloop : bound.position? env (rest ++ [0]) = some bound := by
      simp [position?_append, hrest, position?, hparts']
    obtain ⟨deep, hlength, hdeep⟩ := exists_deep_of_loop (by simp) hloop n
    refine ⟨path ++ 0 :: deep, bound, ?_, ?_⟩
    · rw [List.length_append, List.length_cons]
      omega
    · simp [position?_append, hpath, position?, hparts, hdeep]

theorem failureAt?_eq_tooDeep {path : List Nat} (hpath : t.position? env path = some u)
    (hlength : Limits.typeDepth ≤ path.length) :
    t.failureAt? env path = some (.tooDeep Limits.typeDepth) := by
  rw [failureAt?, failureWithin?, hpath, Option.bind_some, if_neg (Nat.not_lt.mpr hlength)]

theorem eq_tooDeep_of_failureAt? {path : List Nat} (h : t.failureAt? env path = some e)
    (hsound : ∀ u, t.position? env path = some u → u.fault? env = none) :
    e = .tooDeep Limits.typeDepth := by
  obtain ⟨u, hu, he⟩ := Option.bind_eq_some_iff.mp h
  rw [hsound u hu] at he
  split at he
  · cases he
  · exact (Option.some.inj he).symm

/-- A type has no check exactly if one of its positions fails, and the error is that of the first
one. So the lowering of a type parameter whose bound refers to it ends as well: if no position is at
fault itself then the error is that the type is too deep. -/
theorem lower_eq_error_iff (env : Environment) (name : Option String) (t : StaticType) :
    (∀ e, t.lower env name = .error e ↔ IsFirst (t.failureAt? env) e) ∧
    ((∃ e, t.lower env name = .error e) ↔ ∃ path e, t.failureAt? env path = some e) ∧
    (t.IsSelfReferential env → ∃ e, t.lower env name = .error e ∧
      ((∀ path u, t.position? env path = some u → u.fault? env = none) →
        e = .tooDeep Limits.typeDepth)) := by
  refine ⟨fun e => ⟨isFirst_of_lower, fun h => ?_⟩, ⟨?_, ?_⟩, fun h => ?_⟩
  · obtain ⟨path, hpath, -⟩ := id h
    obtain ⟨e', he'⟩ := exists_error_of_failureAt? name hpath
    rw [he', (isFirst_of_lower he').unique h]
  · rintro ⟨e, he⟩
    obtain ⟨path, hpath, -⟩ := isFirst_of_lower he
    exact ⟨path, e, hpath⟩
  · rintro ⟨path, e, hpath⟩
    exact exists_error_of_failureAt? name hpath
  · obtain ⟨deep, u, hlength, hdeep⟩ := h.exists_deep Limits.typeDepth
    obtain ⟨e, he⟩ := exists_error_of_failureAt? name (failureAt?_eq_tooDeep hdeep hlength)
    refine ⟨e, he, fun hsound => ?_⟩
    obtain ⟨path, hpath, -⟩ := isFirst_of_lower he
    exact eq_tooDeep_of_failureAt? hpath (hsound path)

/-- The type `T`. -/
def parameterT : StaticType := .generic ⟨.simple "T", none⟩

/-- The type `Array<T>`. -/
def listOfT : StaticType := .generic ⟨.simple "Array", some [parameterT]⟩

/-- The type parameter `T: Array<T>`. -/
def recursiveBound : Environment := (Environment.root [] []).child [⟨"T", some listOfT⟩]

theorem recursiveBound_tooDeep : parameterT.IsSelfReferential recursiveBound ∧
    parameterT.lower recursiveBound none = .error (.tooDeep Limits.typeDepth) := by
  have hself : parameterT.IsSelfReferential recursiveBound :=
    ⟨[], _, [0, 0], _, rfl, rfl, rfl, nofun, rfl⟩
  have hsound : ∀ path, ∀ t ∈ [parameterT, listOfT], ∀ u,
      t.position? recursiveBound path = some u → u.fault? recursiveBound = none := by
    intro path
    induction path with
    | nil =>
      intro t ht u hu
      cases hu
      simp only [List.mem_cons, List.not_mem_nil, or_false] at ht
      rcases ht with rfl | rfl <;> rfl
    | cons i path ih =>
      intro t ht u hu
      -- the parts of either type are the other one
      have hother : ∃ t' ∈ [parameterT, listOfT], t.parts recursiveBound = [t'] := by
        simp only [List.mem_cons, List.not_mem_nil, or_false] at ht
        rcases ht with rfl | rfl
        · exact ⟨listOfT, by simp, rfl⟩
        · exact ⟨parameterT, by simp, rfl⟩
      obtain ⟨t', ht', hparts⟩ := hother
      cases i with
      | zero => exact ih t' ht' u (by simpa [position?, hparts] using hu)
      | succ i => simp [position?, hparts] at hu
  obtain ⟨e, he, hdeep⟩ := (lower_eq_error_iff recursiveBound none parameterT).2.2 hself
  exact ⟨hself, hdeep (fun path => hsound path parameterT (by simp)) ▸ he⟩

end StaticType

end TypeGuard
