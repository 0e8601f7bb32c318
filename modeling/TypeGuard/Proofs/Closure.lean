import TypeGuard.Proofs.Closure.Binding
import TypeGuard.Proofs.Closure.Syntax
import TypeGuard.Proofs.Emission.Unit
import TypeGuard.Proofs.UnitNames

/-!
# Units closed over their generated names

An instrumented unit has the import of the library in front and the helpers behind exactly if
something was inserted that refers to them. Each binds its name once, and no other statement of the
unit binds that name.
-/

namespace TypeGuard

open Visit Instrumentation

/-! ### Generated names -/

namespace UnitNames

/-- The generated names are candidates for their bases. -/
theorem exists_candidates (p : Program) : ∃ i j k,
    ofProgram p = ⟨FreshName.candidate "t" i, FreshName.candidate "assert" j,
      FreshName.candidate "extend" k⟩ := by
  have hchoose (taken : List String) (base : String) :
      ∃ k, FreshName.choose taken base = FreshName.candidate base k :=
    (FreshName.exists_choose taken base).imp fun _ h => h.2.2.1
  obtain ⟨i, hi⟩ := hchoose p.mentions "t"
  obtain ⟨j, hj⟩ := hchoose ((ofProgram p).library :: p.mentions) "assert"
  obtain ⟨k, hk⟩ := hchoose ((ofProgram p).assert :: (ofProgram p).library :: p.mentions) "extend"
  refine ⟨i, j, k, ?_⟩
  rw [← hi, ← hj, ← hk]
  rfl

theorem ofProgram_nodup (p : Program) : (ofProgram p).toList.Nodup := by
  obtain ⟨i, j, k, h⟩ := exists_candidates p
  have hassert : FreshName.candidate "t" i ≠ FreshName.candidate "assert" j :=
    FreshName.candidate_ne rfl rfl (by decide) i j
  have hextend : FreshName.candidate "t" i ≠ FreshName.candidate "extend" k :=
    FreshName.candidate_ne rfl rfl (by decide) i k
  have hhelpers : FreshName.candidate "assert" j ≠ FreshName.candidate "extend" k :=
    FreshName.candidate_ne rfl rfl (by decide) j k
  simp [toList, h, hassert, hextend, hhelpers]

/-- A generated name starts with an underscore. -/
theorem ofProgram_ne_arguments (p : Program) : ∀ n ∈ (ofProgram p).toList, n ≠ "arguments" := by
  have hcandidate (base : String) (k : Nat) : FreshName.candidate base k ≠ "arguments" := by
    intro h
    obtain ⟨digits, hdigits⟩ := FreshName.candidate_toList base k
    rw [h] at hdigits
    cases hdigits
  obtain ⟨i, j, k, h⟩ := exists_candidates p
  simp [toList, h, hcandidate]

end UnitNames

/-! ### References of what is inserted -/

theorem elemsOccur_map_some (es : List Expr) : elemsOccur (es.map some) = exprsOccur es := by
  induction es with
  | nil => rfl
  | cons e es ih => exact congrArg (e.occurrences ++ ·) ih

namespace Combinator

variable {names : RuntimeNames}

mutual
/-- The expression of a combinator with an extension in it refers to the extend helper. -/
theorem occurs_extend (c : Combinator) (h : c.usesExtend = true) :
    Occurs names.extend (c.toExpr names).occurrences := by
  match c, h with
  | .extend _ _, _ => exact (occurs_cons_seen _ _).mpr (.inl rfl)
  | .list elem _, h | .maybe elem _, h | .refinement elem _ _, h =>
    exact (occurs_extend elem h).left.right
  | .dict key value _, h =>
    rcases (Bool.or_eq_true _ _).mp h with hkey | hvalue
    · exact (occurs_extend key hkey).left.right
    · exact (occurs_extend value hvalue).left.right.right
  | .tuple elems _, h | .union elems _, h | .intersection elems _, h =>
    have helems := occurs_extend_exprs elems h
    rw [← elemsOccur_map_some] at helems
    exact helems.left.right
  | .interface ps _ _, h => exact (occurs_extend_propExprs ps h).left.right
  | .props ps, h => exact occurs_extend_propExprs ps h

theorem occurs_extend_exprs (cs : List Combinator) (h : anyUsesExtend cs = true) :
    Occurs names.extend (exprsOccur (exprs names cs)) := by
  match cs, h with
  | c :: cs, h =>
    rcases (Bool.or_eq_true _ _).mp h with hc | hcs
    · exact (occurs_extend c hc).left
    · exact (occurs_extend_exprs cs hcs).right

theorem occurs_extend_propExprs (ps : List (String × Combinator))
    (h : anyPropUsesExtend ps = true) :
    Occurs names.extend (objectPropsOccur (propExprs names ps)) := by
  match ps, h with
  | (_, c) :: ps, h =>
    rcases (Bool.or_eq_true _ _).mp h with hc | hps
    · exact (occurs_extend c hc).right.left
    · exact (occurs_extend_propExprs ps hps).right
end

end Combinator

namespace Inserted

variable {cx : Setting}

theorem occurs_assert {i : Inserted} (h : i.isAssertion = true) :
    Occurs cx.names.assert (i.occurrences cx) := by
  cases i with
  | assertion check => exact (occurs_cons_seen _ _).mpr (.inl rfl)
  | constant _ _ => cases h
  | definition _ => cases h

theorem occurs_extend {i : Inserted} (h : i.usesExtend = true) :
    Occurs cx.names.extend (i.occurrences cx) := by
  cases i with
  | assertion check => exact (occurs_cons_seen _ _).mpr (.inr (check.occurs_extend h))
  | constant _ check => exact check.occurs_extend h
  | definition d => exact d.check.occurs_extend h

/-- Every definition is one of a type that has its constant, so a unit into which anything was
inserted has an assertion or a constant. -/
theorem any_of_ne_nil {s t : VisitState} {log : List Inserted} {defs : List Definition}
    (h : s.After t log defs) (hne : log ++ defs.map definition ≠ []) :
    (log ++ defs.map definition).any (·.isConstant) = true ∨
      (log ++ defs.map definition).any (·.isAssertion) = true := by
  simp only [List.any_append, any_isConstant_definitions, any_isAssertion_definitions,
    Bool.or_false]
  by_cases hdefined : log.any (·.isDefinition) = true ∨ defs ≠ []
  · exact .inl (h.constants hdefined)
  · simp only [not_or, ne_eq, not_not] at hdefined
    obtain ⟨hnone, rfl⟩ := hdefined
    obtain ⟨i, hi⟩ := List.exists_mem_of_ne_nil log (by simpa using hne)
    cases i with
    | assertion check => exact .inr (List.any_eq_true.mpr ⟨_, hi, rfl⟩)
    | constant name check => exact .inl (List.any_eq_true.mpr ⟨_, hi, rfl⟩)
    | definition d => exact absurd (List.any_eq_true.mpr ⟨_, hi, rfl⟩) hnone

end Inserted

/-! ### Closed units -/

/-- The import, if a type was lowered or a helper is there; the statements of a unit and the
definitions that they put off; and each helper, if something that was inserted refers to it. -/
def Setting.arranged (cx : Setting) (body : List Stmt) (defs : List Definition)
    (inserted : List Inserted) : List Stmt :=
  let asserts := inserted.any (·.isAssertion)
  let extensions := inserted.any (·.usesExtend)
  (if inserted.any (·.isConstant) || asserts || extensions then
    [Support.libraryImport cx.names cx.options.runtimeLibrary] else []) ++
  body ++ defs.map (·.toStmt cx.names.runtime) ++
  (if asserts then [Support.assertHelper cx.names cx.options.warnOnFailure] else []) ++
  if extensions then [Support.extendHelper cx.names] else []

/-- The unit `out` has the statements `body` that those of `p` become, the definitions that they put
off, and what these refer to. -/
structure ClosedAround (cx : Setting) (p : Program) (body : List Stmt) (defs : List Definition)
    (inserted : List Inserted) (out : Program) : Prop where
  order : out.body = cx.arranged body defs inserted
  /-- Nothing is inserted into a unit without the import. -/
  imported : inserted ≠ [] →
    out.body.head? = some (Support.libraryImport cx.names cx.options.runtimeLibrary)
  /-- Each generated name is bound once if it stands for something that is there, else not at
  all. -/
  bound : (∀ base ∈ UnitNames.bases, FreshName.HasFree p.mentions base) →
    (scopeNames out.body).count cx.names.library = (if inserted.isEmpty then 0 else 1) ∧
    (scopeNames out.body).count cx.names.assert =
      (if inserted.any (·.isAssertion) then 1 else 0) ∧
    (scopeNames out.body).count cx.names.extend = if inserted.any (·.usesExtend) then 1 else 0
  /-- A generated name that does not occur in `p` occurs in the statements and definitions exactly
  if something that was inserted refers to it. -/
  referred : ∀ n ∈ cx.names.toList, n ∉ p.names →
    (Occurs n (stmtsOccur (body ++ defs.map (·.toStmt cx.names.runtime))) ↔
      ∃ i ∈ inserted, Occurs n (i.occurrences cx))
  /-- The library, unless its name occurs in `p`, is referred to exactly if anything was
  inserted. -/
  library : cx.names.library ∉ p.names → (cx.names.library ∈ out.names ↔ inserted ≠ [])
  /-- Every assertion refers to the assert helper, and every extension to the extend helper. -/
  helpers : ∀ i ∈ inserted,
    (i.isAssertion = true → Occurs cx.names.assert (i.occurrences cx)) ∧
    (i.usesExtend = true → Occurs cx.names.extend (i.occurrences cx))

namespace Program

/-- The unit `out` is closed around the statements that those of `p` become. -/
def Closed (options : Options) (p out : Program) : Prop :=
  let cx := Setting.ofProgram options p
  ∃ (vs : List Visited) (log : List Inserted) (defs : List Definition),
    eachBecome cx .none cx.environment 0 p.body vs log defs ∧
    ClosedAround cx p (vs.filterMap (·.stmt)) defs (log ++ defs.map .definition) out

end Program

theorem Demands.none_met (cx : Setting) : none.Met cx False where
  list _ _ := trivial
  wrapped _ := trivial

theorem Setting.arranged_eq {cx : Setting} (hhelpers : cx.options.skipHelpers = false)
    (body : List Stmt) (defs : List Definition) (inserted : List Inserted) :
    cx.arranged body defs inserted =
      cx.importFor inserted ++ body ++ defs.map (·.toStmt cx.names.runtime) ++
        cx.helpersFor inserted := by
  simp only [arranged, importFor, helpersFor, assertHelper?, extendHelper?, hhelpers,
    Bool.not_false, Bool.and_true, List.append_assoc]

/-! ### What the parts of a unit bind and refer to -/

/-- A statement that is there or not binds its name once or not at all. -/
theorem count_scopeNames_ite {s : Stmt} {name : String} (h : scopeNames [s] = [name]) (c : Bool)
    (n : String) :
    (scopeNames (if c then [s] else [])).count n = if c && name == n then 1 else 0 := by
  cases c with
  | false => rfl
  | true => simp [h, List.count_singleton]

/-- A unit into which anything was inserted has a constant, an assertion or an extension. -/
theorem Inserted.any_iff {s t : VisitState} {log : List Inserted} {defs : List Definition}
    (h : s.After t log defs) :
    let inserted := log ++ defs.map definition
    (inserted.any (·.isConstant) || inserted.any (·.isAssertion) ||
      inserted.any (·.usesExtend)) = !inserted.isEmpty := by
  intro inserted
  cases hinserted : inserted with
  | nil => rfl
  | cons i rest =>
    have hany := any_of_ne_nil h (show inserted ≠ [] by rw [hinserted]; exact List.cons_ne_nil _ _)
    rw [← hinserted, Bool.or_eq_true_iff.mpr (.inl (Bool.or_eq_true_iff.mpr hany)), hinserted]
    rfl

section Parts

variable {cx : Setting} {p out : Program} {vs : List Visited} {log : List Inserted}
variable {defs : List Definition} {s : VisitState}

/-- Of the parts of a unit, only the import and the helpers bind a name that the unit that it is
made from does not mention. -/
theorem count_scopeNames_arranged (h : eachBecome cx .none cx.environment 0 p.body vs log defs)
    {n : String} (hn : n ∉ p.mentions) (inserted : List Inserted) :
    (scopeNames (cx.arranged (vs.filterMap (·.stmt)) defs inserted)).count n =
      (if (inserted.any (·.isConstant) || inserted.any (·.isAssertion) ||
        inserted.any (·.usesExtend)) && cx.names.library == n then 1 else 0) +
      (if inserted.any (·.isAssertion) && cx.names.assert == n then 1 else 0) +
      (if inserted.any (·.usesExtend) && cx.names.extend == n then 1 else 0) := by
  have hbody : (scopeNames (vs.filterMap (·.stmt))).count n = 0 :=
    List.count_eq_zero.mpr fun hmem =>
      hn (scopeNames_subset p.body (eachBecome_scopeNames h hmem))
  have hlibrary : scopeNames [Support.libraryImport cx.names cx.options.runtimeLibrary] =
      [cx.names.library] := rfl
  have hassert : scopeNames [Support.assertHelper cx.names cx.options.warnOnFailure] =
      [cx.names.assert] := rfl
  have hextend : scopeNames [Support.extendHelper cx.names] = [cx.names.extend] := rfl
  simp only [Setting.arranged, count_scopeNames_append, hbody, scopeNames_definitions,
    count_scopeNames_ite hlibrary, count_scopeNames_ite hassert, count_scopeNames_ite hextend,
    List.count_nil, Nat.add_zero]

theorem counts_scopeNames_arranged
    (h : eachBecome cx .none cx.environment 0 p.body vs log defs)
    (hnodup : cx.names.toList.Nodup) (hmentions : ∀ n ∈ cx.names.toList, n ∉ p.mentions)
    {inserted : List Inserted}
    (hany : (inserted.any (·.isConstant) || inserted.any (·.isAssertion) ||
      inserted.any (·.usesExtend)) = !inserted.isEmpty) :
    let bound := scopeNames (cx.arranged (vs.filterMap (·.stmt)) defs inserted)
    bound.count cx.names.library = (if inserted.isEmpty then 0 else 1) ∧
    bound.count cx.names.assert = (if inserted.any (·.isAssertion) then 1 else 0) ∧
    bound.count cx.names.extend = if inserted.any (·.usesExtend) then 1 else 0 := by
  simp only [UnitNames.toList, List.nodup_cons, List.mem_cons, List.not_mem_nil, or_false,
    not_or] at hnodup
  simp only [UnitNames.toList, List.forall_mem_cons] at hmentions
  obtain ⟨⟨hassert, hextend⟩, hhelpers, -⟩ := hnodup
  obtain ⟨hlibrary', hassert', hextend', -⟩ := hmentions
  dsimp only
  rw [count_scopeNames_arranged h hlibrary', count_scopeNames_arranged h hassert',
    count_scopeNames_arranged h hextend', hany]
  simp [hassert, hextend, hhelpers, Ne.symm hassert, Ne.symm hextend, Ne.symm hhelpers]

/-- In the statements and definitions of a unit, a generated name that does not occur in `p` stands
for something that was inserted. -/
theorem occurs_parts_iff (hnames : cx.names = .ofProgram p)
    (h : eachBecome cx .none cx.environment 0 p.body vs log defs) :
    ∀ n ∈ cx.names.toList, n ∉ p.names →
      (Occurs n (stmtsOccur (vs.filterMap (·.stmt) ++ defs.map (·.toStmt cx.names.runtime))) ↔
        ∃ i ∈ log ++ defs.map .definition, Occurs n (i.occurrences cx)) := by
  intro n hn hp
  rw [stmtsOccur_append]
  exact (eachBecome_bring h).definitions defs (eachBecome_definition_occurs h) n
    (UnitNames.ofProgram_ne_arguments p n (hnames ▸ hn)) hp

/-- The parts of a unit in their order make a closed unit. -/
theorem ClosedAround.of_order (hnames : cx.names = .ofProgram p)
    (h : eachBecome cx .none cx.environment 0 p.body vs log defs)
    (hafter : VisitState.start.After s log defs)
    (horder : out.body = cx.arranged (vs.filterMap (·.stmt)) defs (log ++ defs.map .definition)) :
    ClosedAround cx p (vs.filterMap (·.stmt)) defs (log ++ defs.map .definition) out := by
  have hany := Inserted.any_iff hafter
  have hreferred := occurs_parts_iff hnames h
  generalize log ++ defs.map .definition = inserted at hany hreferred horder ⊢
  have hpresent (hne : inserted ≠ []) :
      ∃ rest, out.body = Support.libraryImport cx.names cx.options.runtimeLibrary :: rest := by
    rw [← List.isEmpty_eq_false_iff] at hne
    rw [horder, Setting.arranged, hany, hne]
    exact ⟨_, rfl⟩
  have habsent (hnil : inserted = []) :
      out.body = vs.filterMap (·.stmt) ++ defs.map (·.toStmt cx.names.runtime) := by
    rw [horder, Setting.arranged, hany, hnil]
    simp
  refine ⟨horder, fun hne => ?_, fun hfree => ?_, hreferred, fun hlibrary => ⟨?_, fun hne => ?_⟩,
    fun i _ => ⟨Inserted.occurs_assert, Inserted.occurs_extend⟩⟩
  · obtain ⟨rest, hrest⟩ := hpresent hne
    rw [hrest, List.head?_cons]
  · rw [horder]
    exact counts_scopeNames_arranged h (hnames ▸ UnitNames.ofProgram_nodup p)
      (hnames ▸ UnitNames.ofProgram_not_mentioned hfree) hany
  · intro hoccurs hnil
    rw [Program.names, Program.occurrences, habsent hnil] at hoccurs
    obtain ⟨i, hi, -⟩ :=
      (hreferred _ (by simp [UnitNames.toList]) hlibrary).mp hoccurs
    exact List.not_mem_nil (hnil ▸ hi)
  · obtain ⟨rest, hrest⟩ := hpresent hne
    rw [Program.names, Program.occurrences, hrest]
    exact List.mem_cons_self

end Parts

namespace Program

/-- A unit whose helpers are not left out is closed around what its statements become. -/
theorem instrument_closed {options : Options} {p out : Program}
    (hhelpers : options.skipHelpers = false) (h : p.instrument options = .ok out) :
    p.Closed options out := by
  obtain ⟨vs, s, log, defs, hafter, heach, hout⟩ :=
    exists_after (Demands.none_met (.ofProgram options p)) nofun h
  have horder := hout.trans (Setting.enclose_after hafter _)
  rw [← Setting.arranged_eq hhelpers] at horder
  exact ⟨vs, log, defs, heach, .of_order rfl heach hafter horder⟩

/-- The unit `interface I extends J {} let x: I = y;`. -/
def extendingInterface : Program :=
  ⟨"extendingInterface.js",
    [.interface ⟨"I", [], [⟨.simple "J", none⟩], .empty, false, .dummy⟩,
      .varDecl ⟨.let, [⟨.ident "x", some (.generic ⟨.simple "I", none⟩), some (.ident "y"),
        .dummy⟩], .dummy⟩]⟩

theorem extendingInterface_closed : Options.default.skipHelpers = false ∧
    ∃ out, extendingInterface.instrument .default = .ok out ∧
      extendingInterface.Closed .default out :=
  have h : extendingInterface.instrument .default = .ok _ := rfl
  ⟨rfl, _, h, instrument_closed rfl h⟩

end Program

end TypeGuard
