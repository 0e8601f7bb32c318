import TypeGuard.Proofs.Emission.Relation
import TypeGuard.Proofs.Occurrence

/-!
# Names that visits bring in

A name that does not occur in a tree occurs in what the tree becomes exactly if it is a name of
something that was inserted. The one exception is `arguments`, which a body refers to when it moves
into a function within.
-/

namespace TypeGuard

open Instrumentation

/-! ### Occurrences -/

/-- The name stands at one of the occurrences. -/
def Occurs (n : String) (os : List Occurrence) : Prop := n ∈ os.map (·.name)

section Occurs

variable {n : String}

@[simp] theorem occurs_nil : Occurs n [] ↔ False := List.mem_nil_iff _

@[simp] theorem occurs_append (os os' : List Occurrence) :
    Occurs n (os ++ os') ↔ Occurs n os ∨ Occurs n os' := by
  rw [Occurs, List.map_append, List.mem_append]
  rfl

@[simp] theorem occurs_cons_seen (name : String) (os : List Occurrence) :
    Occurs n (.seen name :: os) ↔ n = name ∨ Occurs n os := List.mem_cons

@[simp] theorem occurs_seen (names : List String) : Occurs n (names.map .seen) ↔ n ∈ names := by
  simp [Occurs, Occurrence.seen]

@[simp] theorem occurs_overlook (os : List Occurrence) : Occurs n (overlook os) ↔ Occurs n os := by
  simp [Occurs, overlook]

namespace Occurs

variable {os os' ps ps' : List Occurrence}

theorem left (h : Occurs n os) : Occurs n (os ++ os') := (occurs_append _ _).mpr (.inl h)

theorem right (h : Occurs n os') : Occurs n (os ++ os') := (occurs_append _ _).mpr (.inr h)

theorem imp (h : Occurs n (os ++ os')) (hleft : Occurs n os → Occurs n ps)
    (hright : Occurs n os' → Occurs n ps') : Occurs n (ps ++ ps') :=
  (occurs_append _ _).mpr (((occurs_append _ _).mp h).imp hleft hright)

end Occurs

end Occurs

theorem stmtsOccur_append (ss ts : List Stmt) :
    stmtsOccur (ss ++ ts) = stmtsOccur ss ++ stmtsOccur ts := by
  induction ss with
  | nil => rfl
  | cons s ss ih =>
    exact (congrArg (s.occurrences ++ ·) ih).trans (List.append_assoc s.occurrences _ _).symm

theorem stmtsOccur_singleton (s : Stmt) : stmtsOccur [s] = s.occurrences := List.append_nil _

theorem orEmptyBlock_occurrences (s : Option Stmt) :
    (orEmptyBlock s).occurrences = stmtsOccur s.toList := by
  cases s with
  | none => rfl
  | some s => exact (stmtsOccur_singleton s).symm

namespace Stmt

theorem occurrences_ifElse (test : Expr) (consequent : Stmt) (alternate : Option Stmt) :
    (ifElse test consequent alternate).occurrences =
      test.occurrences ++ consequent.occurrences ++ alternate.elim [] occurrences := by
  cases alternate <;> rfl

theorem occurrences_forLoop (init : Option ForInit) (test update : Option Expr) (body : Stmt) :
    (forLoop init test update body).occurrences =
      init.elim [] ForInit.occurrences ++ optExprOccurrences test ++ optExprOccurrences update ++
        body.occurrences := by
  cases init <;> rfl

theorem occurrences_tryCatch (stmts : List Stmt) (handler : Option CatchClause)
    (finalizer : Option (List Stmt)) :
    (tryCatch stmts handler finalizer).occurrences =
      stmtsOccur stmts ++ handler.elim [] CatchClause.occurrences ++
        finalizer.elim [] stmtsOccur := by
  cases handler <;> cases finalizer <;> rfl

end Stmt

/-- A path starts at its leading segment. -/
theorem Expr.path_occurrences (name : TypeName) :
    (Expr.path name).occurrences = name.leading.map .seen := by
  have hmember (segments : List String) (e : Expr) :
      (segments.foldl Expr.member e).occurrences = e.occurrences := by
    induction segments generalizing e with
    | nil => rfl
    | cons segment segments ih => exact ih (e.member segment)
  obtain ⟨_ | ⟨first, rest⟩⟩ := name
  · rfl
  · exact hmember rest (.ident first)

/-! ### Names that a log brings in -/

/-- The occurrences in what is inserted, that of the name of a declared type left out. -/
def Inserted.occurrences (cx : Setting) : Inserted → List Occurrence
  | .assertion check => .seen cx.names.assert :: (check.toExpr cx.names.runtime).occurrences
  | .constant _ check => (check.toExpr cx.names.runtime).occurrences
  | .definition d => (d.check.toExpr cx.names.runtime).occurrences

/-- The names of what is logged are those that occur in the one tree and not in the other. -/
def Brings (cx : Setting) (os os' : List Occurrence) (log : List Inserted) : Prop :=
  ∀ n, n ≠ "arguments" → ¬ Occurs n os → (Occurs n os' ↔ ∃ i ∈ log, Occurs n (i.occurrences cx))

namespace Brings

variable {cx : Setting} {os os' ps ps' : List Occurrence} {log l m : List Inserted}

/-- No name is brought in if none occurs that did not occur before. -/
theorem unlogged (h : ∀ n, Occurs n os' → Occurs n os) : Brings cx os os' [] :=
  fun n _ hn => ⟨fun hn' => absurd (h n hn') hn, nofun⟩

theorem refl (os : List Occurrence) : Brings cx os os [] := unlogged fun _ => id

/-- What is left out brings nothing in. -/
theorem leaveOut (os : List Occurrence) : Brings cx os [] [] := unlogged nofun

theorem append (h : Brings cx os os' l) (h' : Brings cx ps ps' m) :
    Brings cx (os ++ ps) (os' ++ ps') (l ++ m) := by
  intro n harg hn
  rw [occurs_append, not_or] at hn
  rw [occurs_append, h n harg hn.1, h' n harg hn.2]
  simp only [List.mem_append, or_and_right, exists_or]

/-- The order of the log does not matter. -/
theorem reorder (h : Brings cx os os' l) (hmem : ∀ i, i ∈ m ↔ i ∈ l) : Brings cx os os' m := by
  intro n harg hn
  rw [h n harg hn]
  simp only [hmem]

/-- The order of the occurrences does not matter, and names may have occurred before in more
places. -/
theorem rearrange (h : Brings cx os os' l) (hin : ∀ n, Occurs n os → Occurs n ps)
    (hout : ∀ n, Occurs n ps' ↔ Occurs n os') : Brings cx ps ps' l :=
  fun n harg hn => (hout n).trans (h n harg fun hmem => hn (hin n hmem))

/-- The second part of a tree is visited before the first. -/
theorem appendLater (h : Brings cx os os' l) (h' : Brings cx ps ps' m) :
    Brings cx (os ++ ps) (os' ++ ps') (m ++ l) :=
  (h.append h').reorder fun i => by rw [List.mem_append, List.mem_append, or_comm]

/-- Two trees are made from the same one. -/
theorem beside (h : Brings cx os os' l) (h' : Brings cx os ps' m) :
    Brings cx os (os' ++ ps') (l ++ m) :=
  (h.append h').rearrange (fun n hn => by rwa [occurs_append, or_self] at hn) fun _ => Iff.rfl

theorem cons (o : Occurrence) (h : Brings cx os os' log) : Brings cx (o :: os) (o :: os') log :=
  (refl [o]).append h

/-- Occurrences behind that are left out. -/
theorem before (ps : List Occurrence) (h : Brings cx os os' log) :
    Brings cx (os ++ ps) os' log := by
  simpa only [List.append_nil] using h.append (leaveOut ps)

theorem overlook (h : Brings cx os os' log) :
    Brings cx (TypeGuard.overlook os) (TypeGuard.overlook os') log := by
  intro n harg hn
  rw [occurs_overlook] at hn ⊢
  exact h n harg hn

/-- A tree with something inserted into it. -/
theorem insert {i : Inserted} (h : Brings cx os os' log)
    (hinsert : ∀ n, n ≠ "arguments" → ¬ Occurs n os →
      (Occurs n ps' ↔ Occurs n os' ∨ Occurs n (i.occurrences cx))) :
    Brings cx os ps' (log ++ [i]) := by
  intro n harg hn
  rw [hinsert n harg hn, h n harg hn]
  simp only [List.mem_append, List.mem_singleton, or_and_right, exists_or, exists_eq_left]

end Brings

theorem occurs_asserted {cx : Setting} {n : String} (value : Expr) (check : Combinator)
    (label : String) :
    Occurs n (value.asserted cx.names.assert (check.toExpr cx.names.runtime) label).occurrences ↔
      Occurs n value.occurrences ∨ Occurs n ((Inserted.assertion check).occurrences cx) := by
  change Occurs n (.seen cx.names.assert :: (value.occurrences ++
    ((check.toExpr cx.names.runtime).occurrences ++ []))) ↔ _
  simp only [List.append_nil, occurs_cons_seen, occurs_append, Inserted.occurrences]
  exact or_left_comm

/-- A value with its check brings in what the value brings in, and the names of the check. -/
theorem Brings.guarded {cx : Setting} {os : List Occurrence} {l m : List Inserted} {label : String}
    {value out : Expr} (h : Brings cx os value.occurrences l)
    (hout : value.Guarded cx label out m) : Brings cx os out.occurrences (l ++ m) := by
  cases hout with
  | unchecked => simpa only [List.append_nil] using h
  | asserted check => exact h.insert fun n _ _ => occurs_asserted value check label

/-- An initial value with its check brings in what the value brings in, and the names of the
check. -/
theorem Brings.initGuarded {cx : Setting} {os : List Occurrence} {l m : List Inserted}
    {label : String} {value out : Option Expr} (h : Brings cx os (optExprOccurrences value) l)
    (hout : InitGuarded cx label value out m) :
    Brings cx os (optExprOccurrences out) (l ++ m) := by
  cases value with
  | some value =>
    obtain ⟨_, rfl, hf⟩ := hout
    exact h.guarded hf
  | none =>
    obtain ⟨rfl, rfl⟩ := hout
    simpa only [List.append_nil] using h

/-! ### Checks of parameters and bodies -/

mutual
/-- The value of a pattern is made from names that occur in the pattern. -/
theorem Pattern.occurs_of_toValue {n : String} (p : Pattern)
    (h : Occurs n p.toValue.occurrences) : Occurs n p.occurrences := by
  match p with
  | .ident _ => exact h
  | .object props => exact occurs_of_propValues props h
  | .array elems => exact occurs_of_elemValues elems h
  | .default left _ => exact (left.occurs_of_toValue h).left
  | .rest inner => exact inner.occurs_of_toValue h

theorem occurs_of_elemValues {n : String} (ps : List (Option Pattern))
    (h : Occurs n (elemsOccur (elemValues ps))) : Occurs n (patternsOccur ps) := by
  match ps with
  | [] => exact h
  | some p :: ps =>
    exact h.imp p.occurs_of_toValue (occurs_of_elemValues ps)
  | none :: ps => exact occurs_of_elemValues ps h

theorem occurs_of_propValues {n : String} (ps : List PatternProp)
    (h : Occurs n (objectPropsOccur (propValues ps))) : Occurs n (patternPropsOccur ps) := by
  match ps with
  | [] => exact h
  | .keyValue key value _ :: ps =>
    exact h.imp (fun h => h.imp id value.occurs_of_toValue) (occurs_of_propValues ps)
  | .rest (.ident _) :: ps => exact h.imp id (occurs_of_propValues ps)
  | .rest (.object props) :: ps =>
    exact h.imp (occurs_of_propValues props) (occurs_of_propValues ps)
  | .rest (.array elems) :: ps => exact h.imp (occurs_of_elemValues elems) (occurs_of_propValues ps)
  | .rest (.default left right) :: ps =>
    exact h.imp (Pattern.default left right).occurs_of_toValue (occurs_of_propValues ps)
  | .rest (.rest inner) :: ps => exact h.imp inner.occurs_of_toValue (occurs_of_propValues ps)
end

/-- What the check of a parameter looks at occurs in its pattern. -/
theorem Param.occurs_of_checked {n : String} (p : Param) (h : Occurs n p.checked.occurrences) :
    Occurs n p.pattern.occurrences := by
  obtain ⟨pattern, type, optional⟩ := p
  cases pattern with
  | default left right => exact Occurs.left h
  | _ => exact h

section Checks

variable {cx : Setting}

theorem Param.Checks.brings {p : Param} {checks : List Stmt} {log : List Inserted}
    (h : p.Checks cx checks log) : Brings cx p.pattern.occurrences (stmtsOccur checks) log := by
  obtain ⟨rfl, rfl⟩ | ⟨f, rfl, hf⟩ := h
  · exact .leaveOut _
  · have hvalue : Brings cx p.pattern.occurrences p.checked.toValue.occurrences [] :=
      .unlogged fun n hn => p.occurs_of_checked (p.checked.occurs_of_toValue hn)
    exact stmtsOccur_singleton (.expr f) ▸ hvalue.guarded hf

theorem FunctionBody.stmts_occurrences (body : FunctionBody) :
    stmtsOccur body.stmts = body.occurrences := by
  cases body with
  | block stmts => rfl
  | expr value => exact stmtsOccur_singleton (.ret (some value))

theorem FunctionBody.behind_occurrences (checks : List Stmt) (body : FunctionBody) :
    (body.behind checks).occurrences = stmtsOccur checks ++ body.occurrences := by
  unfold behind
  split
  · rename_i hempty
    rw [List.isEmpty_iff.mp hempty]
    rfl
  · exact (stmtsOccur_append _ _).trans (congrArg (stmtsOccur checks ++ ·) body.stmts_occurrences)

/-- A produced value refers to the arguments at hand, and else to what the statements refer to. -/
theorem occurs_producedValue {n : String} (harg : n ≠ "arguments") (isArrow isAsync : Bool)
    (stmts : List Stmt) :
    Occurs n (producedValue isArrow isAsync stmts).occurrences ↔ Occurs n (stmtsOccur stmts) := by
  unfold producedValue
  split
  · rename_i hempty
    rw [Bool.and_eq_true, List.isEmpty_iff] at hempty
    rw [hempty.1]
    rfl
  · split
    · change Occurs n (stmtsOccur stmts ++ []) ↔ _
      rw [List.append_nil]
    · change Occurs n (stmtsOccur stmts ++ [.seen "arguments"]) ↔ _
      rw [occurs_append, occurs_cons_seen, occurs_nil, or_false, or_iff_left harg]

/-- Behind what precedes it, a body with the checks of the parameters brings in what the two bring
in, and the names of the check of its value. -/
theorem Setting.BodyChecked.brings {isArrow isAsync : Bool} {checks : List Stmt}
    {body out : FunctionBody} {check : Option Combinator} {os ps : List Occurrence}
    {log : List Inserted} (h : cx.BodyChecked isArrow isAsync checks body check out)
    (hbody : Brings cx os (ps ++ (stmtsOccur checks ++ body.occurrences)) log) :
    Brings cx os (ps ++ out.occurrences) (log ++ check.toList.map .assertion) := by
  cases h with
  | behind => simpa [FunctionBody.behind_occurrences] using hbody
  | wrapped check =>
    refine hbody.insert fun n harg _ => ?_
    change Occurs n (ps ++ stmtsOccur (checks ++ [.ret (some _)])) ↔ _
    simp only [stmtsOccur_append, stmtsOccur_singleton, occurs_append, or_assoc]
    change _ ∨ _ ∨ Occurs n (Expr.asserted _ _ _ _).occurrences ↔ _
    rw [occurs_asserted, occurs_producedValue harg, FunctionBody.stmts_occurrences]

end Checks

/-! ### Lists -/

section Lists

variable {cx : Setting}

theorem Definition.occurs_toStmt {n : String} (x : Definition) :
    Occurs n (x.toStmt cx.names.runtime).occurrences ↔
      n = x.name ∨ Occurs n ((Inserted.definition x).occurrences cx) := by
  change Occurs n (.seen x.name :: ((x.check.toExpr cx.names.runtime).occurrences ++ [])) ↔ _
  rw [List.append_nil, occurs_cons_seen]
  rfl

/-- The definitions of types whose names occur bring in what their checks refer to. -/
theorem Brings.definitions {os os' : List Occurrence} {log : List Inserted}
    (h : Brings cx os os' log) (defs : List Definition) (hdefs : ∀ x ∈ defs, Occurs x.name os) :
    Brings cx os (os' ++ stmtsOccur (defs.map (·.toStmt cx.names.runtime)))
      (log ++ defs.map .definition) := by
  induction defs generalizing os' log with
  | nil =>
    change Brings cx os (os' ++ []) (log ++ [])
    rwa [List.append_nil, List.append_nil]
  | cons x defs ih =>
    rw [List.forall_mem_cons] at hdefs
    have hfirst : Brings cx os (os' ++ (x.toStmt cx.names.runtime).occurrences)
        (log ++ [.definition x]) := by
      refine h.insert fun n _ hn => ?_
      have hne : n ≠ x.name := fun heq => hn (heq ▸ hdefs.1)
      rw [occurs_append, Definition.occurs_toStmt, or_iff_right hne]
    have hboth := ih hfirst hdefs.2
    rw [List.append_assoc, List.append_assoc] at hboth
    exact hboth

/-- What occurs in the statements of a list and in the definitions occurs in the list of both. -/
theorem occurs_withDefinitions {n : String} {ds : List Stmt} {vs : List Visited}
    (h : vs.any (·.defers) = false → ds = []) :
    Occurs n (stmtsOccur (withDefinitions ds vs)) ↔
      Occurs n (stmtsOccur (vs.filterMap (·.stmt)) ++ stmtsOccur ds) := by
  obtain ⟨k, hk, -⟩ := withDefinitions_eq h
  have hvs := congrArg (fun vs => stmtsOccur (vs.filterMap (·.stmt))) (List.take_append_drop k vs)
  simp only [List.filterMap_append, stmtsOccur_append] at hvs
  simp only [hk, stmtsOccur_append, ← hvs, occurs_append]
  tauto

variable {R : Demands}

theorem ListBecomes.brings {env : Environment} {d : Nat} {stmts out : List Stmt}
    {log : List Inserted} (h : ListBecomes cx R d stmts (eachBecome cx R env d stmts) out log)
    (heach : ∀ vs l defs, eachBecome cx R env d stmts vs l defs →
      Brings cx (stmtsOccur stmts) (stmtsOccur (vs.filterMap (·.stmt))) l ∧
        ∀ x ∈ defs, Occurs x.name (stmtsOccur stmts)) :
    Brings cx (stmtsOccur stmts) (stmtsOccur out) log := by
  obtain ⟨vs, l, defs, hvs, rfl, rfl, -⟩ := h
  obtain ⟨hstmts, hdefs⟩ := heach vs l defs hvs
  intro n harg hn
  have hnone : vs.any (·.defers) = false → defs.map (·.toStmt cx.names.runtime) = [] := by
    rw [eachBecome_defers hvs, Bool.not_eq_false', List.isEmpty_iff]
    exact fun hnil => hnil ▸ rfl
  rw [occurs_withDefinitions hnone]
  exact hstmts.definitions defs hdefs n harg hn

theorem TypeDeclared.brings {recursive : Bool} {span : Span} {id : String} {check : Combinator}
    {out : Option Stmt} {log : List Inserted} {defs : List Definition} {os : List Occurrence}
    (h : TypeDeclared cx recursive span id check out log defs) :
    Brings cx (.seen id :: os) (stmtsOccur out.toList) log := by
  have hconstant (check : Combinator) : Brings cx (.seen id :: os)
      (stmtsOccur [.constDecl id (check.toExpr cx.names.runtime) span]) [.constant id check] := by
    refine (Brings.leaveOut _).insert fun n _ hn => ?_
    rw [occurs_cons_seen, not_or] at hn
    change Occurs n (.seen id :: ((check.toExpr cx.names.runtime).occurrences ++ [] ++ [])) ↔ _
    rw [List.append_nil, List.append_nil, occurs_cons_seen, occurs_nil, false_or,
      or_iff_right hn.1]
    rfl
  cases recursive with
  | true =>
    obtain ⟨rfl, rfl, -⟩ := h
    exact hconstant (.declare id)
  | false =>
    obtain ⟨rfl, rfl, -⟩ := h
    exact hconstant check

theorem TypeDeclared.definition_name {recursive : Bool} {span : Span} {id : String}
    {check : Combinator} {out : Option Stmt} {log : List Inserted} {defs : List Definition}
    (h : TypeDeclared cx recursive span id check out log defs) : ∀ x ∈ defs, x.name = id := by
  cases recursive with
  | true =>
    obtain ⟨-, -, rfl⟩ := h
    exact List.forall_mem_singleton.mpr rfl
  | false =>
    obtain ⟨-, -, rfl⟩ := h
    nofun

end Lists

/-! ### Definitions -/

section Definitions

variable {cx : Setting} {R : Demands}

/-- A definition that a statement puts off is that of a type whose name occurs in the statement. -/
theorem Stmt.Becomes.definition_occurs {env : Environment} {d : Nat} {s : Stmt}
    {out : Option Stmt} {log : List Inserted} {defs : List Definition}
    (h : s.Becomes cx R env d out log defs) : ∀ x ∈ defs, Occurs x.name s.occurrences := by
  unfold Stmt.Becomes at h
  rcases h.cases with ⟨-, -, rfl⟩ | h
  · nofun
  match s, h with
  | .typeAlias decl, h =>
    obtain ⟨check, -, hdecl⟩ := h
    exact fun x hx => (occurs_cons_seen _ _).mpr (.inl (hdecl.definition_name x hx))
  | .interface decl, h =>
    obtain ⟨check, -, hdecl⟩ := h
    exact fun x hx => (occurs_cons_seen _ _).mpr (.inl (hdecl.definition_name x hx))
  | .export (some _) _ _ _, h =>
    obtain ⟨f, -, hf⟩ := h
    exact fun x hx => (hf.definition_occurs x hx).left
  | .ifElse _ _ (some _), h =>
    obtain ⟨_, _, _, _, _, _, ds, es, -, -, rfl, -, hthen, _, -, helse⟩ := h
    intro x hx
    rcases List.mem_append.mp hx with hx | hx
    · exact (hthen.definition_occurs x hx).right.left
    · exact (helse.definition_occurs x hx).right
  | .ifElse _ _ none, h =>
    obtain ⟨_, _, _, _, _, _, ds, _, -, -, rfl, -, hthen, -, -, rfl⟩ := h
    intro x hx
    rw [List.append_nil] at hx
    exact (hthen.definition_occurs x hx).right.left
  | .forLoop (some _) _ _ _, h | .forLoop none _ _ _, h =>
    obtain ⟨_, _, _, _, _, _, _, _, -, -, -, -, -, hbody⟩ := h
    exact fun x hx => (hbody.definition_occurs x hx).right
  | .forIn _ _ _, h | .forOf _ _ _ _, h =>
    obtain ⟨_, _, _, _, _, _, -, -, -, -, hbody⟩ := h
    exact fun x hx => (hbody.definition_occurs x hx).right
  | .while _ _, h =>
    obtain ⟨_, _, _, _, -, -, -, hbody⟩ := h
    exact fun x hx => (hbody.definition_occurs x hx).right
  | .doWhile _ _, h =>
    obtain ⟨_, _, _, _, -, -, hbody, -⟩ := h
    exact fun x hx => (hbody.definition_occurs x hx).right
  | .labeled _ _, h =>
    obtain ⟨_, -, hbody⟩ := h
    exact fun x hx => (occurs_cons_seen _ _).mpr (.inr (hbody.definition_occurs x hx))
  | .expr _, h | .varDecl _, h | .function _, h | .class _, h | .ret _, h | .block _, h
  | .throw _, h | .exportDefault _, h =>
    obtain ⟨_, -, rfl, -⟩ := h
    nofun
  | .tryCatch _ _ _, h =>
    obtain ⟨_, _, _, _, _, _, -, -, rfl, -⟩ := h
    nofun
  | .switch _ _, h =>
    obtain ⟨_, _, _, _, -, -, rfl, -⟩ := h
    nofun
  | .break _, h | .continue _, h | .empty, h | .import _, h | .export none _ _ _, h =>
    obtain ⟨-, -, rfl⟩ := h
    nofun

theorem eachBecome_definition_occurs {env : Environment} {d : Nat} {ss : List Stmt}
    {vs : List Visited} {log : List Inserted} {defs : List Definition}
    (h : eachBecome cx R env d ss vs log defs) : ∀ x ∈ defs, Occurs x.name (stmtsOccur ss) := by
  induction ss generalizing vs log defs with
  | nil =>
    obtain ⟨-, -, rfl⟩ := h
    nofun
  | cons s ss ih =>
    obtain ⟨_, _, _, _, ds, es, -, -, rfl, -, hs, hrest⟩ := h
    intro x hx
    rcases List.mem_append.mp hx with hx | hx
    · exact (hs.definition_occurs x hx).left
    · exact (ih hrest x hx).right

end Definitions

end TypeGuard
