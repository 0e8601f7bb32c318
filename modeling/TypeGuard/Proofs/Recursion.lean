import TypeGuard.Proofs.Emission.Unit
import TypeGuard.Syntax.Build

/-!
# Recursive types

A recursive type is declared where its declaration stands and defined once, in the same list of
statements, behind the last statement with a recursive declaration. All lists share one queue of
definitions: each takes out exactly what its own statements have put off, in their order, whatever
was pending before it and whatever the lists within its statements put off and took out.
-/

namespace TypeGuard

open Visit Instrumentation

/-! ### Declarations in their places -/

namespace Stmt

/-- What stands in the place of a recursive declaration, exported or not. -/
def declared? (names : RuntimeNames) : Stmt → Option Stmt
  | .typeAlias d => if d.recursive then some (Definition.declare names d.id d.span) else none
  | .interface d => if d.recursive then some (Definition.declare names d.id d.span) else none
  | .export (some declaration) specifiers source _ =>
    (declaration.declared? names).map fun s => .export (some s) specifiers source .value
  | _ => none

/-- The recursive types that a statement declares for the list around it: by itself, in an export,
or as a branch, a loop body or behind a label. -/
def recursiveTypes : Stmt → List String
  | .typeAlias d => if d.recursive then [d.id] else []
  | .interface d => if d.recursive then [d.id] else []
  | .export (some declaration) _ _ _ => declaration.recursiveTypes
  | .ifElse _ consequent (some alternate) => consequent.recursiveTypes ++ alternate.recursiveTypes
  | .ifElse _ consequent none => consequent.recursiveTypes
  | .forLoop _ _ _ body => body.recursiveTypes
  | .forIn _ _ body => body.recursiveTypes
  | .forOf _ _ body _ => body.recursiveTypes
  | .while _ body => body.recursiveTypes
  | .doWhile body _ => body.recursiveTypes
  | .labeled _ body => body.recursiveTypes
  | _ => []

/-- A recursive declaration has become the constant that declares its type. -/
def InPlace (names : RuntimeNames) (s : Stmt) (out : Option Stmt) : Prop :=
  ∀ t, s.declared? names = some t → out = some t

/-- The types that a statement declares for the list around it, recursive or not: by itself, in an
export, or as a branch, a loop body or behind a label. -/
def types : Stmt → List String
  | .typeAlias d => [d.id]
  | .interface d => [d.id]
  | .export (some declaration) _ _ _ => declaration.types
  | .ifElse _ consequent (some alternate) => consequent.types ++ alternate.types
  | .ifElse _ consequent none => consequent.types
  | .forLoop _ _ _ body => body.types
  | .forIn _ _ body => body.types
  | .forOf _ _ body _ => body.types
  | .while _ body => body.types
  | .doWhile body _ => body.types
  | .labeled _ body => body.types
  | _ => []

/-- The type that a statement declares by itself or in an export. -/
def type? : Stmt → Option String
  | .typeAlias d => some d.id
  | .interface d => some d.id
  | .export (some declaration) _ _ _ => declaration.type?
  | _ => none

/-- The constant that a statement declares by itself or in an export. -/
def constant? : Stmt → Option String
  | .varDecl ⟨.const, [⟨.ident name, _, some _, _⟩], _⟩ => some name
  | .export (some declaration) _ _ _ => declaration.constant?
  | _ => none

/-- The statement is an expression, as a definition is. -/
def isExpr : Stmt → Bool
  | .expr _ => true
  | _ => false

/-- A type declaration has become a constant under the name of the type. -/
def ConstantInPlace (s : Stmt) (out : Option Stmt) : Prop :=
  ∀ id, s.type? = some id → ∃ t, out = some t ∧ t.constant? = some id

/-- The statement at the depth `d` as the list around it declares types by it: what stands beyond
the depth limit is left as it is and declares none. -/
def cut (d : Nat) (s : Stmt) : Stmt :=
  if Limits.treeDepth ≤ d then .empty else
    match s with
    | .export (some declaration) specifiers source kind =>
      .export (some (declaration.cut (d + 1))) specifiers source kind
    | .ifElse test consequent (some alternate) =>
      .ifElse test (consequent.cut (d + 1)) (some (alternate.cut (d + 1)))
    | .ifElse test consequent none => .ifElse test (consequent.cut (d + 1)) none
    | .forLoop init test update body => .forLoop init test update (body.cut (d + 1))
    | .forIn left right body => .forIn left right (body.cut (d + 1))
    | .forOf left right body isAwait => .forOf left right (body.cut (d + 1)) isAwait
    | .while test body => .while test (body.cut (d + 1))
    | .doWhile body test => .doWhile (body.cut (d + 1)) test
    | .labeled label body => .labeled label (body.cut (d + 1))
    | s => s

theorem cut_of_fits {d : Nat} {s : Stmt} (hd : Fits d s.nesting) : s.cut d = s := by
  unfold cut
  match s, hd with
  | .export (some declaration) _ _ _, hd | .labeled _ declaration, hd =>
    rw [if_neg hd.not_le]
    simp only [cut_of_fits hd.inner]
  | .ifElse _ _ (some _), hd =>
    rw [if_neg hd.not_le]
    simp only [cut_of_fits hd.inner.right.left, cut_of_fits hd.inner.right.right]
  | .ifElse _ _ none, hd =>
    rw [if_neg hd.not_le]
    simp only [cut_of_fits hd.inner.right.left]
  | .forLoop _ _ _ _, hd =>
    rw [if_neg hd.not_le]
    simp only [cut_of_fits hd.inner.right.right.right]
  | .forIn _ _ _, hd | .forOf _ _ _ _, hd =>
    rw [if_neg hd.not_le]
    simp only [cut_of_fits hd.inner.right.right]
  | .while _ _, hd =>
    rw [if_neg hd.not_le]
    simp only [cut_of_fits hd.inner.right]
  | .doWhile _ _, hd =>
    rw [if_neg hd.not_le]
    simp only [cut_of_fits hd.inner.left]
  | .expr _, hd | .varDecl _, hd | .function _, hd | .class _, hd | .ret _, hd | .block _, hd
  | .throw _, hd | .tryCatch _ _ _, hd | .switch _ _, hd | .break _, hd | .continue _, hd
  | .empty, hd | .typeAlias _, hd | .interface _, hd | .import _, hd | .export none _ _ _, hd
  | .exportDefault _, hd => exact if_neg hd.not_le

theorem map_cut_of_fits {d : Nat} {stmts : List Stmt} (hd : Fits d (stmtsNesting stmts)) :
    stmts.map (·.cut d) = stmts := by
  induction stmts with
  | nil => rfl
  | cons s ss ih => rw [List.map_cons, cut_of_fits hd.left, ih hd.right]

end Stmt

/-- The statements of a list stand in their order, each recursive declaration replaced in place, and
the definitions of the recursive types, one for each in the order of the declarations, stand
together behind all statements that declare any. -/
def DefinesTypes (names : RuntimeNames) (stmts out : List Stmt) : Prop :=
  ∃ (vs : List (Option Stmt)) (n : Nat) (defs : List Definition),
    out = (vs.take n).reduceOption ++ defs.map (·.toStmt names) ++ (vs.drop n).reduceOption ∧
    List.Forall₂ (Stmt.InPlace names) stmts vs ∧
    defs.map (·.name) = stmts.flatMap Stmt.recursiveTypes ∧
    ∀ s ∈ stmts.drop n, s.recursiveTypes = []

/-- Every list of statements within a unit defines its recursive types. -/
def Demands.defining (names : RuntimeNames) : Demands :=
  ⟨fun _ => DefinesTypes names, fun _ _ _ => True⟩

namespace Program

/-- The unit `out` has the statements of `p` in their order, each recursive declaration replaced in
place, and behind them the definitions of the recursive types in the order of the declarations; then
come the helpers. The lists within the statements define their own recursive types. -/
def Defines (options : Options) (p out : Program) : Prop :=
  let cx := Setting.ofProgram options p
  let names := cx.names.runtime
  ∃ (vs : List Visited) (log : List Inserted) (defs : List Definition),
    eachBecome cx (.defining names) cx.environment 0 p.body vs log defs ∧
    out.body = cx.importFor (log ++ defs.map .definition) ++ vs.filterMap (·.stmt) ++
      defs.map (·.toStmt names) ++ cx.helpersFor (log ++ defs.map .definition) ∧
    List.Forall₂ (Stmt.InPlace names) p.body (vs.map (·.stmt)) ∧
    defs.map (·.name) = p.body.flatMap Stmt.recursiveTypes

end Program

/-! ### Single statements -/

variable {cx : Setting} {R : Demands} {env : Environment} {d : Nat}

theorem TypeDeclared.names {recursive : Bool} {span : Span} {id : String} {check : Combinator}
    {out : Option Stmt} {log : List Inserted} {defs : List Definition}
    (h : TypeDeclared cx recursive span id check out log defs) :
    defs.map (·.name) = if recursive then [id] else [] := by
  cases recursive <;> obtain ⟨-, -, rfl⟩ := h <;> rfl

theorem TypeDeclared.out {recursive : Bool} {span : Span} {id : String} {check : Combinator}
    {out : Option Stmt} {log : List Inserted} {defs : List Definition}
    (h : TypeDeclared cx recursive span id check out log defs) {t : Stmt}
    (ht : (if recursive then some (Definition.declare cx.names.runtime id span) else none) =
      some t) :
    out = some t := by
  cases recursive with
  | true => exact h.1.trans ht
  | false => cases ht

/-- A visited statement puts off the definitions of the types that it declares. -/
theorem Stmt.Becomes.names {d : Nat} {s : Stmt} {out : Option Stmt} {log : List Inserted}
    {defs : List Definition} (h : s.Becomes cx R env d out log defs) :
    defs.map (·.name) = (s.cut d).recursiveTypes := by
  unfold Stmt.Becomes at h
  unfold Stmt.cut
  by_cases hd : Limits.treeDepth ≤ d
  · obtain ⟨-, -, rfl⟩ := h.1 hd
    rw [if_pos hd]
    rfl
  have hvisited := h.2 (Nat.lt_of_not_le hd)
  rw [if_neg hd]
  clear h
  match s, hvisited with
  | .typeAlias decl, h | .interface decl, h =>
    obtain ⟨check, -, hdecl⟩ := h
    exact hdecl.names
  | .export (some declaration) specifiers source kind, h =>
    obtain ⟨f, -, hf⟩ := h
    exact hf.names
  | .ifElse test consequent (some alternate), h =>
    obtain ⟨f, g, _, k, l, m, ds, es, -, -, rfl, -, hg, b, -, hb⟩ := h
    rw [List.map_append, hg.names, hb.names]
    rfl
  | .ifElse test consequent none, h =>
    obtain ⟨f, g, _, k, l, m, ds, es, -, -, rfl, -, hg, -, -, rfl⟩ := h
    rw [List.append_nil, hg.names]
    rfl
  | .forLoop init test update body, h =>
    obtain ⟨_, _, _, b, _, _, _, m, -, -, -, -, -, hb⟩ := h
    exact hb.names
  | .forIn left right body, h | .forOf left right body isAwait, h =>
    obtain ⟨_, _, b, _, _, m, -, -, -, -, hb⟩ := h
    exact hb.names
  | .while test body, h =>
    obtain ⟨_, b, _, m, -, -, -, hb⟩ := h
    exact hb.names
  | .doWhile body test, h =>
    obtain ⟨_, b, l, _, -, -, hb, -⟩ := h
    exact hb.names
  | .labeled label body, h =>
    obtain ⟨b, -, hb⟩ := h
    exact hb.names
  | .expr _, h | .varDecl _, h | .function _, h | .class _, h | .ret _, h | .block _, h
  | .throw _, h | .exportDefault _, h =>
    obtain ⟨_, -, rfl, -⟩ := h
    rfl
  | .tryCatch _ _ _, h =>
    obtain ⟨_, _, _, _, _, _, -, -, rfl, -⟩ := h
    rfl
  | .switch _ _, h =>
    obtain ⟨_, _, _, _, -, -, rfl, -⟩ := h
    rfl
  | .break _, h | .continue _, h | .empty, h | .import _, h | .export none _ _ _, h =>
    obtain ⟨-, -, rfl⟩ := h
    rfl

theorem Stmt.Becomes.inPlace {d : Nat} {s : Stmt} {out : Option Stmt} {log : List Inserted}
    {defs : List Definition} (h : s.Becomes cx R env d out log defs) :
    (s.cut d).InPlace cx.names.runtime out := by
  unfold Stmt.Becomes at h
  unfold Stmt.cut
  by_cases hd : Limits.treeDepth ≤ d
  · rw [if_pos hd]
    exact nofun
  have hvisited := h.2 (Nat.lt_of_not_le hd)
  rw [if_neg hd]
  clear h
  match s, hvisited with
  | .typeAlias decl, h | .interface decl, h =>
    obtain ⟨check, -, hdecl⟩ := h
    exact fun t ht => hdecl.out ht
  | .export (some declaration) specifiers source kind, h =>
    obtain ⟨f, rfl, hf⟩ := h
    intro t ht
    obtain ⟨t', ht', rfl⟩ := Option.map_eq_some_iff.mp ht
    rw [hf.inPlace t' ht']
    rfl
  | .expr _, _ | .varDecl _, _ | .function _, _ | .class _, _ | .ret _, _
  | .ifElse _ _ (some _), _ | .ifElse _ _ none, _ | .block _, _ | .throw _, _
  | .forLoop _ _ _ _, _ | .forIn _ _ _, _ | .forOf _ _ _ _, _ | .while _ _, _ | .doWhile _ _, _
  | .tryCatch _ _ _, _ | .switch _ _, _ | .labeled _ _, _ | .break _, _ | .continue _, _
  | .empty, _ | .import _, _ | .export none _ _ _, _ | .exportDefault _, _ => exact nofun

theorem TypeDeclared.exists_constDecl {recursive : Bool} {span : Span} {id : String}
    {check : Combinator} {out : Option Stmt} {log : List Inserted} {defs : List Definition}
    (h : TypeDeclared cx recursive span id check out log defs) :
    ∃ init, out = some (.constDecl id init span) := by
  cases recursive <;> exact ⟨_, h.1⟩

/-- What declares a type is never dropped, and is no expression afterwards. -/
theorem Stmt.Becomes.exists_declaration {d : Nat} {s : Stmt} {out : Option Stmt}
    {log : List Inserted} {defs : List Definition} (h : s.Becomes cx R env d out log defs)
    (htypes : (s.cut d).types ≠ []) : ∃ t, out = some t ∧ t.isExpr = false := by
  unfold Stmt.Becomes at h
  unfold Stmt.cut at htypes
  by_cases hd : Limits.treeDepth ≤ d
  · rw [if_pos hd] at htypes
    exact absurd rfl htypes
  have hvisited := h.2 (Nat.lt_of_not_le hd)
  rw [if_neg hd] at htypes
  clear h
  match s, hvisited, htypes with
  | .typeAlias decl, h, _ | .interface decl, h, _ =>
    obtain ⟨check, -, hdecl⟩ := h
    obtain ⟨init, rfl⟩ := hdecl.exists_constDecl
    exact ⟨_, rfl, rfl⟩
  | .export (some declaration) _ _ _, h, htypes =>
    obtain ⟨f, rfl, hf⟩ := h
    obtain ⟨t, rfl, -⟩ := hf.exists_declaration htypes
    exact ⟨_, rfl, rfl⟩
  | .ifElse _ _ (some _), h, _ | .ifElse _ _ none, h, _ =>
    obtain ⟨_, _, _, _, _, _, _, _, rfl, -⟩ := h
    exact ⟨_, rfl, rfl⟩
  | .forLoop _ _ _ _, h, _ =>
    obtain ⟨_, _, _, _, _, _, _, _, rfl, -⟩ := h
    exact ⟨_, rfl, rfl⟩
  | .forIn _ _ _, h, _ | .forOf _ _ _ _, h, _ =>
    obtain ⟨_, _, _, _, _, _, rfl, -⟩ := h
    exact ⟨_, rfl, rfl⟩
  | .while _ _, h, _ | .doWhile _ _, h, _ =>
    obtain ⟨_, _, _, _, rfl, -⟩ := h
    exact ⟨_, rfl, rfl⟩
  | .labeled _ _, h, _ =>
    obtain ⟨_, rfl, -⟩ := h
    exact ⟨_, rfl, rfl⟩
  | .expr _, _, htypes | .varDecl _, _, htypes | .function _, _, htypes | .class _, _, htypes
  | .ret _, _, htypes | .block _, _, htypes | .throw _, _, htypes | .tryCatch _ _ _, _, htypes
  | .switch _ _, _, htypes | .break _, _, htypes | .continue _, _, htypes | .empty, _, htypes
  | .import _, _, htypes | .export none _ _ _, _, htypes
  | .exportDefault _, _, htypes => exact absurd rfl htypes

theorem Stmt.Becomes.constantInPlace {d : Nat} {s : Stmt} {out : Option Stmt}
    {log : List Inserted} {defs : List Definition} (h : s.Becomes cx R env d out log defs) :
    (s.cut d).ConstantInPlace out := by
  unfold Stmt.Becomes at h
  unfold Stmt.cut
  by_cases hd : Limits.treeDepth ≤ d
  · rw [if_pos hd]
    exact nofun
  have hvisited := h.2 (Nat.lt_of_not_le hd)
  rw [if_neg hd]
  clear h
  match s, hvisited with
  | .typeAlias decl, h | .interface decl, h =>
    obtain ⟨check, -, hdecl⟩ := h
    obtain ⟨init, rfl⟩ := hdecl.exists_constDecl
    exact fun id hid => ⟨_, rfl, hid⟩
  | .export (some declaration) _ _ _, h =>
    obtain ⟨f, rfl, hf⟩ := h
    intro id hid
    obtain ⟨t, rfl, ht⟩ := hf.constantInPlace id hid
    exact ⟨_, rfl, ht⟩
  | .expr _, _ | .varDecl _, _ | .function _, _ | .class _, _ | .ret _, _
  | .ifElse _ _ (some _), _ | .ifElse _ _ none, _ | .block _, _ | .throw _, _
  | .forLoop _ _ _ _, _ | .forIn _ _ _, _ | .forOf _ _ _ _, _ | .while _ _, _ | .doWhile _ _, _
  | .tryCatch _ _ _, _ | .switch _ _, _ | .labeled _ _, _ | .break _, _ | .continue _, _
  | .empty, _ | .import _, _ | .export none _ _ _, _ | .exportDefault _, _ => exact nofun

/-! ### Lists -/

theorem eachBecome_names_cut {stmts : List Stmt} {vs : List Visited} {log : List Inserted}
    {defs : List Definition} (h : eachBecome cx R env d stmts vs log defs) :
    defs.map (·.name) = (stmts.map (·.cut d)).flatMap Stmt.recursiveTypes := by
  induction stmts generalizing vs log defs with
  | nil =>
    obtain ⟨-, -, rfl⟩ := h
    rfl
  | cons s ss ih =>
    obtain ⟨v, vs, _, _, ds, es, rfl, -, rfl, -, hs, hrest⟩ := h
    rw [List.map_append, List.map_cons, List.flatMap_cons, hs.names, ih hrest]

theorem eachBecome_inPlace_cut {stmts : List Stmt} {vs : List Visited} {log : List Inserted}
    {defs : List Definition} (h : eachBecome cx R env d stmts vs log defs) :
    List.Forall₂ (Stmt.InPlace cx.names.runtime) (stmts.map (·.cut d)) (vs.map (·.stmt)) := by
  induction stmts generalizing vs log defs with
  | nil =>
    obtain ⟨rfl, -, -⟩ := h
    exact .nil
  | cons s ss ih =>
    obtain ⟨v, vs, _, _, ds, es, rfl, -, rfl, -, hs, hrest⟩ := h
    exact .cons hs.inPlace (ih hrest)

/-- The statements that are marked are those that declare recursive types. -/
theorem eachBecome_marked_cut {stmts : List Stmt} {vs : List Visited} {log : List Inserted}
    {defs : List Definition} (h : eachBecome cx R env d stmts vs log defs) :
    vs.map (·.defers) = (stmts.map (·.cut d)).map fun s => !s.recursiveTypes.isEmpty := by
  induction stmts generalizing vs log defs with
  | nil =>
    obtain ⟨rfl, -, -⟩ := h
    rfl
  | cons s ss ih =>
    obtain ⟨v, vs, _, _, ds, es, rfl, -, rfl, hv, hs, hrest⟩ := h
    rw [List.map_cons, List.map_cons, List.map_cons, hv, ← hs.names, List.isEmpty_map, ih hrest]

theorem eachBecome_names {stmts : List Stmt} {vs : List Visited} {log : List Inserted}
    {defs : List Definition} (h : eachBecome cx R env d stmts vs log defs)
    (hd : Fits d (stmtsNesting stmts)) :
    defs.map (·.name) = stmts.flatMap Stmt.recursiveTypes :=
  (eachBecome_names_cut h).trans (congrArg _ (Stmt.map_cut_of_fits hd))

theorem eachBecome_inPlace {stmts : List Stmt} {vs : List Visited} {log : List Inserted}
    {defs : List Definition} (h : eachBecome cx R env d stmts vs log defs)
    (hd : Fits d (stmtsNesting stmts)) :
    List.Forall₂ (Stmt.InPlace cx.names.runtime) stmts (vs.map (·.stmt)) := by
  have hplace := eachBecome_inPlace_cut h
  rwa [Stmt.map_cut_of_fits hd] at hplace

theorem reduceOption_map_stmt (vs : List Visited) :
    (vs.map (·.stmt)).reduceOption = vs.filterMap (·.stmt) := by
  change (vs.map (·.stmt)).filterMap id = vs.filterMap (·.stmt)
  rw [List.filterMap_map]
  rfl

/-- What a list becomes defines the recursive types of the list. -/
theorem definesTypes_of_eachBecome {stmts : List Stmt} {vs : List Visited} {log : List Inserted}
    {defs : List Definition} (h : eachBecome cx R env d stmts vs log defs)
    (hd : Fits d (stmtsNesting stmts)) :
    DefinesTypes cx.names.runtime stmts
      (withDefinitions (defs.map (·.toStmt cx.names.runtime)) vs) := by
  have hplace := eachBecome_inPlace h hd
  have hnames := eachBecome_names h hd
  have hmarked := eachBecome_marked_cut h
  rw [Stmt.map_cut_of_fits hd] at hmarked
  have hnone : vs.any (·.defers) = false → defs.map (·.toStmt cx.names.runtime) = [] := by
    intro hany
    rw [eachBecome_defers h, Bool.not_eq_false', List.isEmpty_iff] at hany
    rw [hany, List.map_nil]
  obtain ⟨n, hn, hdrop⟩ := withDefinitions_eq hnone
  refine ⟨vs.map (·.stmt), n, defs, ?_, hplace, hnames, fun s hs => ?_⟩
  · rw [hn, ← List.map_take, ← List.map_drop, reduceOption_map_stmt, reduceOption_map_stmt]
  · have hmem : (!s.recursiveTypes.isEmpty) ∈ (vs.drop n).map (·.defers) := by
      rw [List.map_drop, hmarked, ← List.map_drop]
      exact List.mem_map_of_mem hs
    obtain ⟨v, hv, hmark⟩ := List.mem_map.mp hmem
    rw [hdrop v hv, eq_comm, Bool.not_eq_false', List.isEmpty_iff] at hmark
    exact hmark

theorem Demands.defining_met (cx : Setting) : (defining cx.names.runtime).Met cx True where
  list hd heach := definesTypes_of_eachBecome heach (hd trivial)
  wrapped _ := trivial

/-! ### Units -/

namespace Program

/-- In a unit that is visited to its leaves, every recursive type that is not declared in the
operand of a reifying cast is declared in its place and defined once in its list. -/
theorem instrument_defines {options : Options} {p out : Program}
    (hp : p.nesting ≤ Limits.treeDepth) (h : p.instrument options = .ok out) :
    p.Defines options out := by
  have hfits : Fits 0 p.nesting := by rwa [Fits, Nat.zero_add]
  obtain ⟨vs, log, defs, heach, hout⟩ :=
    instrument_becomes (Demands.defining_met (.ofProgram options p)) (fun _ => hfits) h
  exact ⟨vs, log, defs, heach, hout, eachBecome_inPlace heach hfits, eachBecome_names heach hfits⟩

/-- The declaration `type id = ?id;`. -/
def selfReference (id : String) : Stmt :=
  .typeAlias ⟨id, [], .nullable (.generic ⟨.simple id, none⟩), true, .dummy⟩

/-- The unit `type T = ?T; function f() { type U = ?U; x; } x;`. -/
def nestedRecursion : Program :=
  ⟨"nestedRecursion.js",
    [selfReference "T", .function (.declaration "f" [] [selfReference "U", .expr (.ident "x")]),
      .expr (.ident "x")]⟩

theorem nestedRecursion_defines : nestedRecursion.nesting ≤ Limits.treeDepth ∧
    ∃ out, nestedRecursion.instrument .default = .ok out ∧
      nestedRecursion.Defines .default out :=
  have hnesting : nestedRecursion.nesting ≤ Limits.treeDepth := by decide
  have h : nestedRecursion.instrument .default = .ok _ := rfl
  ⟨hnesting, _, h, instrument_defines hnesting h⟩

/-- The unit `(function () { type T = ?T; }: $Reify<X>);`. -/
def reifiedOperand : Program :=
  let reify : StaticType :=
    .generic ⟨.simple "$Reify", some [.generic ⟨.simple "X", none⟩]⟩
  ⟨"reifiedOperand.js",
    [.expr (.cast (.function (.anonymous [selfReference "T"])) reify false .dummy)]⟩

/-- The cast is replaced with the type, and nothing declares or defines the type of the operand. -/
theorem reifiedOperand_dropped : reifiedOperand.nesting ≤ Limits.treeDepth ∧
    [selfReference "T"].flatMap Stmt.recursiveTypes = ["T"] ∧
    reifiedOperand.instrument .default = .ok ⟨"reifiedOperand.js", [.expr (.ident "X")]⟩ :=
  ⟨by decide, rfl, rfl⟩

end Program

end TypeGuard
