import Mathlib.Data.List.ReduceOption
import TypeGuard.Proofs.Recursion

/-!
# The order of definitions

The definitions of a list of statements stand together, in the order of the declarations, right
behind the last statement that declares a recursive type. That is right behind the last type
declaration of the list if this one is recursive. If it is not, some constant of the list is still
uninitialized where the definitions refer to it: `Program.earlyDefinition_unordered`.
-/

namespace TypeGuard

open Visit Instrumentation

/-! ### Declared types -/

namespace Stmt

theorem recursiveTypes_sublist (s : Stmt) : s.recursiveTypes.Sublist s.types := by
  match s with
  | .typeAlias d | .interface d =>
    rw [recursiveTypes]
    split
    · exact .refl _
    · exact List.nil_sublist _
  | .export (some declaration) _ _ _ => exact declaration.recursiveTypes_sublist
  | .ifElse _ consequent (some alternate) =>
    exact consequent.recursiveTypes_sublist.append alternate.recursiveTypes_sublist
  | .ifElse _ consequent none => exact consequent.recursiveTypes_sublist
  | .forLoop _ _ _ body | .forIn _ _ body | .forOf _ _ body _ | .while _ body | .doWhile body _
  | .labeled _ body => exact body.recursiveTypes_sublist
  | .expr _ | .varDecl _ | .function _ | .class _ | .ret _ | .block _ | .throw _ | .tryCatch _ _ _
  | .switch _ _ | .break _ | .continue _ | .empty | .import _ | .export none _ _ _
  | .exportDefault _ => exact .slnil

theorem types_ne_nil_of_type? {s : Stmt} {id : String} (h : s.type? = some id) : s.types ≠ [] := by
  match s, h with
  | .typeAlias d, _ | .interface d, _ => exact List.cons_ne_nil _ _
  | .export (some declaration) _ _ _, h => exact declaration.types_ne_nil_of_type? h

theorem types_ne_nil {s : Stmt} (h : s.recursiveTypes ≠ []) : s.types ≠ [] := by
  intro hnil
  have hsub := s.recursiveTypes_sublist
  rw [hnil, List.sublist_nil] at hsub
  exact h hsub

end Stmt

/-! ### Lists -/

/-- The statements of a list with definitions right behind the first `n` of them. -/
def definedBehind (names : RuntimeNames) (vs : List (Option Stmt)) (defs : List Definition)
    (n : Nat) : List Stmt :=
  (vs.take n).reduceOption ++ defs.map (·.toStmt names) ++ (vs.drop n).reduceOption

/-- What the statements of a list become, and where its definitions stand among them. -/
structure DefinesBehind (names : RuntimeNames) (stmts out : List Stmt) (vs : List (Option Stmt))
    (defs : List Definition) : Prop where
  /-- Each type declaration has become a constant, in its place. -/
  placed : List.Forall₂ Stmt.ConstantInPlace stmts vs
  /-- There is a definition for each recursive type, in the order of the declarations. -/
  names_eq : defs.map (·.name) = stmts.flatMap Stmt.recursiveTypes
  plain : defs = [] → out = vs.reduceOption
  /-- The definitions stand right behind the last recursive declaration. -/
  behind : ∀ i, IsLast (·.recursiveTypes ≠ []) stmts i → out = definedBehind names vs defs (i + 1)
  /-- They stand right behind the last type declaration exactly where this one is recursive. -/
  behind_iff : ∀ i, IsLast (·.types ≠ []) stmts i → defs ≠ [] →
    (out = definedBehind names vs defs (i + 1) ↔ IsLast (·.recursiveTypes ≠ []) stmts i)
  /-- Then all constants of the types of the list stand in front of them. -/
  initialized : ∀ i, IsLast (·.types ≠ []) stmts i → ∀ s ∈ stmts, ∀ id, s.type? = some id →
    ∃ t ∈ (vs.take (i + 1)).reduceOption, t.constant? = some id

/-- A list at the depth `d` puts its definitions in order. Its statements count as far as they are
visited from that depth, and to their leaves if the unit fits the depth limit. -/
def OrdersDefinitions (names : RuntimeNames) (fits : Prop) (d : Nat) (stmts out : List Stmt) :
    Prop :=
  ∃ vs defs, DefinesBehind names (stmts.map (·.cut d)) out vs defs ∧
    (fits → stmts.map (·.cut d) = stmts) ∧ (Limits.treeDepth ≤ d → out = stmts)

/-- Every list of statements within a unit puts its definitions in order. -/
def Demands.ordering (names : RuntimeNames) (fits : Prop) : Demands :=
  ⟨OrdersDefinitions names fits, fun _ _ _ => True⟩

/-- Definitions do not stand at two positions at once if some other statement stands between. -/
theorem definedBehind_ne {names : RuntimeNames} {vs : List (Option Stmt)} {defs : List Definition}
    {n k : Nat} (hdefs : defs ≠ []) {t : Stmt} (ht : some t ∈ (vs.drop n).take k)
    (hexpr : t.isExpr = false) :
    definedBehind names vs defs n ≠ definedBehind names vs defs (n + k) := by
  intro heq
  have hdrop : vs.drop n = (vs.drop n).take k ++ vs.drop (n + k) := by
    rw [← List.drop_drop, List.take_append_drop]
  rw [definedBehind, definedBehind, hdrop, List.take_add, List.reduceOption_append,
    List.reduceOption_append] at heq
  set between := ((vs.drop n).take k).reduceOption
  set ds := defs.map (·.toStmt names) with hds
  have hcomm : ds ++ between = between ++ ds := by
    simp only [List.append_assoc, List.append_cancel_left_eq] at heq
    rw [← List.append_assoc, ← List.append_assoc] at heq
    exact List.append_cancel_right heq
  -- the first statement that is no expression would stand at two positions
  have hds_expr : ds.findIdx (!·.isExpr) = ds.length := by
    rw [List.findIdx_eq_length]
    intro s hs
    obtain ⟨d, -, rfl⟩ := List.mem_map.mp hs
    rfl
  have hlt : between.findIdx (!·.isExpr) < between.length :=
    List.findIdx_lt_length.mpr ⟨t, List.reduceOption_mem_iff.mpr ht, by rw [hexpr]; rfl⟩
  have hidx := congrArg (List.findIdx (!·.isExpr)) hcomm
  rw [List.findIdx_append, List.findIdx_append, hds_expr, if_neg (Nat.lt_irrefl _), if_pos hlt]
    at hidx
  have hlength : ds.length = 0 := by omega
  rw [hds, List.length_map, List.length_eq_zero_iff] at hlength
  exact hdefs hlength

/-! ### Visited lists -/

variable {cx : Setting} {R : Demands} {env : Environment} {d : Nat}

theorem eachBecome_constantInPlace {stmts : List Stmt} {vs : List Visited} {log : List Inserted}
    {defs : List Definition} (h : eachBecome cx R env d stmts vs log defs) :
    List.Forall₂ Stmt.ConstantInPlace (stmts.map (·.cut d)) (vs.map (·.stmt)) := by
  induction stmts generalizing vs log defs with
  | nil =>
    obtain ⟨rfl, -, -⟩ := h
    exact .nil
  | cons s ss ih =>
    obtain ⟨v, vs, _, _, ds, es, rfl, -, rfl, -, hs, hrest⟩ := h
    exact .cons hs.constantInPlace (ih hrest)

/-- The last statement that puts definitions off is the last one that declares a recursive type. -/
theorem eachBecome_isLast_iff {stmts : List Stmt} {vs : List Visited} {log : List Inserted}
    {defs : List Definition} (h : eachBecome cx R env d stmts vs log defs) {i : Nat} :
    IsLast (·.defers = true) vs i ↔
      IsLast (·.recursiveTypes ≠ []) (stmts.map (·.cut d)) i := by
  rw [← isLast_map (f := Visited.defers) (P := (· = true)), eachBecome_marked_cut h, isLast_map]
  simp only [Bool.not_eq_true', List.isEmpty_eq_false_iff]

theorem withDefinitions_isLast {stmts : List Stmt} {vs : List Visited} {log : List Inserted}
    {defs : List Definition} (h : eachBecome cx R env d stmts vs log defs) {i : Nat}
    (hi : IsLast (·.recursiveTypes ≠ []) (stmts.map (·.cut d)) i) :
    withDefinitions (defs.map (·.toStmt cx.names.runtime)) vs =
      definedBehind cx.names.runtime (vs.map (·.stmt)) defs (i + 1) := by
  rw [withDefinitions_behind ((eachBecome_isLast_iff h).mpr hi), definedBehind, ← List.map_take,
    ← List.map_drop, reduceOption_map_stmt, reduceOption_map_stmt]

/-- A list that puts definitions off has a last statement that does so. -/
theorem exists_isLast_recursive {stmts : List Stmt} {vs : List Visited} {log : List Inserted}
    {defs : List Definition} (h : eachBecome cx R env d stmts vs log defs) (hdefs : defs ≠ []) :
    ∃ i, IsLast (·.recursiveTypes ≠ []) (stmts.map (·.cut d)) i := by
  have hany : vs.any (·.defers) = true := by
    rw [eachBecome_defers h, Bool.not_eq_true', List.isEmpty_eq_false_iff]
    exact hdefs
  obtain ⟨i, hi⟩ := exists_isLast (List.any_eq_true.mp hany)
  exact ⟨i, (eachBecome_isLast_iff h).mp hi⟩

/-- The statement at the position of a type declaration is no expression. -/
theorem eachBecome_declaration {stmts : List Stmt} {vs : List Visited} {log : List Inserted}
    {defs : List Definition} (h : eachBecome cx R env d stmts vs log defs) {i : Nat} {s : Stmt}
    (hs : (stmts.map (·.cut d))[i]? = some s) (htypes : s.types ≠ []) :
    ∃ t, (vs.map (·.stmt))[i]? = some (some t) ∧ t.isExpr = false := by
  induction stmts generalizing vs log defs i with
  | nil => cases hs
  | cons s' ss ih =>
    obtain ⟨v, vs, _, _, _, _, rfl, -, -, -, hs', hrest⟩ := h
    cases i with
    | zero =>
      cases hs
      obtain ⟨t, ht, hexpr⟩ := hs'.exists_declaration htypes
      exact ⟨t, congrArg some ht, hexpr⟩
    | succ i => exact ih hrest hs

/-- The constants of the types stand no later than the last type declaration. -/
theorem constants_initialized {stmts : List Stmt} {vs : List (Option Stmt)}
    (hplaced : List.Forall₂ Stmt.ConstantInPlace stmts vs) {i : Nat}
    (hi : IsLast (·.types ≠ []) stmts i) {s : Stmt} (hs : s ∈ stmts) {id : String}
    (hid : s.type? = some id) :
    ∃ t ∈ (vs.take (i + 1)).reduceOption, t.constant? = some id := by
  obtain ⟨k, hk, rfl⟩ := List.mem_iff_getElem.mp hs
  have hle : k ≤ i := hi.le (List.getElem?_eq_getElem hk) (Stmt.types_ne_nil_of_type? hid)
  have hk' : k < vs.length := hplaced.length_eq ▸ hk
  obtain ⟨t, ht, hconstant⟩ := hplaced.get hk hk' id hid
  refine ⟨t, List.reduceOption_mem_iff.mpr ?_, hconstant⟩
  rw [← ht]
  exact List.mem_take_iff_getElem.mpr ⟨k, by omega, rfl⟩

theorem definesBehind_of_eachBecome {stmts : List Stmt} {vs : List Visited} {log : List Inserted}
    {defs : List Definition} (h : eachBecome cx R env d stmts vs log defs) :
    DefinesBehind cx.names.runtime (stmts.map (·.cut d))
      (withDefinitions (defs.map (·.toStmt cx.names.runtime)) vs) (vs.map (·.stmt)) defs where
  placed := eachBecome_constantInPlace h
  names_eq := eachBecome_names_cut h
  plain := by
    rintro rfl
    rw [List.map_nil, withDefinitions_nil, reduceOption_map_stmt]
  behind i hi := withDefinitions_isLast h hi
  behind_iff i hi hdefs := by
    refine ⟨fun heq => ?_, withDefinitions_isLast h⟩
    obtain ⟨j, hj⟩ := exists_isLast_recursive h hdefs
    obtain ⟨s, hs, hrecursive⟩ := hj.1
    have hle : j ≤ i := hi.le hs (Stmt.types_ne_nil hrecursive)
    obtain rfl | hlt := Nat.eq_or_lt_of_le hle
    · exact hj
    · -- the constant of the last declaration stands between the two positions
      obtain ⟨⟨s', hs', htypes⟩, -⟩ := hi
      obtain ⟨t, ht, hexpr⟩ := eachBecome_declaration h hs' htypes
      have hbetween : some t ∈ ((vs.map (·.stmt)).drop (j + 1)).take (i - j) := by
        refine List.mem_of_getElem? (i := i - (j + 1)) ?_
        rw [List.getElem?_take_of_lt (by omega), List.getElem?_drop, Nat.add_sub_cancel' hlt, ht]
      have hposition : j + 1 + (i - j) = i + 1 := by omega
      have hne := @definedBehind_ne cx.names.runtime _ _ _ _ hdefs t hbetween hexpr
      rw [hposition, ← heq, withDefinitions_isLast h hj] at hne
      exact absurd rfl hne
  initialized i hi s hs id hid := constants_initialized (eachBecome_constantInPlace h) hi hs hid

/-- Beyond the depth limit, a list is left as it is. -/
theorem eachBecome_beyond {stmts : List Stmt} {vs : List Visited} {log : List Inserted}
    {defs : List Definition} (h : eachBecome cx R env d stmts vs log defs)
    (hd : Limits.treeDepth ≤ d) : vs.filterMap (·.stmt) = stmts ∧ defs = [] := by
  induction stmts generalizing vs log defs with
  | nil =>
    obtain ⟨rfl, -, rfl⟩ := h
    exact ⟨rfl, rfl⟩
  | cons s ss ih =>
    obtain ⟨v, vs, _, _, ds, es, rfl, -, rfl, -, hs, hrest⟩ := h
    unfold Stmt.Becomes at hs
    obtain ⟨hv, -, rfl⟩ := hs.1 hd
    obtain ⟨hvs, rfl⟩ := ih hrest
    rw [filterMap_cons, hv, hvs]
    exact ⟨rfl, rfl⟩

theorem Demands.ordering_met (cx : Setting) (fits : Prop) :
    (ordering cx.names.runtime fits).Met cx fits where
  list := by
    intro env d stmts vs l defs hd heach
    refine ⟨_, _, definesBehind_of_eachBecome heach, fun hfits => ?_, fun hbeyond => ?_⟩
    · exact Stmt.map_cut_of_fits (hd hfits)
    · obtain ⟨hvs, rfl⟩ := eachBecome_beyond heach hbeyond
      rw [List.map_nil, withDefinitions_nil, hvs]
  wrapped _ := trivial

/-! ### Units -/

namespace Program

/-- In an instrumented unit, the definitions of every list of statements within stand right behind
its last recursive declaration, in the order of the declarations. -/
theorem instrument_orders {options : Options} {p out : Program}
    (h : p.instrument options = .ok out) :
    p.Becomes options (.ordering (Setting.ofProgram options p).names.runtime
      (p.nesting ≤ Limits.treeDepth)) out := by
  refine instrument_becomes (Demands.ordering_met _ _) (fun hfits => ?_) h
  rwa [Fits, Nat.zero_add]

/-- The unit
`function f() { type A = number; type T = ?T; x; export interface I { next: ?I, a: A }
  { type U = ?U; x; } x; }`. -/
def interleavedTypes : Program :=
  let next : StaticType := .nullable (.generic ⟨.simple "I", none⟩)
  let body : ObjectShape :=
    ⟨[⟨"next", next, false⟩, ⟨"a", .generic ⟨.simple "A", none⟩, false⟩], [], false⟩
  ⟨"interleavedTypes.js",
    [.function (.declaration "f" [] [.typeAlias ⟨"A", [], .primitive .number, false, .dummy⟩,
      selfReference "T", .expr (.ident "x"),
      .export (some (.interface ⟨"I", [], [], body, true, .dummy⟩)) [] none .value,
      .block [selfReference "U", .expr (.ident "x")], .expr (.ident "x")])]⟩

theorem interleavedTypes_ordered : ∃ out, interleavedTypes.instrument .default = .ok out ∧
    interleavedTypes.Becomes .default
      (.ordering (Setting.ofProgram .default interleavedTypes).names.runtime
        (interleavedTypes.nesting ≤ Limits.treeDepth)) out :=
  have h : interleavedTypes.instrument .default = .ok _ := rfl
  ⟨_, h, instrument_orders h⟩

/-- The declarations `type T = { next: ?T, value: U }; type U = number;`. -/
def earlyList : List Stmt :=
  let shape : ObjectShape :=
    ⟨[⟨"next", .nullable (.generic ⟨.simple "T", none⟩), false⟩,
      ⟨"value", .generic ⟨.simple "U", none⟩, false⟩], [], false⟩
  [.typeAlias ⟨"T", [], .object shape, true, .dummy⟩,
    .typeAlias ⟨"U", [], .primitive .number, false, .dummy⟩]

/-- A function with these declarations as its body. -/
def earlyDefinition : Program :=
  ⟨"earlyDefinition.js", [.function (.declaration "f" [] earlyList)]⟩

/-- The last type declaration is that of `U`, and the definition of `T`, which reads `U`, stands in
front of the constant. -/
theorem earlyDefinition_unordered :
    earlyList.flatMap Stmt.recursiveTypes = ["T"] ∧ IsLast (·.types ≠ []) earlyList 1 ∧
    earlyDefinition.instrument .default = .ok ⟨"earlyDefinition.js",
      [Support.libraryImport ⟨"_t", "_assert", "_extend"⟩ "tcomb",
        .function (.declaration "f" [] [Definition.declare ⟨"_t", "_extend"⟩ "T" .dummy,
          Definition.toStmt ⟨"_t", "_extend"⟩ ⟨"T",
            .interface [("next", .maybe (.ref ⟨["T"]⟩) none), ("value", .ref ⟨["U"]⟩)] none false⟩,
          .constDecl "U" ((Combinator.builtin .number).toExpr ⟨"_t", "_extend"⟩) .dummy])]⟩ :=
  ⟨rfl, ⟨⟨_, rfl, List.cons_ne_nil _ _⟩, nofun⟩, rfl⟩

end Program

end TypeGuard
