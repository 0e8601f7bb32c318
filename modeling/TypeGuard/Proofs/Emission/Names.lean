import TypeGuard.Binding
import TypeGuard.Proofs.Emission.Relation
import TypeGuard.Syntax.Build

/-!
# Names that visits keep

A visited pattern binds the names of the pattern. A visited statement hoists the names of the
statement out of its blocks, and a visited list declares the functions of the list: no name is added
to them, none is lost, and their order stays.
-/

namespace TypeGuard

open Instrumentation

/-! ### Names of lists -/

theorem append_subset_append {α : Type} {as bs as' bs' : List α} (ha : as ⊆ as') (hb : bs ⊆ bs') :
    as ++ bs ⊆ as' ++ bs' :=
  List.append_subset.mpr
    ⟨List.subset_append_of_subset_left _ ha, List.subset_append_of_subset_right _ hb⟩

theorem varNames_append (ss ts : List Stmt) : varNames (ss ++ ts) = varNames ss ++ varNames ts := by
  induction ss with
  | nil => rfl
  | cons s ss ih => rw [List.cons_append, varNames, varNames, ih, List.append_assoc]

theorem varNames_singleton (s : Stmt) : varNames [s] = s.varNames := List.append_nil _

theorem varNames_definitions (names : RuntimeNames) (defs : List Definition) :
    varNames (defs.map (·.toStmt names)) = [] := by
  induction defs with
  | nil => rfl
  | cons x defs ih => exact ih

theorem orEmptyBlock_varNames (s : Option Stmt) :
    (orEmptyBlock s).varNames = varNames s.toList := by
  cases s with
  | none => rfl
  | some s => exact (varNames_singleton s).symm

/-- What is read off the parts of a list does not see definitions of which nothing is read off. -/
theorem Instrumentation.withDefinitions_read {β : Type} {f : List Stmt → List β}
    (happend : ∀ ss ts, f (ss ++ ts) = f ss ++ f ts) {ds : List Stmt} (hds : f ds = [])
    (vs : List Visited) : f (withDefinitions ds vs) = f (vs.filterMap (·.stmt)) := by
  induction vs with
  | nil => rfl
  | cons v vs ih =>
    rw [withDefinitions, filterMap_cons, happend, happend]
    split
    · rw [happend, hds, List.nil_append]
    · rw [ih]

variable {cx : Setting} {R : Demands}

/-! ### Patterns -/

mutual
theorem Pattern.Becomes.boundNames_eq {env : Environment} {d : Nat} {p out : Pattern}
    {log : List Inserted} (h : p.Becomes cx R env d out log) : out.boundNames = p.boundNames := by
  match p, h with
  | .ident _, h =>
    obtain ⟨rfl, -⟩ := h
    rfl
  | .object _, h =>
    obtain ⟨_, rfl, hprops⟩ := h
    exact patternPropsBecome_boundNames hprops
  | .array _, h =>
    obtain ⟨_, rfl, helems⟩ := h
    exact patternsBecome_boundNames helems
  | .default _ _, h =>
    obtain ⟨_, _, _, _, rfl, -, hleft, -⟩ := h
    exact hleft.boundNames_eq
  | .rest _, h =>
    obtain ⟨_, rfl, hinner⟩ := h
    exact hinner.boundNames_eq

theorem patternPropsBecome_boundNames {env : Environment} {d : Nat} {ps out : List PatternProp}
    {log : List Inserted} (h : patternPropsBecome cx R env d ps out log) :
    boundByProps out = boundByProps ps := by
  match ps, h with
  | [], h =>
    obtain ⟨rfl, -⟩ := h
    rfl
  | .keyValue _ _ _ :: _, h =>
    obtain ⟨_, _, _, _, rfl, -, ⟨_, _, _, _, rfl, -, -, hp⟩, hps⟩ := h
    rw [boundByProps, boundByProps, hp.boundNames_eq, patternPropsBecome_boundNames hps]
  | .rest _ :: _, h =>
    obtain ⟨_, _, _, _, rfl, -, ⟨_, rfl, hp⟩, hps⟩ := h
    rw [boundByProps, boundByProps, hp.boundNames_eq, patternPropsBecome_boundNames hps]

theorem patternsBecome_boundNames {env : Environment} {d : Nat} {ps out : List (Option Pattern)}
    {log : List Inserted} (h : patternsBecome cx R env d ps out log) :
    boundByElems out = boundByElems ps := by
  match ps, h with
  | [], h =>
    obtain ⟨rfl, -⟩ := h
    rfl
  | some _ :: _, h =>
    obtain ⟨_, _, _, _, rfl, -, hp, hps⟩ := h
    rw [boundByElems, boundByElems, hp.boundNames_eq, patternsBecome_boundNames hps]
  | none :: _, h =>
    obtain ⟨_, rfl, hps⟩ := h
    rw [boundByElems, boundByElems, patternsBecome_boundNames hps]
end

/-! ### Declarations -/

theorem declaratorsBecome_boundNames {env : Environment} {d : Nat} {ds out : List Declarator}
    {log : List Inserted} (h : declaratorsBecome cx R env d ds out log) :
    out.flatMap (·.id.boundNames) = ds.flatMap (·.id.boundNames) := by
  induction ds generalizing out log with
  | nil =>
    obtain ⟨rfl, -⟩ := h
    rfl
  | cons x ds ih =>
    obtain ⟨id, type, init, span⟩ := x
    obtain ⟨_, _, _, _, _, _, _, _, rfl, -, -, hid, -, hds⟩ := h
    rw [List.flatMap_cons, List.flatMap_cons, ih hds, hid.boundNames_eq]

theorem VarDecl.Becomes.boundNames_eq {env : Environment} {d : Nat} {decl out : VarDecl}
    {log : List Inserted} (h : decl.Becomes cx R env d out log) :
    out.boundNames = decl.boundNames := by
  obtain ⟨kind, declarators, span⟩ := decl
  obtain ⟨_, rfl, hds⟩ := h
  exact declaratorsBecome_boundNames hds

theorem VarDecl.Becomes.hoistedNames_eq {env : Environment} {d : Nat} {decl out : VarDecl}
    {log : List Inserted} (h : decl.Becomes cx R env d out log) :
    out.hoistedNames = decl.hoistedNames := by
  have hbound := h.boundNames_eq
  obtain ⟨kind, declarators, span⟩ := decl
  obtain ⟨_, rfl, -⟩ := h
  rw [VarDecl.hoistedNames, VarDecl.hoistedNames, hbound]

theorem ForInit.Becomes.hoistedNames_eq {env : Environment} {d : Nat} {i out : ForInit}
    {log : List Inserted} (h : i.Becomes cx R env d out log) :
    out.hoistedNames = i.hoistedNames := by
  cases i with
  | varDecl decl =>
    obtain ⟨_, rfl, hdecl⟩ := h
    exact hdecl.hoistedNames_eq
  | expr value =>
    obtain ⟨_, rfl, -⟩ := h
    rfl

theorem ForHead.Becomes.hoistedNames_eq {env : Environment} {d : Nat} {head out : ForHead}
    {log : List Inserted} (h : head.Becomes cx R env d out log) :
    out.hoistedNames = head.hoistedNames := by
  cases head with
  | varDecl decl =>
    obtain ⟨_, rfl, hdecl⟩ := h
    exact hdecl.hoistedNames_eq
  | target target =>
    obtain ⟨_, rfl, -⟩ := h
    rfl

/-! ### Hoisted names -/

def handlerVarNames : Option CatchClause → List String
  | some ⟨_, body⟩ => varNames body
  | none => []

def finalizerVarNames : Option (List Stmt) → List String
  | some stmts => varNames stmts
  | none => []

theorem Stmt.varNames_tryCatch (stmts : List Stmt) (handler : Option CatchClause)
    (finalizer : Option (List Stmt)) : (Stmt.tryCatch stmts handler finalizer).varNames =
      TypeGuard.varNames stmts ++ handlerVarNames handler ++ finalizerVarNames finalizer := by
  obtain _ | ⟨param, body⟩ := handler <;> cases finalizer <;> rfl

/-- The definitions in a list hoist nothing. -/
theorem ListBecomes.varNames_eq {d : Nat} {stmts out : List Stmt} {log : List Inserted}
    {each : List Visited → List Inserted → List Definition → Prop}
    (h : ListBecomes cx R d stmts each out log)
    (heach : ∀ vs l defs, each vs l defs → varNames (vs.filterMap (·.stmt)) = varNames stmts) :
    varNames out = varNames stmts := by
  obtain ⟨vs, l, defs, hvs, rfl, -, -⟩ := h
  rw [withDefinitions_read varNames_append (varNames_definitions _ defs), heach vs l defs hvs]

theorem TypeDeclared.varNames_eq {recursive : Bool} {span : Span} {id : String}
    {check : Combinator} {out : Option Stmt} {log : List Inserted} {defs : List Definition}
    (h : TypeDeclared cx recursive span id check out log defs) : varNames out.toList = [] := by
  cases recursive <;> obtain ⟨rfl, -⟩ := h <;> rfl

mutual
theorem Stmt.Becomes.varNames_eq {env : Environment} {d : Nat} {s : Stmt} {out : Option Stmt}
    {log : List Inserted} {defs : List Definition} (h : s.Becomes cx R env d out log defs) :
    TypeGuard.varNames out.toList = s.varNames := by
  unfold Stmt.Becomes at h
  rcases h.cases with ⟨rfl, -, -⟩ | h
  · exact varNames_singleton s
  match s, h with
  | .varDecl _, h =>
    obtain ⟨_, rfl, -, hdecl⟩ := h
    exact (varNames_singleton _).trans hdecl.hoistedNames_eq
  | .ifElse _ _ (some _), h =>
    obtain ⟨_, _, _, _, _, _, _, _, rfl, -, -, -, hthen, _, rfl, helse⟩ := h
    simp only [Option.toList_some, varNames_singleton, Stmt.varNames, orEmptyBlock_varNames,
      hthen.varNames_eq, helse.varNames_eq]
  | .ifElse _ _ none, h =>
    obtain ⟨_, _, _, _, _, _, _, _, rfl, -, -, -, hthen, rfl, -, -⟩ := h
    simp only [Option.toList_some, varNames_singleton, Stmt.varNames, orEmptyBlock_varNames,
      hthen.varNames_eq]
  | .block _, h =>
    obtain ⟨_, rfl, -, hlist⟩ := h
    exact (varNames_singleton _).trans (hlist.varNames_eq fun _ _ _ hvs => eachBecome_varNames hvs)
  | .forLoop (some _) _ _ _, h =>
    obtain ⟨_, _, _, _, _, _, _, _, rfl, -, ⟨_, rfl, hinit⟩, -, -, hbody⟩ := h
    simp only [Option.toList_some, varNames_singleton, Stmt.varNames, orEmptyBlock_varNames,
      hinit.hoistedNames_eq, hbody.varNames_eq]
  | .forLoop none _ _ _, h =>
    obtain ⟨_, _, _, _, _, _, _, _, rfl, -, ⟨rfl, -⟩, -, -, hbody⟩ := h
    simp only [Option.toList_some, varNames_singleton, Stmt.varNames, orEmptyBlock_varNames,
      hbody.varNames_eq]
  | .forIn _ _ _, h =>
    obtain ⟨_, _, _, _, _, _, rfl, -, -, hleft, hbody⟩ := h
    simp only [Option.toList_some, varNames_singleton, Stmt.varNames, orEmptyBlock_varNames,
      hleft.hoistedNames_eq, hbody.varNames_eq]
  | .forOf _ _ _ _, h =>
    obtain ⟨_, _, _, _, _, _, rfl, -, -, hleft, hbody⟩ := h
    simp only [Option.toList_some, varNames_singleton, Stmt.varNames, orEmptyBlock_varNames,
      hleft.hoistedNames_eq, hbody.varNames_eq]
  | .while _ _, h =>
    obtain ⟨_, _, _, _, rfl, -, -, hbody⟩ := h
    simp only [Option.toList_some, varNames_singleton, Stmt.varNames, orEmptyBlock_varNames,
      hbody.varNames_eq]
  | .doWhile _ _, h =>
    obtain ⟨_, _, _, _, rfl, -, hbody, -⟩ := h
    simp only [Option.toList_some, varNames_singleton, Stmt.varNames, orEmptyBlock_varNames,
      hbody.varNames_eq]
  | .labeled _ _, h =>
    obtain ⟨_, rfl, hbody⟩ := h
    simp only [Option.toList_some, varNames_singleton, Stmt.varNames, orEmptyBlock_varNames,
      hbody.varNames_eq]
  | .tryCatch _ handler finalizer, h =>
    obtain ⟨_, _, _, _, _, _, rfl, -, -, hlist, hhandler, hfinalizer⟩ := h
    have hstmts := hlist.varNames_eq fun _ _ _ hvs => eachBecome_varNames hvs
    simp only [Option.toList_some, varNames_singleton, Stmt.varNames_tryCatch, hstmts,
      handlerBecomes_varNames hhandler, finalizerBecomes_varNames hfinalizer]
  | .switch _ _, h =>
    obtain ⟨_, _, _, _, rfl, -, -, -, hcases⟩ := h
    exact (varNames_singleton _).trans (casesBecome_varNames hcases)
  | .export (some _) _ _ _, h =>
    obtain ⟨f, rfl, hdecl⟩ := h
    have hnames := hdecl.varNames_eq
    cases f with
    | none => exact hnames
    | some f =>
      rw [Option.toList_some, varNames_singleton] at hnames
      simp only [Option.map_some, Option.toList_some, varNames_singleton, Stmt.varNames, hnames]
  | .typeAlias _, h =>
    obtain ⟨_, -, hdecl⟩ := h
    exact hdecl.varNames_eq
  | .interface _, h =>
    obtain ⟨_, -, hdecl⟩ := h
    exact hdecl.varNames_eq
  | .import decl, h =>
    obtain ⟨rfl, -, -⟩ := h
    cases decl.toValue? <;> rfl
  | .expr _, h | .function _, h | .class _, h | .ret _, h | .throw _, h | .exportDefault _, h =>
    obtain ⟨_, rfl, -, -⟩ := h
    rfl
  | .break _, h | .continue _, h | .empty, h | .export none _ _ _, h =>
    obtain ⟨rfl, -, -⟩ := h
    rfl
termination_by structural s

theorem eachBecome_varNames {env : Environment} {d : Nat} {ss : List Stmt} {vs : List Visited}
    {log : List Inserted} {defs : List Definition} (h : eachBecome cx R env d ss vs log defs) :
    varNames (vs.filterMap (·.stmt)) = varNames ss := by
  match ss, h with
  | [], h =>
    obtain ⟨rfl, -, -⟩ := h
    rfl
  | _ :: _, h =>
    obtain ⟨v, vs, _, _, _, _, rfl, -, -, -, hs, hrest⟩ := h
    rw [filterMap_cons, varNames_append, hs.varNames_eq, eachBecome_varNames hrest, varNames]
termination_by structural ss

theorem handlerBecomes_varNames {env : Environment} {d : Nat} {handler out : Option CatchClause}
    {log : List Inserted} (h : handlerBecomes cx R env d handler out log) :
    handlerVarNames out = handlerVarNames handler := by
  match handler, h with
  | some ⟨some _, _⟩, h =>
    obtain ⟨_, _, _, _, rfl, -, -, hlist⟩ := h
    exact hlist.varNames_eq fun _ _ _ hvs => eachBecome_varNames hvs
  | some ⟨none, _⟩, h =>
    obtain ⟨_, rfl, hlist⟩ := h
    exact hlist.varNames_eq fun _ _ _ hvs => eachBecome_varNames hvs
  | none, h =>
    obtain ⟨rfl, -⟩ := h
    rfl
termination_by structural handler

theorem finalizerBecomes_varNames {env : Environment} {d : Nat}
    {finalizer out : Option (List Stmt)} {log : List Inserted}
    (h : finalizerBecomes cx R env d finalizer out log) :
    finalizerVarNames out = finalizerVarNames finalizer := by
  match finalizer, h with
  | some _, h =>
    obtain ⟨_, rfl, hlist⟩ := h
    exact hlist.varNames_eq fun _ _ _ hvs => eachBecome_varNames hvs
  | none, h =>
    obtain ⟨rfl, -⟩ := h
    rfl
termination_by structural finalizer

theorem casesBecome_varNames {env : Environment} {d : Nat} {cs out : List SwitchCase}
    {log : List Inserted} (h : casesBecome cx R env d cs out log) :
    caseVarNames out = caseVarNames cs := by
  match cs, h with
  | [], h =>
    obtain ⟨rfl, -⟩ := h
    rfl
  | ⟨_, _⟩ :: _, h =>
    obtain ⟨_, _, _, _, _, _, rfl, -, -, hlist, hrest⟩ := h
    rw [caseVarNames, caseVarNames, casesBecome_varNames hrest,
      hlist.varNames_eq fun _ _ _ hvs => eachBecome_varNames hvs]
termination_by structural cs
end

/-! ### Declared names -/

namespace Stmt

/-- The function that a statement declares, exported or not. -/
def functionNames : Stmt → List String
  | .function func => func.id.toList
  | .export (some declaration) _ _ _ => declaration.functionNames
  | _ => []

/-- The names that a statement declares for the list around it, exported or not. -/
def ownNames : Stmt → List String
  | .varDecl decl => decl.boundNames
  | .function func => func.id.toList
  | .class decl => decl.id.toList
  | .typeAlias decl => [decl.id]
  | .interface decl => [decl.id]
  | .import decl => decl.specifiers.map ImportSpecifier.localName
  | .export (some declaration) _ _ _ => declaration.ownNames
  | _ => []

/-- What may stand in the place of a statement, as far as it declares anything. -/
inductive Declares : Stmt → Option Stmt → Prop where
  | same (s : Stmt) : Declares s (some s)
  | nothing {s t : Stmt} : s.functionNames = [] → t.functionNames = [] → t.ownNames = [] →
    Declares s (some t)
  | varDecl {decl out : VarDecl} : out.boundNames = decl.boundNames →
    Declares (.varDecl decl) (some (.varDecl out))
  | function {func out : Function} : out.id = func.id →
    Declares (.function func) (some (.function out))
  | classDecl {decl out : Class} : out.id = decl.id → Declares (.class decl) (some (.class out))
  /-- The constant for a declared type. -/
  | type {s : Stmt} {id : String} (init : Expr) (span : Span) : s.ownNames = [id] →
    s.functionNames = [] → Declares s (some (.constDecl id init span))
  | imported (decl : ImportDecl) : Declares (.import decl) (decl.toValue?.map .import)
  | exported {s : Stmt} {out : Option Stmt} (specifiers : List ExportSpecifier)
    (source : Option String) (kind : ImportKind) : Declares s out →
    Declares (.export (some s) specifiers source kind)
      (out.map fun f => .export (some f) specifiers source .value)

end Stmt

theorem Function.Becomes.id_eq {env : Environment} {d : Nat} {func out : Function}
    {log : List Inserted} (h : func.Becomes cx R env d out log) : out.id = func.id := by
  obtain ⟨id, params, body, returnType, typeParams, isAsync, isArrow, isGenerator, span⟩ := func
  obtain ⟨_, _, _, _, _, _, _, rfl, -⟩ := h
  rfl

theorem Class.Becomes.id_eq {env : Environment} {d : Nat} {decl out : Class}
    {log : List Inserted} (h : decl.Becomes cx R env d out log) : out.id = decl.id := by
  obtain ⟨id, superClass, typeParams, body, span⟩ := decl
  obtain ⟨_, _, _, _, rfl, -⟩ := h
  rfl

theorem TypeDeclared.declares {recursive : Bool} {span : Span} {id : String} {check : Combinator}
    {out : Option Stmt} {log : List Inserted} {defs : List Definition} {s : Stmt}
    (h : TypeDeclared cx recursive span id check out log defs) (hown : s.ownNames = [id])
    (hfunction : s.functionNames = []) : s.Declares out := by
  cases recursive <;> obtain ⟨rfl, -⟩ := h <;> exact .type _ span hown hfunction

/-- A visited statement declares what the statement declares. -/
theorem Stmt.Becomes.declares {env : Environment} {d : Nat} {s : Stmt} {out : Option Stmt}
    {log : List Inserted} {defs : List Definition} (h : s.Becomes cx R env d out log defs) :
    s.Declares out := by
  unfold Stmt.Becomes at h
  rcases h.cases with ⟨rfl, -, -⟩ | h
  · exact .same s
  match s, h with
  | .varDecl _, h =>
    obtain ⟨_, rfl, -, hdecl⟩ := h
    exact .varDecl hdecl.boundNames_eq
  | .function _, h =>
    obtain ⟨_, rfl, -, hfunc⟩ := h
    exact .function hfunc.id_eq
  | .class _, h =>
    obtain ⟨_, rfl, -, hdecl⟩ := h
    exact .classDecl hdecl.id_eq
  | .typeAlias _, h | .interface _, h =>
    obtain ⟨_, -, hdecl⟩ := h
    exact hdecl.declares rfl rfl
  | .import decl, h =>
    obtain ⟨rfl, -, -⟩ := h
    exact .imported decl
  | .export (some _) specifiers source kind, h =>
    obtain ⟨_, rfl, hf⟩ := h
    exact .exported specifiers source kind hf.declares
  | .expr _, h | .ret _, h | .block _, h | .throw _, h | .exportDefault _, h | .labeled _ _, h =>
    obtain ⟨_, rfl, -⟩ := h
    exact .nothing rfl rfl rfl
  | .while _ _, h | .doWhile _ _, h | .switch _ _, h =>
    obtain ⟨_, _, _, _, rfl, -⟩ := h
    exact .nothing rfl rfl rfl
  | .forIn _ _ _, h | .forOf _ _ _ _, h | .tryCatch _ _ _, h =>
    obtain ⟨_, _, _, _, _, _, rfl, -⟩ := h
    exact .nothing rfl rfl rfl
  | .ifElse _ _ _, h | .forLoop _ _ _ _, h =>
    obtain ⟨_, _, _, _, _, _, _, _, rfl, -⟩ := h
    exact .nothing rfl rfl rfl
  | .break _, h | .continue _, h | .empty, h | .export none _ _ _, h =>
    obtain ⟨rfl, -, -⟩ := h
    exact .nothing rfl rfl rfl

/-- An import of values imports nothing that the import does not. -/
theorem ImportDecl.toValue?_localNames {decl value : ImportDecl} (h : decl.toValue? = some value) :
    value.specifiers.map ImportSpecifier.localName ⊆
      decl.specifiers.map ImportSpecifier.localName := by
  have hlocal (s : ImportSpecifier) : s.toValue.localName = s.localName := by cases s <;> rfl
  unfold ImportDecl.toValue? at h
  split at h
  · cases h
  · dsimp only at h
    split at h
    · cases h
    · cases h
      rw [List.map_map, show ImportSpecifier.localName ∘ ImportSpecifier.toValue =
        ImportSpecifier.localName from funext hlocal]
      exact (List.filter_sublist.map _).subset

namespace Stmt.Declares

variable {s : Stmt} {out : Option Stmt}

theorem functionNames_eq (h : s.Declares out) :
    out.toList.flatMap Stmt.functionNames = s.functionNames := by
  induction h with
  | same s => exact List.append_nil _
  | nothing hs ht _ => exact (List.append_nil _).trans (ht.trans hs.symm)
  | varDecl _ => rfl
  | function hid => exact (List.append_nil _).trans (congrArg Option.toList hid)
  | classDecl _ => rfl
  | type _ _ _ hfunction => exact hfunction.symm
  | imported decl => cases decl.toValue? <;> rfl
  | @exported _ out _ _ _ _ ih => cases out <;> exact ih

theorem ownNames_subset (h : s.Declares out) :
    out.toList.flatMap Stmt.ownNames ⊆ s.ownNames := by
  induction h with
  | same s => simp
  | nothing _ _ ht => simp [ht]
  | varDecl hbound => simp [Stmt.ownNames, hbound]
  | function hid | classDecl hid => simp [Stmt.ownNames, hid]
  | type _ _ hown _ => exact hown ▸ List.Subset.refl _
  | imported decl =>
    cases hvalue : decl.toValue? with
    | none => exact List.nil_subset _
    | some value => simpa [Stmt.ownNames] using ImportDecl.toValue?_localNames hvalue
  | @exported _ out _ _ _ _ ih =>
    cases out with
    | none => exact List.nil_subset _
    | some f => simpa [Stmt.ownNames] using ih

end Stmt.Declares

theorem eachBecome_functionNames {env : Environment} {d : Nat} {ss : List Stmt}
    {vs : List Visited} {log : List Inserted} {defs : List Definition}
    (h : eachBecome cx R env d ss vs log defs) :
    (vs.filterMap (·.stmt)).flatMap Stmt.functionNames = ss.flatMap Stmt.functionNames := by
  induction ss generalizing vs log defs with
  | nil =>
    obtain ⟨rfl, -, -⟩ := h
    rfl
  | cons s ss ih =>
    obtain ⟨v, vs, _, _, _, _, rfl, -, -, -, hs, hrest⟩ := h
    rw [filterMap_cons, List.flatMap_append, hs.declares.functionNames_eq, ih hrest,
      List.flatMap_cons]

theorem eachBecome_ownNames {env : Environment} {d : Nat} {ss : List Stmt}
    {vs : List Visited} {log : List Inserted} {defs : List Definition}
    (h : eachBecome cx R env d ss vs log defs) :
    (vs.filterMap (·.stmt)).flatMap Stmt.ownNames ⊆ ss.flatMap Stmt.ownNames := by
  induction ss generalizing vs log defs with
  | nil =>
    obtain ⟨rfl, -, -⟩ := h
    exact List.Subset.refl _
  | cons s ss ih =>
    obtain ⟨v, vs, _, _, _, _, rfl, -, -, -, hs, hrest⟩ := h
    rw [filterMap_cons, List.flatMap_append, List.flatMap_cons]
    exact append_subset_append hs.declares.ownNames_subset (ih hrest)

end TypeGuard
