import TypeGuard.Proofs.FreshName
import TypeGuard.Proofs.Occurrence
import TypeGuard.UnitNames

/-!
# Generated names and the names of a unit

The search for mentioned names finds every occurrence that it does not overlook, so the generated
names of a unit are none of those that occur in it, unless they are overlooked.
-/

namespace TypeGuard

/-! ### What the search finds -/

/-- The names are those at the occurrences that are not overlooked. -/
def Finds (os : List Occurrence) (names : List String) : Prop :=
  (os.filter fun o => !o.overlooked).map (·.name) = names

namespace Finds

variable {os os' : List Occurrence} {names names' : List String}

theorem nil : Finds [] [] := rfl

theorem append (h : Finds os names) (h' : Finds os' names') :
    Finds (os ++ os') (names ++ names') := by
  rw [Finds] at h h' ⊢
  rw [List.filter_append, List.map_append, h, h']

theorem cons (name : String) (h : Finds os names) : Finds (.seen name :: os) (name :: names) :=
  congrArg (name :: ·) h

theorem map {α : Type} (f : α → String) (as : List α) :
    Finds (as.map fun a => .seen (f a)) (as.map f) := by
  induction as with
  | nil => exact .nil
  | cons a as ih => exact ih.cons (f a)

theorem ofNames (names : List String) : Finds (names.map .seen) names := by
  simpa using map id names

theorem flatMap {α : Type} {f : α → List Occurrence} {g : α → List String}
    (h : ∀ a, Finds (f a) (g a)) (as : List α) : Finds (as.flatMap f) (as.flatMap g) := by
  induction as with
  | nil => exact .nil
  | cons a as ih => exact (h a).append ih

theorem overlook (os : List Occurrence) : Finds (overlook os) [] := by
  simp [Finds, TypeGuard.overlook, List.filter_map, Function.comp_def]

/-- Occurrences that are left out after others. -/
theorem skip (h : Finds os names) : Finds (os ++ TypeGuard.overlook os') names := by
  simpa using h.append (overlook os')

/-- Occurrences that are left out before others. -/
theorem behind (h : Finds os names) : Finds (TypeGuard.overlook os' ++ os) names :=
  (overlook os').append h

end Finds

mutual
/-- The search finds the names at the occurrences in a type that it does not overlook. -/
theorem StaticType.finds (type : StaticType) : Finds type.occurrences type.mentions := by
  match type with
  | .generic ref => exact ref.finds
  | .typeof name => exact .ofNames name.leading
  | .list elem => exact elem.finds
  | .nullable inner => exact inner.finds
  | .tuple elems => exact typesFind elems
  | .union members => exact typesFind members
  | .intersection members => exact typesFind members
  | .object shape => exact shape.finds
  | .function shape => exact shape.finds
  | .primitive _ | .existential | .literal _ | .unsupported _ => exact .nil

theorem typesFind (ts : List StaticType) : Finds (typesOccur ts) (typesMention ts) := by
  match ts with
  | [] => exact .nil
  | t :: ts => exact t.finds.append (typesFind ts)

theorem GenericRef.finds (ref : GenericRef) : Finds ref.occurrences ref.mentions := by
  match ref with
  | ⟨name, some args⟩ => exact (Finds.ofNames name.leading).append (typesFind args)
  | ⟨name, none⟩ => exact .ofNames name.leading

theorem ObjectShape.finds (shape : ObjectShape) : Finds shape.occurrences shape.mentions := by
  match shape with
  | ⟨properties, indexers, _⟩ => exact (propertiesFind properties).append (indexersFind indexers)

theorem propertiesFind (ps : List ObjectProperty) :
    Finds (propertiesOccur ps) (propertiesMention ps) := by
  match ps with
  | [] => exact .nil
  | ⟨_, value, _⟩ :: ps => exact value.finds.append (propertiesFind ps)

theorem indexersFind (is : List ObjectIndexer) : Finds (indexersOccur is) (indexersMention is) := by
  match is with
  | [] => exact .nil
  | ⟨_, key, value⟩ :: is => exact (key.finds.append value.finds).append (indexersFind is)

theorem FunctionShape.finds (shape : FunctionShape) : Finds shape.occurrences shape.mentions := by
  match shape with
  | ⟨params, _, returnType⟩ => exact (functionParamsFind params).skip.append returnType.finds

theorem functionParamsFind (ps : List FunctionTypeParam) :
    Finds (functionParamsOccur ps) (typeParamsMention ps) := by
  match ps with
  | [] => exact .nil
  | ⟨_, type, _⟩ :: ps => exact type.finds.append (functionParamsFind ps)
end

theorem optTypeFinds (type : Option StaticType) :
    Finds (optTypeOccurrences type) (optTypeMentions type) := by
  cases type with
  | some type => exact type.finds
  | none => exact .nil

theorem TypeAlias.finds (d : TypeAlias) :
    Finds d.occurrences d.mentions :=
  d.right.finds.behind.cons d.id

theorem InterfaceDecl.finds (d : InterfaceDecl) : Finds d.occurrences d.mentions := by
  have hparents := Finds.flatMap GenericRef.finds d.parents
  exact ((hparents.behind.append (propertiesFind d.body.properties)).skip).cons d.id

mutual
/-- The search finds the names at the occurrences in an expression that it does not overlook. -/
theorem Expr.finds (e : Expr) : Finds e.occurrences e.mentions := by
  match e with
  | .ident name => exact .cons name .nil
  | .this | .super | .null | .bool _ | .num _ | .str _ | .regex _ _ => exact .nil
  | .template _ exprs => exact exprsFind exprs
  | .taggedTemplate tag _ exprs => exact tag.finds.append (exprsFind exprs)
  | .array elems => exact elemsFind elems
  | .object props => exact objectPropsFind props
  | .function func => exact func.finds
  | .class decl => exact decl.finds
  | .member obj _ => exact obj.finds
  | .index obj _ => exact obj.finds.skip
  | .call callee args => exact callee.finds.append (exprsFind args)
  | .new callee args => exact callee.finds.append (exprsFind args)
  | .unary _ arg => exact arg.finds
  | .update _ _ arg => exact arg.finds
  | .binary _ left right => exact left.finds.append right.finds
  | .conditional test consequent alternate =>
    exact (test.finds.append consequent.finds).append alternate.finds
  | .assign _ target value _ => exact target.finds.append value.finds
  | .seq exprs => exact exprsFind exprs
  | .spread arg => exact arg.finds
  | .await arg => exact arg.finds
  | .yield arg _ => exact optExprFinds arg
  | .paren inner => exact inner.finds
  | .cast inner type _ _ => exact inner.finds.append type.finds

theorem exprsFind (es : List Expr) : Finds (exprsOccur es) (exprsMention es) := by
  match es with
  | [] => exact .nil
  | e :: es => exact e.finds.append (exprsFind es)

theorem optExprFinds (e : Option Expr) : Finds (optExprOccurrences e) (optExprMentions e) := by
  match e with
  | some e => exact e.finds
  | none => exact .nil

theorem elemsFind (es : List (Option Expr)) : Finds (elemsOccur es) (elemsMention es) := by
  match es with
  | [] => exact .nil
  | some e :: es => exact e.finds.append (elemsFind es)
  | none :: es => exact elemsFind es

theorem PropKey.finds (key : PropKey) : Finds key.occurrences key.mentions := by
  match key with
  | .computed e => exact e.finds
  | .ident _ | .str _ | .num _ => exact .nil

theorem objectPropsFind (ps : List ObjectProp) :
    Finds (objectPropsOccur ps) (objectPropsMention ps) := by
  match ps with
  | [] => exact .nil
  | .keyValue key value _ :: ps => exact (key.finds.append value.finds).append (objectPropsFind ps)
  | .method key func :: ps => exact (key.finds.append func.finds).append (objectPropsFind ps)
  | .spread arg :: ps => exact arg.finds.append (objectPropsFind ps)

theorem AssignTarget.finds (target : AssignTarget) : Finds target.occurrences target.mentions := by
  match target with
  | .pattern p => exact p.finds
  | .expr e => exact e.finds

theorem Pattern.finds (p : Pattern) : Finds p.occurrences p.mentions := by
  match p with
  | .ident name => exact .cons name .nil
  | .object props => exact patternPropsFind props
  | .array elems => exact patternsFind elems
  | .default left right => exact left.finds.append right.finds
  | .rest inner => exact inner.finds

theorem patternsFind (ps : List (Option Pattern)) :
    Finds (patternsOccur ps) (patternsMention ps) := by
  match ps with
  | [] => exact .nil
  | some p :: ps => exact p.finds.append (patternsFind ps)
  | none :: ps => exact patternsFind ps

theorem patternPropsFind (ps : List PatternProp) :
    Finds (patternPropsOccur ps) (patternPropsMention ps) := by
  match ps with
  | [] => exact .nil
  | .keyValue key value _ :: ps => exact (key.finds.append value.finds).append (patternPropsFind ps)
  | .rest inner :: ps => exact inner.finds.append (patternPropsFind ps)

theorem paramsFind (ps : List Param) : Finds (paramsOccur ps) (paramsMention ps) := by
  match ps with
  | [] => exact .nil
  | ⟨pattern, type, _⟩ :: ps =>
    exact (pattern.finds.append (optTypeFinds type)).append (paramsFind ps)

theorem FunctionBody.finds (body : FunctionBody) : Finds body.occurrences body.mentions := by
  match body with
  | .block stmts => exact stmtsFind stmts
  | .expr value => exact value.finds

theorem Function.finds (func : Function) : Finds func.occurrences func.mentions := by
  match func with
  | ⟨id, params, body, returnType, _, _, _, _, _⟩ =>
    exact (((Finds.ofNames id.toList).skip.append (paramsFind params)).append (optTypeFinds
      returnType)).append body.finds

theorem Class.finds (decl : Class) : Finds decl.occurrences decl.mentions := by
  match decl with
  | ⟨id, superClass, _, body, _⟩ =>
    exact ((Finds.ofNames id.toList).skip.append (optExprFinds superClass)).append (membersFind
      body)

theorem membersFind (ms : List ClassMember) : Finds (membersOccur ms) (membersMention ms) := by
  match ms with
  | [] => exact .nil
  | .method key _ _ func :: ms => exact (key.finds.append func.finds).append (membersFind ms)
  | .property key _ value _ :: ms =>
    exact (key.finds.append (optExprFinds value)).append (membersFind ms)

theorem VarDecl.finds (decl : VarDecl) : Finds decl.occurrences decl.mentions := by
  match decl with
  | ⟨_, declarators, _⟩ => exact declaratorsFind declarators

theorem declaratorsFind (ds : List Declarator) :
    Finds (declaratorsOccur ds) (declaratorsMention ds) := by
  match ds with
  | [] => exact .nil
  | ⟨id, type, init, _⟩ :: ds =>
    exact ((id.finds.append (optTypeFinds type)).append (optExprFinds init)).append (declaratorsFind
      ds)

theorem ForInit.finds (i : ForInit) : Finds i.occurrences i.mentions := by
  match i with
  | .varDecl decl => exact decl.finds
  | .expr value => exact value.finds

theorem ForHead.finds (head : ForHead) : Finds head.occurrences head.mentions := by
  match head with
  | .varDecl decl => exact decl.finds
  | .target target => exact target.finds

theorem CatchClause.finds (handler : CatchClause) : Finds handler.occurrences handler.mentions := by
  match handler with
  | ⟨some param, body⟩ => exact param.finds.append (stmtsFind body)
  | ⟨none, body⟩ => exact stmtsFind body

theorem casesFind (cs : List SwitchCase) : Finds (casesOccur cs) (casesMention cs) := by
  match cs with
  | [] => exact .nil
  | ⟨test, stmts⟩ :: cs =>
    exact ((optExprFinds test).append (stmtsFind stmts)).append (casesFind cs)

theorem stmtsFind (ss : List Stmt) : Finds (stmtsOccur ss) (stmtsMention ss) := by
  match ss with
  | [] => exact .nil
  | s :: ss => exact s.finds.append (stmtsFind ss)

theorem Stmt.finds (s : Stmt) : Finds s.occurrences s.mentions := by
  match s with
  | .expr value => exact value.finds
  | .throw arg => exact arg.finds
  | .exportDefault value => exact value.finds
  | .varDecl decl => exact decl.finds
  | .function func => exact func.finds
  | .class decl => exact decl.finds
  | .ret arg => exact optExprFinds arg
  | .ifElse test consequent (some alternate) =>
    exact (test.finds.append consequent.finds).append alternate.finds
  | .ifElse test consequent none => exact (test.finds.append consequent.finds).append .nil
  | .block stmts => exact stmtsFind stmts
  | .forLoop (some init) test update body =>
    exact ((init.finds.append (optExprFinds test)).append (optExprFinds update)).append body.finds
  | .forLoop none test update body =>
    exact ((Finds.nil.append (optExprFinds test)).append (optExprFinds update)).append body.finds
  | .forIn left right body => exact (left.finds.append right.finds).append body.finds
  | .forOf left right body _ => exact (left.finds.append right.finds).append body.finds
  | .while test body => exact test.finds.append body.finds
  | .doWhile body test => exact test.finds.append body.finds
  | .tryCatch stmts (some handler) (some finalizer) =>
    exact ((stmtsFind stmts).append handler.finds).append (stmtsFind finalizer)
  | .tryCatch stmts (some handler) none =>
    exact ((stmtsFind stmts).append handler.finds).append .nil
  | .tryCatch stmts none (some finalizer) =>
    exact ((stmtsFind stmts).append .nil).append (stmtsFind finalizer)
  | .tryCatch stmts none none => exact ((stmtsFind stmts).append .nil).append .nil
  | .switch discriminant cases => exact discriminant.finds.append (casesFind cases)
  | .break label | .continue label => exact .ofNames label.toList
  | .labeled label body => exact body.finds.cons label
  | .empty => exact .nil
  | .typeAlias decl => exact decl.finds
  | .interface decl => exact decl.finds
  | .import decl => exact .map _ decl.specifiers
  | .export (some declaration) specifiers _ _ => exact declaration.finds.append (.map _ specifiers)
  | .export none specifiers _ _ => exact Finds.nil.append (.map _ specifiers)
end

/-! ### What the generated names avoid -/

namespace UnitNames

/-- The bases that the generated names are made from. -/
def bases : List String := ["t", "assert", "extend"]

def toList (names : UnitNames) : List String := [names.library, names.assert, names.extend]

/-- If there is a free candidate for every base, no generated name is among those that are to be
avoided: a name for another base is no candidate. -/
theorem ofProgram_not_mentioned {p : Program}
    (h : ∀ base ∈ bases, FreshName.HasFree p.mentions base) :
    ∀ n ∈ (ofProgram p).toList, n ∉ p.mentions := by
  have hlibrary : FreshName.HasFree p.mentions "t" := h _ (by simp [bases])
  obtain ⟨i, hi⟩ : ∃ i, (ofProgram p).library = FreshName.candidate "t" i :=
    (FreshName.exists_choose p.mentions "t").imp fun _ h => h.2.2.1
  have hassert : FreshName.HasFree ((ofProgram p).library :: p.mentions) "assert" := by
    obtain ⟨k, hone, hlast, hfree⟩ := h "assert" (by simp [bases])
    refine ⟨k, hone, hlast, List.not_mem_cons_of_ne_of_not_mem ?_ hfree⟩
    exact hi ▸ FreshName.candidate_ne rfl rfl (by decide) k i
  obtain ⟨j, hj⟩ : ∃ j, (ofProgram p).assert = FreshName.candidate "assert" j :=
    (FreshName.exists_choose ((ofProgram p).library :: p.mentions) "assert").imp fun _ h => h.2.2.1
  have hextend : FreshName.HasFree
      ((ofProgram p).assert :: (ofProgram p).library :: p.mentions) "extend" := by
    obtain ⟨k, hone, hlast, hfree⟩ := h "extend" (by simp [bases])
    refine ⟨k, hone, hlast, List.not_mem_cons_of_ne_of_not_mem ?_
      (List.not_mem_cons_of_ne_of_not_mem ?_ hfree)⟩
    · exact hj ▸ FreshName.candidate_ne rfl rfl (by decide) k j
    · exact hi ▸ FreshName.candidate_ne rfl rfl (by decide) k i
  intro n hn
  simp only [toList, List.mem_cons, List.not_mem_nil, or_false] at hn
  rcases hn with rfl | rfl | rfl
  · exact FreshName.choose_not_mem hlibrary
  · exact fun hmem => FreshName.choose_not_mem hassert (List.mem_cons_of_mem _ hmem)
  · exact fun hmem => FreshName.choose_not_mem hextend
      (List.mem_cons_of_mem _ (List.mem_cons_of_mem _ hmem))

end UnitNames

namespace Program

/-- A name that occurs in a unit is mentioned by it, or overlooked somewhere. -/
theorem mem_names_iff {p : Program} {n : String} :
    n ∈ p.names ↔ n ∈ p.mentions ∨ n ∈ p.overlooked := by
  rw [mentions, ← stmtsFind p.body, names, overlooked, occurrences]
  simp only [List.mem_map, List.mem_filter, Bool.not_eq_true']
  constructor
  · rintro ⟨o, ho, rfl⟩
    cases hoverlooked : o.overlooked with
    | false => exact .inl ⟨o, ⟨ho, hoverlooked⟩, rfl⟩
    | true => exact .inr ⟨o, ⟨ho, hoverlooked⟩, rfl⟩
  · rintro (⟨o, ⟨ho, -⟩, rfl⟩ | ⟨o, ⟨ho, -⟩, rfl⟩) <;> exact ⟨o, ho, rfl⟩

/-- Given a candidate for every base that does not occur in the unit, no generated name occurs in
the unit exactly where none is overlooked by the search for mentioned names. -/
theorem generated_avoid_names_iff {p : Program}
    (h : ∀ base ∈ UnitNames.bases, FreshName.HasFree p.names base) :
    (∀ n ∈ (UnitNames.ofProgram p).toList, n ∉ p.names) ↔
      ∀ n ∈ (UnitNames.ofProgram p).toList, n ∉ p.overlooked := by
  have hmentions : ∀ n ∈ (UnitNames.ofProgram p).toList, n ∉ p.mentions :=
    UnitNames.ofProgram_not_mentioned fun base hbase =>
      (h base hbase).mono fun n hn => mem_names_iff.mpr (.inl hn)
  constructor
  · intro hnames n hn hoverlooked
    exact hnames n hn (mem_names_iff.mpr (.inr hoverlooked))
  · intro hoverlooked n hn hname
    rcases mem_names_iff.mp hname with hmem | hmem
    · exact hmentions n hn hmem
    · exact hoverlooked n hn hmem

/-- The unit `type X = number; _t; a[b];`. -/
def libraryNamed : Program :=
  ⟨"libraryNamed.js",
    [.typeAlias ⟨"X", [], .primitive .number, false, .dummy⟩, .expr (.ident "_t"),
      .expr (.index (.ident "a") (.ident "b"))]⟩

theorem libraryNamed_avoids :
    (UnitNames.ofProgram libraryNamed).library ∉ libraryNamed.names ∧
      (UnitNames.ofProgram libraryNamed).assert ∉ libraryNamed.names ∧
        (UnitNames.ofProgram libraryNamed).extend ∉ libraryNamed.names := by
  have hfree : ∀ base ∈ UnitNames.bases, FreshName.HasFree libraryNamed.names base := by
    refine fun base hbase => ⟨2, by decide, by decide, ?_⟩
    revert base
    decide
  have havoid := (generated_avoid_names_iff hfree).mpr (by decide)
  simpa [UnitNames.toList] using havoid

/-- The unit `type X = number; a[_t];`. -/
def libraryOverlooked : Program :=
  ⟨"libraryOverlooked.js",
    [.typeAlias ⟨"X", [], .primitive .number, false, .dummy⟩,
      .expr (.index (.ident "a") (.ident "_t"))]⟩

/-- There are free candidates, and yet the name of the library is one of the unit's own. -/
theorem libraryOverlooked_captured :
    (∀ base ∈ UnitNames.bases, FreshName.HasFree libraryOverlooked.names base) ∧
      (UnitNames.ofProgram libraryOverlooked).library ∈ libraryOverlooked.names := by
  refine ⟨fun base hbase => ⟨2, by decide, by decide, ?_⟩, by decide⟩
  revert base
  decide

end Program

end TypeGuard
