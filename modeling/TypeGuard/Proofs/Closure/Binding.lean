import TypeGuard.Mention
import TypeGuard.Proofs.Emission.Names

/-!
# Bound names are mentioned

Every name that a pattern binds, and every name that a statement declares or hoists, is among the
names that the tree mentions. What visits insert into the statements of a unit binds no further name
in the scope of the unit.
-/

namespace TypeGuard

open Instrumentation

mutual
theorem Pattern.boundNames_subset (p : Pattern) : p.boundNames ⊆ p.mentions := by
  match p with
  | .ident name => exact List.Subset.refl _
  | .object props => exact boundByProps_subset props
  | .array elems => exact boundByElems_subset elems
  | .default left _ => exact List.subset_append_of_subset_left _ left.boundNames_subset
  | .rest inner => exact inner.boundNames_subset

theorem boundByProps_subset (ps : List PatternProp) : boundByProps ps ⊆ patternPropsMention ps := by
  match ps with
  | [] => exact List.Subset.refl _
  | .keyValue key value _ :: ps =>
    have hvalue := List.subset_append_of_subset_right key.mentions value.boundNames_subset
    exact append_subset_append hvalue (boundByProps_subset ps)
  | .rest inner :: ps => exact append_subset_append inner.boundNames_subset (boundByProps_subset ps)

theorem boundByElems_subset (ps : List (Option Pattern)) :
    boundByElems ps ⊆ patternsMention ps := by
  match ps with
  | [] => exact List.Subset.refl _
  | some p :: ps => exact append_subset_append p.boundNames_subset (boundByElems_subset ps)
  | none :: ps => exact boundByElems_subset ps
end

theorem declarators_boundNames_subset (ds : List Declarator) :
    ds.flatMap (·.id.boundNames) ⊆ declaratorsMention ds := by
  induction ds with
  | nil => exact List.Subset.refl _
  | cons x ds ih =>
    obtain ⟨id, type, init, span⟩ := x
    have hid : id.boundNames ⊆ id.mentions ++ optTypeMentions type ++ optExprMentions init :=
      List.subset_append_of_subset_left _ <|
        List.subset_append_of_subset_left _ id.boundNames_subset
    exact append_subset_append hid ih

namespace VarDecl

theorem boundNames_subset (decl : VarDecl) : decl.boundNames ⊆ decl.mentions := by
  obtain ⟨kind, declarators, span⟩ := decl
  exact declarators_boundNames_subset declarators

theorem hoistedNames_subset (decl : VarDecl) : decl.hoistedNames ⊆ decl.mentions := by
  unfold hoistedNames
  split
  · exact decl.boundNames_subset
  · exact List.nil_subset _

end VarDecl

theorem ForInit.hoistedNames_subset (i : ForInit) : i.hoistedNames ⊆ i.mentions := by
  cases i with
  | varDecl decl => exact decl.hoistedNames_subset
  | expr value => exact List.nil_subset _

theorem ForHead.hoistedNames_subset (head : ForHead) : head.hoistedNames ⊆ head.mentions := by
  cases head with
  | varDecl decl => exact decl.hoistedNames_subset
  | target target => exact List.nil_subset _

theorem CatchClause.varNames_subset (param : Option Pattern) {body : List Stmt}
    (h : varNames body ⊆ stmtsMention body) :
    varNames body ⊆ CatchClause.mentions ⟨param, body⟩ := by
  cases param with
  | some param => exact List.subset_append_of_subset_right _ h
  | none => exact h

mutual
theorem Stmt.varNames_subset (s : Stmt) : s.varNames ⊆ s.mentions := by
  match s with
  | .varDecl decl => exact decl.hoistedNames_subset
  | .ifElse test consequent (some alternate) =>
    have hconsequent := List.subset_append_of_subset_right test.mentions consequent.varNames_subset
    exact append_subset_append hconsequent alternate.varNames_subset
  | .ifElse test consequent none =>
    have hconsequent := List.subset_append_of_subset_right test.mentions consequent.varNames_subset
    exact append_subset_append hconsequent (List.Subset.refl _)
  | .block stmts => exact TypeGuard.varNames_subset stmts
  | .forLoop (some init) test update body =>
    have hinit : init.hoistedNames ⊆
        init.mentions ++ optExprMentions test ++ optExprMentions update :=
      List.subset_append_of_subset_left _ <|
        List.subset_append_of_subset_left _ init.hoistedNames_subset
    exact append_subset_append hinit body.varNames_subset
  | .forLoop none test update body =>
    exact List.subset_append_of_subset_right _ body.varNames_subset
  | .forIn left right body | .forOf left right body _ =>
    have hleft := List.subset_append_of_subset_left right.mentions left.hoistedNames_subset
    exact append_subset_append hleft body.varNames_subset
  | .while test body => exact List.subset_append_of_subset_right _ body.varNames_subset
  | .doWhile body test => exact List.subset_append_of_subset_right _ body.varNames_subset
  | .labeled label body => exact List.subset_cons_of_subset _ body.varNames_subset
  | .tryCatch stmts (some ⟨param, body⟩) (some finalizer) =>
    have hhandler := CatchClause.varNames_subset param (TypeGuard.varNames_subset body)
    exact append_subset_append (append_subset_append (TypeGuard.varNames_subset stmts) hhandler)
      (TypeGuard.varNames_subset finalizer)
  | .tryCatch stmts (some ⟨param, body⟩) none =>
    have hhandler := CatchClause.varNames_subset param (TypeGuard.varNames_subset body)
    exact append_subset_append (append_subset_append (TypeGuard.varNames_subset stmts) hhandler)
      (List.Subset.refl _)
  | .tryCatch stmts none (some finalizer) =>
    have hstmts := append_subset_append (TypeGuard.varNames_subset stmts) (List.Subset.refl [])
    exact append_subset_append hstmts (TypeGuard.varNames_subset finalizer)
  | .tryCatch stmts none none =>
    have hstmts := append_subset_append (TypeGuard.varNames_subset stmts) (List.Subset.refl [])
    exact append_subset_append hstmts (List.Subset.refl _)
  | .switch discriminant cases =>
    exact List.subset_append_of_subset_right _ (caseVarNames_subset cases)
  | .export (some declaration) specifiers source kind =>
    exact List.subset_append_of_subset_left _ declaration.varNames_subset
  | .expr _ | .function _ | .class _ | .ret _ | .throw _ | .exportDefault _ | .break _
  | .continue _ | .empty | .typeAlias _ | .interface _ | .import _ | .export none _ _ _ =>
    exact List.nil_subset _

theorem varNames_subset (ss : List Stmt) : varNames ss ⊆ stmtsMention ss := by
  match ss with
  | [] => exact List.Subset.refl _
  | s :: ss => exact append_subset_append s.varNames_subset (varNames_subset ss)

theorem caseVarNames_subset (cs : List SwitchCase) : caseVarNames cs ⊆ casesMention cs := by
  match cs with
  | [] => exact List.Subset.refl _
  | ⟨test, stmts⟩ :: cs =>
    have hstmts := List.subset_append_of_subset_right (optExprMentions test) (varNames_subset stmts)
    exact append_subset_append hstmts (caseVarNames_subset cs)
end

theorem Stmt.ownNames_subset (s : Stmt) : s.ownNames ⊆ s.mentions := by
  match s with
  | .varDecl decl => exact decl.boundNames_subset
  | .function func =>
    obtain ⟨id, params, body, returnType, typeParams, isAsync, isArrow, isGenerator, span⟩ := func
    exact List.subset_append_of_subset_left _ <| List.subset_append_of_subset_left _ <|
      List.subset_append_left _ _
  | .class decl =>
    obtain ⟨id, superClass, typeParams, body, span⟩ := decl
    exact List.subset_append_of_subset_left _ <| List.subset_append_left _ _
  | .typeAlias decl => exact List.cons_subset_cons _ (List.nil_subset _)
  | .interface decl => exact List.cons_subset_cons _ (List.nil_subset _)
  | .import decl => exact List.Subset.refl _
  | .export (some declaration) _ _ _ =>
    exact List.subset_append_of_subset_left _ declaration.ownNames_subset
  | .expr _ | .ret _ | .ifElse _ _ _ | .block _ | .throw _ | .exportDefault _ | .forLoop _ _ _ _
  | .forIn _ _ _ | .forOf _ _ _ _ | .while _ _ | .doWhile _ _ | .labeled _ _ | .tryCatch _ _ _
  | .switch _ _ | .break _ | .continue _ | .empty | .export none _ _ _ =>
    exact List.nil_subset _

/-! ### The scope of a unit -/

/-- The names that the statements of a unit bind in its scope: those that they declare, and those of
`var` at any depth. -/
def scopeNames (ss : List Stmt) : List String := ss.flatMap Stmt.ownNames ++ varNames ss

theorem scopeNames_subset (ss : List Stmt) : scopeNames ss ⊆ stmtsMention ss := by
  refine List.append_subset.mpr ⟨?_, varNames_subset ss⟩
  induction ss with
  | nil => exact List.nil_subset _
  | cons s ss ih =>
    exact append_subset_append s.ownNames_subset ih

theorem count_scopeNames_append (n : String) (ss ts : List Stmt) :
    (scopeNames (ss ++ ts)).count n = (scopeNames ss).count n + (scopeNames ts).count n := by
  simp only [scopeNames, List.flatMap_append, varNames_append, List.count_append]
  omega

theorem scopeNames_definitions (names : RuntimeNames) (defs : List Definition) :
    scopeNames (defs.map (·.toStmt names)) = [] := by
  rw [scopeNames, varNames_definitions, List.append_nil, List.flatMap_map]
  exact List.flatMap_eq_nil_iff.mpr fun _ _ => rfl

/-- Visited statements bind no name in the scope of the unit that the statements do not bind. -/
theorem eachBecome_scopeNames {cx : Setting} {R : Demands} {env : Environment} {d : Nat}
    {ss : List Stmt} {vs : List Visited} {log : List Inserted} {defs : List Definition}
    (h : eachBecome cx R env d ss vs log defs) :
    scopeNames (vs.filterMap (·.stmt)) ⊆ scopeNames ss := by
  rw [scopeNames, eachBecome_varNames h]
  exact append_subset_append (eachBecome_ownNames h) (List.Subset.refl _)

end TypeGuard
