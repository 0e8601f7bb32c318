import TypeGuard.Proofs.Closure.Occurrence
import TypeGuard.Proofs.Emission.Names

/-!
# Names that visited trees bring in

Every tree brings in the names of what its visit inserts, and no other.
-/

namespace TypeGuard

open Instrumentation

variable {cx : Setting} {R : Demands}

theorem GenericRef.reifyTarget_of_classify {env : Environment} {ref : GenericRef}
    {target : TypeName} (h : ref.classify env = .ok (.reify target)) :
    ref.reifyTarget = .ok target := by
  unfold classify classifySimple classifyFree at h
  repeat' split at h
  all_goals first | cases h | skip
  · cases hpredicate : ref.refinementPredicate <;> rw [hpredicate] at h <;> cases h
  · cases htarget : ref.reifyTarget <;> rw [htarget] at h <;> cases h
    rfl

/-- What a reifying cast becomes occurs in its type. -/
theorem Reifies.occurs_path {n : String} {env : Environment} {type : StaticType}
    {target : TypeName} (h : Reifies env type target)
    (hn : Occurs n (Expr.path target).occurrences) : Occurs n type.occurrences := by
  obtain ⟨⟨name, typeArgs⟩, rfl, hclassify⟩ := h
  have htarget := GenericRef.reifyTarget_of_classify hclassify
  unfold GenericRef.reifyTarget at htarget
  split at htarget
  · rename_i inner hargs
    cases htarget
    obtain _ | args := typeArgs
    · cases hargs
    · obtain rfl : args = [.generic inner] := hargs
      rw [Expr.path_occurrences] at hn
      obtain ⟨innerName, _ | innerArgs⟩ := inner <;>
        simp [StaticType.occurrences, GenericRef.occurrences, typesOccur] at hn ⊢ <;> tauto
  · cases htarget

mutual
theorem Expr.Becomes.brings {env : Environment} {d : Nat} {e out : Expr} {log : List Inserted}
    (h : e.Becomes cx R env d out log) : Brings cx e.occurrences out.occurrences log := by
  unfold Expr.Becomes at h
  rcases h.cases with ⟨rfl, rfl⟩ | h
  · exact .refl _
  match e, h with
  | .ident _, h | .this, h | .super, h | .null, h | .bool _, h | .num _, h | .str _, h
  | .regex _ _, h =>
    obtain ⟨rfl, rfl⟩ := h
    exact .refl _
  | .template _ _, h =>
    obtain ⟨_, rfl, hexprs⟩ := h
    exact exprsBecome_bring hexprs
  | .taggedTemplate _ _ _, h =>
    obtain ⟨_, _, _, _, rfl, rfl, htag, hexprs⟩ := h
    exact htag.brings.append (exprsBecome_bring hexprs)
  | .array _, h =>
    obtain ⟨_, rfl, helems⟩ := h
    exact elemsBecome_bring helems
  | .object _, h =>
    obtain ⟨_, rfl, hprops⟩ := h
    exact objectPropsBecome_bring hprops
  | .function _, h =>
    obtain ⟨_, rfl, hfunc⟩ := h
    exact hfunc.brings
  | .class _, h =>
    obtain ⟨_, rfl, hdecl⟩ := h
    exact hdecl.brings
  | .member _ _, h | .unary _ _, h | .update _ _ _, h | .spread _, h | .await _, h
  | .paren _, h =>
    obtain ⟨_, rfl, harg⟩ := h
    exact harg.brings
  | .index _ _, h =>
    obtain ⟨_, _, _, _, rfl, rfl, hobj, hkey⟩ := h
    exact hobj.brings.append hkey.brings.overlook
  | .call _ _, h | .new _ _, h =>
    obtain ⟨_, _, _, _, rfl, rfl, hcallee, hargs⟩ := h
    exact hcallee.brings.append (exprsBecome_bring hargs)
  | .binary _ _ _, h =>
    obtain ⟨_, _, _, _, rfl, rfl, hleft, hright⟩ := h
    exact hleft.brings.append hright.brings
  | .conditional _ _ _, h =>
    obtain ⟨_, _, _, k, l, m, rfl, rfl, htest, hthen, helse⟩ := h
    exact List.append_assoc k l m ▸ (htest.brings.append hthen.brings).append helse.brings
  | .assign _ _ _ _, h =>
    obtain ⟨_, _, _, k, l, m, rfl, rfl, hvalue, htarget, _, hchecked⟩ := h
    refine (htarget.brings.append (hvalue.brings.guarded hchecked)).reorder fun i => ?_
    simp only [List.mem_append]
    tauto
  | .seq _, h =>
    obtain ⟨_, rfl, hexprs⟩ := h
    exact exprsBecome_bring hexprs
  | .yield _ _, h =>
    obtain ⟨_, rfl, harg⟩ := h
    exact optExprBecomes_bring harg
  | .cast _ _ _ _, h =>
    rcases h with ⟨target, htarget, rfl, rfl⟩ | ⟨_, l, m, rfl, -, hinner, hchecked⟩
    · exact .unlogged fun n hn => (htarget.occurs_path hn).right
    · exact (hinner.brings.guarded hchecked).before _
termination_by structural e

theorem exprsBecome_bring {env : Environment} {d : Nat} {es out : List Expr}
    {log : List Inserted} (h : exprsBecome cx R env d es out log) :
    Brings cx (exprsOccur es) (exprsOccur out) log := by
  match es, h with
  | [], h =>
    obtain ⟨rfl, rfl⟩ := h
    exact .refl _
  | _ :: _, h =>
    obtain ⟨_, _, _, _, rfl, rfl, he, hes⟩ := h
    exact he.brings.append (exprsBecome_bring hes)
termination_by structural es

theorem optExprBecomes_bring {env : Environment} {d : Nat} {e out : Option Expr}
    {log : List Inserted} (h : optExprBecomes cx R env d e out log) :
    Brings cx (optExprOccurrences e) (optExprOccurrences out) log := by
  match e, h with
  | some _, h =>
    obtain ⟨_, rfl, he⟩ := h
    exact he.brings
  | none, h =>
    obtain ⟨rfl, rfl⟩ := h
    exact .refl _
termination_by structural e

theorem elemsBecome_bring {env : Environment} {d : Nat} {es out : List (Option Expr)}
    {log : List Inserted} (h : elemsBecome cx R env d es out log) :
    Brings cx (elemsOccur es) (elemsOccur out) log := by
  match es, h with
  | [], h =>
    obtain ⟨rfl, rfl⟩ := h
    exact .refl _
  | some _ :: _, h =>
    obtain ⟨_, _, _, _, rfl, rfl, he, hes⟩ := h
    exact he.brings.append (elemsBecome_bring hes)
  | none :: es, h =>
    obtain ⟨fs, rfl, hes⟩ := h
    rw [elemsOccur, elemsOccur]
    exact elemsBecome_bring hes
termination_by structural es

theorem PropKey.Becomes.brings {env : Environment} {d : Nat} {key out : PropKey}
    {log : List Inserted} (h : key.Becomes cx R env d out log) :
    Brings cx key.occurrences out.occurrences log := by
  match key, h with
  | .computed _, h =>
    obtain ⟨_, rfl, he⟩ := h
    exact he.brings
  | .ident _, h | .str _, h | .num _, h =>
    obtain ⟨rfl, rfl⟩ := h
    exact .refl _
termination_by structural key

theorem objectPropsBecome_bring {env : Environment} {d : Nat} {ps out : List ObjectProp}
    {log : List Inserted} (h : objectPropsBecome cx R env d ps out log) :
    Brings cx (objectPropsOccur ps) (objectPropsOccur out) log := by
  match ps, h with
  | [], h =>
    obtain ⟨rfl, rfl⟩ := h
    exact .refl _
  | .keyValue _ _ _ :: _, h =>
    obtain ⟨_, _, _, _, rfl, rfl, ⟨_, _, _, _, rfl, rfl, hkey, hvalue⟩, hps⟩ := h
    exact (hkey.brings.append hvalue.brings).append (objectPropsBecome_bring hps)
  | .method _ _ :: _, h =>
    obtain ⟨_, _, _, _, rfl, rfl, ⟨_, _, _, _, rfl, rfl, hkey, hfunc⟩, hps⟩ := h
    exact (hkey.brings.append hfunc.brings).append (objectPropsBecome_bring hps)
  | .spread _ :: _, h =>
    obtain ⟨_, _, _, _, rfl, rfl, ⟨_, rfl, harg⟩, hps⟩ := h
    exact harg.brings.append (objectPropsBecome_bring hps)
termination_by structural ps

theorem AssignTarget.Becomes.brings {env : Environment} {d : Nat} {target out : AssignTarget}
    {log : List Inserted} (h : target.Becomes cx R env d out log) :
    Brings cx target.occurrences out.occurrences log := by
  match target, h with
  | .pattern _, h =>
    obtain ⟨_, rfl, hp⟩ := h
    exact hp.brings
  | .expr _, h =>
    obtain ⟨_, rfl, he⟩ := h
    exact he.brings
termination_by structural target

theorem Pattern.Becomes.brings {env : Environment} {d : Nat} {p out : Pattern}
    {log : List Inserted} (h : p.Becomes cx R env d out log) :
    Brings cx p.occurrences out.occurrences log := by
  match p, h with
  | .ident _, h =>
    obtain ⟨rfl, rfl⟩ := h
    exact .refl _
  | .object _, h =>
    obtain ⟨_, rfl, hprops⟩ := h
    exact patternPropsBecome_bring hprops
  | .array _, h =>
    obtain ⟨_, rfl, helems⟩ := h
    exact patternsBecome_bring helems
  | .default _ _, h =>
    obtain ⟨_, _, _, _, rfl, rfl, hleft, hright⟩ := h
    exact hleft.brings.append hright.brings
  | .rest _, h =>
    obtain ⟨_, rfl, hinner⟩ := h
    exact hinner.brings
termination_by structural p

theorem patternPropsBecome_bring {env : Environment} {d : Nat} {ps out : List PatternProp}
    {log : List Inserted} (h : patternPropsBecome cx R env d ps out log) :
    Brings cx (patternPropsOccur ps) (patternPropsOccur out) log := by
  match ps, h with
  | [], h =>
    obtain ⟨rfl, rfl⟩ := h
    exact .refl _
  | .keyValue _ _ _ :: _, h =>
    obtain ⟨_, _, _, _, rfl, rfl, ⟨_, _, _, _, rfl, rfl, hkey, hvalue⟩, hps⟩ := h
    exact (hkey.brings.append hvalue.brings).append (patternPropsBecome_bring hps)
  | .rest _ :: _, h =>
    obtain ⟨_, _, _, _, rfl, rfl, ⟨_, rfl, hinner⟩, hps⟩ := h
    exact hinner.brings.append (patternPropsBecome_bring hps)
termination_by structural ps

theorem patternsBecome_bring {env : Environment} {d : Nat} {ps out : List (Option Pattern)}
    {log : List Inserted} (h : patternsBecome cx R env d ps out log) :
    Brings cx (patternsOccur ps) (patternsOccur out) log := by
  match ps, h with
  | [], h =>
    obtain ⟨rfl, rfl⟩ := h
    exact .refl _
  | some _ :: _, h =>
    obtain ⟨_, _, _, _, rfl, rfl, hp, hps⟩ := h
    exact hp.brings.append (patternsBecome_bring hps)
  | none :: ps, h =>
    obtain ⟨fs, rfl, hps⟩ := h
    rw [patternsOccur, patternsOccur]
    exact patternsBecome_bring hps
termination_by structural ps

/-- The checks of the parameters stand in the body. -/
theorem paramsBecome_bring {env : Environment} {d : Nat} {ps out : List Param}
    {checks : List Stmt} {log : List Inserted} (h : paramsBecome cx R env d ps out checks log) :
    Brings cx (paramsOccur ps) (paramsOccur out ++ stmtsOccur checks) log := by
  match ps, h with
  | [], h =>
    obtain ⟨rfl, rfl, rfl⟩ := h
    exact .refl _
  | ⟨_, _, _⟩ :: _, h =>
    obtain ⟨_, _, _, _, k, l, m, rfl, rfl, rfl, hp, hchecks, hps⟩ := h
    have hfirst := hp.brings.beside hchecks.brings
    refine (List.append_assoc k l m ▸ (hfirst.before _).append
      (paramsBecome_bring hps)).rearrange (fun _ => id) fun n => ?_
    simp only [paramsOccur, optTypeOccurrences, stmtsOccur_append, occurs_append, occurs_nil]
    tauto
termination_by structural ps

theorem FunctionBody.Becomes.brings {env : Environment} {d : Nat} {body out : FunctionBody}
    {log : List Inserted} (h : body.Becomes cx R env d out log) :
    Brings cx body.occurrences out.occurrences log := by
  match body, h with
  | .block _, h =>
    obtain ⟨_, rfl, hlist⟩ := h
    exact hlist.brings fun _ _ _ heach =>
      ⟨eachBecome_bring heach, eachBecome_definition_occurs heach⟩
  | .expr _, h =>
    obtain ⟨_, rfl, hvalue⟩ := h
    exact hvalue.brings
termination_by structural body

theorem Function.Becomes.brings {env : Environment} {d : Nat} {func out : Function}
    {log : List Inserted} (h : func.Becomes cx R env d out log) :
    Brings cx func.occurrences out.occurrences log := by
  match func, h with
  | ⟨id, _, _, _, _, _, _, _, _⟩, h =>
    obtain ⟨ps, checks, f, _, _, k, l, rfl, rfl, hparams, hbody, -, hchecked, -⟩ := h
    have hinner := (Brings.refl (id.toList.map .seen)).append
      ((paramsBecome_bring hparams).append hbody.brings)
    rw [List.append_assoc (paramsOccur ps), ← List.append_assoc _ (paramsOccur ps)] at hinner
    have houter := hchecked.brings hinner
    refine (List.append_assoc k l _ ▸ houter).rearrange (fun n hn => ?_) fun n => ?_
    · simp only [Function.occurrences, occurs_append] at hn ⊢
      tauto
    · simp only [Function.occurrences, typeParamsOccur, optTypeOccurrences, occurs_append,
        occurs_overlook, occurs_nil]
      tauto
termination_by structural func

theorem membersBecome_bring {env : Environment} {d : Nat} {ms out : List ClassMember}
    {log : List Inserted} (h : membersBecome cx R env d ms out log) :
    Brings cx (membersOccur ms) (membersOccur out) log := by
  match ms, h with
  | [], h =>
    obtain ⟨rfl, rfl⟩ := h
    exact .refl _
  | .method _ _ _ _ :: _, h =>
    obtain ⟨_, _, _, _, rfl, rfl, ⟨_, _, _, _, rfl, rfl, hkey, hfunc⟩, hms⟩ := h
    exact (hkey.brings.append hfunc.brings).append (membersBecome_bring hms)
  | .property _ _ _ _ :: _, h =>
    obtain ⟨_, _, _, _, rfl, rfl, ⟨_, _, _, _, rfl, rfl, hkey, hvalue⟩, hms⟩ := h
    exact (hkey.brings.append (optExprBecomes_bring hvalue)).append (membersBecome_bring hms)
termination_by structural ms

theorem Class.Becomes.brings {env : Environment} {d : Nat} {decl out : Class}
    {log : List Inserted} (h : decl.Becomes cx R env d out log) :
    Brings cx decl.occurrences out.occurrences log := by
  match decl, h with
  | ⟨id, _, typeParams, _, _⟩, h =>
    obtain ⟨_, _, _, _, rfl, rfl, hsuper, hbody⟩ := h
    have hnames : Brings cx (id.toList.map .seen ++ overlook (typeParamsOccur typeParams))
        (id.toList.map .seen ++ []) [] := (Brings.refl _).append (.leaveOut _)
    exact (hnames.append (optExprBecomes_bring hsuper)).append (membersBecome_bring hbody)
termination_by structural decl

theorem declaratorsBecome_bring {env : Environment} {d : Nat} {ds out : List Declarator}
    {log : List Inserted} (h : declaratorsBecome cx R env d ds out log) :
    Brings cx (declaratorsOccur ds) (declaratorsOccur out) log := by
  match ds, h with
  | [], h =>
    obtain ⟨rfl, rfl⟩ := h
    exact .refl _
  | ⟨_, _, _, _⟩ :: _, h =>
    obtain ⟨_, _, _, _, j, k, l, m, rfl, rfl, hinit, hid, hchecked, hds⟩ := h
    have hvalue := (optExprBecomes_bring hinit).initGuarded hchecked
    refine (((hid.brings.append (.leaveOut _)).append hvalue).append
      (declaratorsBecome_bring hds)).reorder fun i => ?_
    simp only [List.mem_append, List.not_mem_nil]
    tauto
termination_by structural ds

theorem VarDecl.Becomes.brings {env : Environment} {d : Nat} {decl out : VarDecl}
    {log : List Inserted} (h : decl.Becomes cx R env d out log) :
    Brings cx decl.occurrences out.occurrences log := by
  match decl, h with
  | ⟨_, _, _⟩, h =>
    obtain ⟨_, rfl, hds⟩ := h
    exact declaratorsBecome_bring hds
termination_by structural decl

theorem ForInit.Becomes.brings {env : Environment} {d : Nat} {i out : ForInit}
    {log : List Inserted} (h : i.Becomes cx R env d out log) :
    Brings cx i.occurrences out.occurrences log := by
  match i, h with
  | .varDecl _, h =>
    obtain ⟨_, rfl, hdecl⟩ := h
    exact hdecl.brings
  | .expr _, h =>
    obtain ⟨_, rfl, hvalue⟩ := h
    exact hvalue.brings
termination_by structural i

theorem optForInitBecomes_bring {env : Environment} {d : Nat} {i out : Option ForInit}
    {log : List Inserted} (h : optForInitBecomes cx R env d i out log) :
    Brings cx (i.elim [] ForInit.occurrences) (out.elim [] ForInit.occurrences) log := by
  match i, h with
  | some _, h =>
    obtain ⟨_, rfl, hi⟩ := h
    exact hi.brings
  | none, h =>
    obtain ⟨rfl, rfl⟩ := h
    exact .refl _
termination_by structural i

theorem ForHead.Becomes.brings {env : Environment} {d : Nat} {head out : ForHead}
    {log : List Inserted} (h : head.Becomes cx R env d out log) :
    Brings cx head.occurrences out.occurrences log := by
  match head, h with
  | .varDecl _, h =>
    obtain ⟨_, rfl, hdecl⟩ := h
    exact hdecl.brings
  | .target _, h =>
    obtain ⟨_, rfl, htarget⟩ := h
    exact htarget.brings
termination_by structural head

theorem handlerBecomes_bring {env : Environment} {d : Nat} {handler out : Option CatchClause}
    {log : List Inserted} (h : handlerBecomes cx R env d handler out log) :
    Brings cx (handler.elim [] CatchClause.occurrences) (out.elim [] CatchClause.occurrences)
      log := by
  match handler, h with
  | some ⟨some _, _⟩, h =>
    obtain ⟨_, _, _, _, rfl, rfl, hparam, hlist⟩ := h
    exact hparam.brings.append <| hlist.brings fun _ _ _ heach =>
      ⟨eachBecome_bring heach, eachBecome_definition_occurs heach⟩
  | some ⟨none, _⟩, h =>
    obtain ⟨_, rfl, hlist⟩ := h
    exact hlist.brings fun _ _ _ heach =>
      ⟨eachBecome_bring heach, eachBecome_definition_occurs heach⟩
  | none, h =>
    obtain ⟨rfl, rfl⟩ := h
    exact .refl _
termination_by structural handler

theorem finalizerBecomes_bring {env : Environment} {d : Nat} {finalizer out : Option (List Stmt)}
    {log : List Inserted} (h : finalizerBecomes cx R env d finalizer out log) :
    Brings cx (finalizer.elim [] stmtsOccur) (out.elim [] stmtsOccur) log := by
  match finalizer, h with
  | some _, h =>
    obtain ⟨_, rfl, hlist⟩ := h
    exact hlist.brings fun _ _ _ heach =>
      ⟨eachBecome_bring heach, eachBecome_definition_occurs heach⟩
  | none, h =>
    obtain ⟨rfl, rfl⟩ := h
    exact .refl _
termination_by structural finalizer

theorem casesBecome_bring {env : Environment} {d : Nat} {cs out : List SwitchCase}
    {log : List Inserted} (h : casesBecome cx R env d cs out log) :
    Brings cx (casesOccur cs) (casesOccur out) log := by
  match cs, h with
  | [], h =>
    obtain ⟨rfl, rfl⟩ := h
    exact .refl _
  | ⟨_, _⟩ :: _, h =>
    obtain ⟨_, _, _, k, l, m, rfl, rfl, htest, hlist, hcs⟩ := h
    have hstmts := hlist.brings fun _ _ _ heach =>
      ⟨eachBecome_bring heach, eachBecome_definition_occurs heach⟩
    exact List.append_assoc k l m ▸
      ((optExprBecomes_bring htest).append hstmts).append (casesBecome_bring hcs)
termination_by structural cs

theorem alternateBecomes_bring {env : Environment} {d : Nat} {s out : Option Stmt}
    {log : List Inserted} {defs : List Definition}
    (h : alternateBecomes cx R env d s out log defs) :
    Brings cx (s.elim [] Stmt.occurrences) (out.elim [] Stmt.occurrences) log := by
  match s, h with
  | some _, h =>
    obtain ⟨f, rfl, hs⟩ := h
    rw [Option.elim_some, Option.elim_some, orEmptyBlock_occurrences]
    exact hs.brings
  | none, h =>
    obtain ⟨rfl, rfl, -⟩ := h
    exact .refl _
termination_by structural s

theorem eachBecome_bring {env : Environment} {d : Nat} {ss : List Stmt} {vs : List Visited}
    {log : List Inserted} {defs : List Definition} (h : eachBecome cx R env d ss vs log defs) :
    Brings cx (stmtsOccur ss) (stmtsOccur (vs.filterMap (·.stmt))) log := by
  match ss, h with
  | [], h =>
    obtain ⟨rfl, rfl, -⟩ := h
    exact .refl _
  | _ :: _, h =>
    obtain ⟨_, _, _, _, _, _, rfl, rfl, -, -, hs, hrest⟩ := h
    rw [filterMap_cons, stmtsOccur_append]
    exact hs.brings.append (eachBecome_bring hrest)
termination_by structural ss

theorem Stmt.Becomes.brings {env : Environment} {d : Nat} {s : Stmt} {out : Option Stmt}
    {log : List Inserted} {defs : List Definition} (h : s.Becomes cx R env d out log defs) :
    Brings cx s.occurrences (stmtsOccur out.toList) log := by
  unfold Stmt.Becomes at h
  rcases h.cases with ⟨rfl, rfl, -⟩ | h
  · exact stmtsOccur_singleton s ▸ .refl _
  match s, h with
  | .expr _, h | .throw _, h | .exportDefault _, h =>
    obtain ⟨_, rfl, -, hvalue⟩ := h
    exact (stmtsOccur_singleton _).symm ▸ hvalue.brings
  | .varDecl _, h =>
    obtain ⟨_, rfl, -, hdecl⟩ := h
    exact (stmtsOccur_singleton _).symm ▸ hdecl.brings
  | .function _, h =>
    obtain ⟨_, rfl, -, hfunc⟩ := h
    exact (stmtsOccur_singleton _).symm ▸ hfunc.brings
  | .class _, h =>
    obtain ⟨_, rfl, -, hdecl⟩ := h
    exact (stmtsOccur_singleton _).symm ▸ hdecl.brings
  | .ret _, h =>
    obtain ⟨_, rfl, -, harg⟩ := h
    exact (stmtsOccur_singleton _).symm ▸ optExprBecomes_bring harg
  | .ifElse _ _ _, h =>
    obtain ⟨_, _, _, k, l, m, _, _, rfl, rfl, -, htest, hthen, helse⟩ := h
    rw [Option.toList_some, stmtsOccur_singleton, Stmt.occurrences_ifElse, Stmt.occurrences_ifElse,
      orEmptyBlock_occurrences, ← List.append_assoc]
    exact (htest.brings.append hthen.brings).append (alternateBecomes_bring helse)
  | .block _, h =>
    obtain ⟨_, rfl, -, hlist⟩ := h
    exact (stmtsOccur_singleton _).symm ▸ hlist.brings fun _ _ _ heach =>
      ⟨eachBecome_bring heach, eachBecome_definition_occurs heach⟩
  | .forLoop _ _ _ _, h =>
    obtain ⟨_, _, _, _, j, k, l, m, rfl, rfl, hinit, htest, hupdate, hbody⟩ := h
    rw [Option.toList_some, stmtsOccur_singleton, Stmt.occurrences_forLoop,
      Stmt.occurrences_forLoop, orEmptyBlock_occurrences, ← List.append_assoc, ← List.append_assoc]
    exact (((optForInitBecomes_bring hinit).append (optExprBecomes_bring htest)).append
      (optExprBecomes_bring hupdate)).append hbody.brings
  | .forIn _ _ _, h | .forOf _ _ _ _, h =>
    obtain ⟨_, _, _, k, l, m, rfl, rfl, hright, hleft, hbody⟩ := h
    rw [Option.toList_some, stmtsOccur_singleton, Stmt.occurrences, Stmt.occurrences,
      orEmptyBlock_occurrences, ← List.append_assoc]
    exact (hleft.brings.appendLater hright.brings).append hbody.brings
  | .while _ _, h =>
    obtain ⟨_, _, l, m, rfl, rfl, htest, hbody⟩ := h
    rw [Option.toList_some, stmtsOccur_singleton, Stmt.occurrences, Stmt.occurrences,
      orEmptyBlock_occurrences]
    exact htest.brings.append hbody.brings
  | .doWhile _ _, h =>
    obtain ⟨_, _, l, m, rfl, rfl, hbody, htest⟩ := h
    rw [Option.toList_some, stmtsOccur_singleton, Stmt.occurrences, Stmt.occurrences,
      orEmptyBlock_occurrences]
    exact htest.brings.appendLater hbody.brings
  | .tryCatch _ _ _, h =>
    obtain ⟨_, _, _, k, l, m, rfl, rfl, -, hlist, hhandler, hfinalizer⟩ := h
    have hstmts := hlist.brings fun _ _ _ heach =>
      ⟨eachBecome_bring heach, eachBecome_definition_occurs heach⟩
    rw [Option.toList_some, stmtsOccur_singleton, Stmt.occurrences_tryCatch,
      Stmt.occurrences_tryCatch, ← List.append_assoc]
    exact (hstmts.append (handlerBecomes_bring hhandler)).append (finalizerBecomes_bring hfinalizer)
  | .switch _ _, h =>
    obtain ⟨_, _, _, _, rfl, rfl, -, hdiscriminant, hcases⟩ := h
    exact (stmtsOccur_singleton _).symm ▸ hdiscriminant.brings.append (casesBecome_bring hcases)
  | .labeled _ _, h =>
    obtain ⟨_, rfl, hbody⟩ := h
    rw [Option.toList_some, stmtsOccur_singleton, Stmt.occurrences, Stmt.occurrences,
      orEmptyBlock_occurrences]
    exact hbody.brings.cons _
  | .break _, h | .continue _, h | .empty, h =>
    obtain ⟨rfl, rfl, -⟩ := h
    exact (stmtsOccur_singleton _).symm ▸ .refl _
  | .typeAlias _, h =>
    obtain ⟨_, -, hdecl⟩ := h
    exact hdecl.brings
  | .interface _, h =>
    obtain ⟨_, -, hdecl⟩ := h
    exact hdecl.brings
  | .import decl, h =>
    obtain ⟨rfl, rfl, -⟩ := h
    refine .unlogged fun n hn => ?_
    cases hvalue : decl.toValue? with
    | none => exact absurd hn (by simp [hvalue, stmtsOccur])
    | some value =>
      have hlocal : n ∈ value.specifiers.map ImportSpecifier.localName := by
        simpa [hvalue, stmtsOccur, Stmt.occurrences, Occurs, Occurrence.seen] using hn
      simpa [Stmt.occurrences, Occurs, Occurrence.seen] using
        ImportDecl.toValue?_localNames hvalue hlocal
  | .export (some _) specifiers _ _, h =>
    obtain ⟨f, rfl, hf⟩ := h
    cases f with
    | none => exact hf.brings.before _
    | some f =>
      have hboth := hf.brings.append (.refl (specifiers.map fun x => .seen x.localName))
      rw [Option.toList_some, stmtsOccur_singleton, List.append_nil] at hboth
      rw [Option.map_some, Option.toList_some, stmtsOccur_singleton]
      exact hboth
  | .export none _ _ _, h =>
    obtain ⟨rfl, rfl, -⟩ := h
    exact (stmtsOccur_singleton _).symm ▸ .refl _
termination_by structural s
end

end TypeGuard
