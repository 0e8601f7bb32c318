import TypeGuard.Proofs.Wire.StaticType
import TypeGuard.Wire.Syntax

/-!
# Syntax read back

Every tree is read back from the JSON value that is written for it, `ofJson?_toJson`: with its
holes, absent parts, labels and spans. The induction follows the tree, with one statement for every
kind of part.
-/

namespace TypeGuard

open Wire

/-! ### Parts without syntax -/

theorem span?_record {start stop : Json} {a b : UInt32} (ha : uint32? start = some a)
    (hb : uint32? stop = some b) (n : Nat) :
    span? (n + 1) (.obj [("start", start), ("end", stop)]) = some ⟨a, b⟩ := by
  show (do return ⟨← uint32? start, ← uint32? stop⟩) = some (⟨a, b⟩ : Span)
  rw [ha, hb]
  rfl

theorem Span.reads (s : Span) : Reads span? s.toJson s :=
  .record span? ⟨⟨ofUInt32_integral s.start, ofUInt32_integral s.stop, trivial⟩,
    fun n _ => span?_record (uint32?_ofUInt32 s.start) (uint32?_ofUInt32 s.stop) n⟩

theorem VarKind.reads (kind : VarKind) : Reads varKind? (.str kind.tag) kind :=
  unit?_reads (by cases kind <;> rfl)

theorem ImportKind.reads (kind : ImportKind) : Reads importKind? (.str kind.tag) kind :=
  unit?_reads (by cases kind <;> rfl)

theorem MethodKind.reads (kind : MethodKind) : Reads methodKind? (.str kind.tag) kind :=
  unit?_reads (by cases kind <;> rfl)

theorem localName_reads (name : String) : Reads localName? (.obj [("local", .str name)]) name :=
  .record localName? <| .fields <| .bind .pure .pure

theorem ImportSpecifier.reads (s : ImportSpecifier) : Reads importSpecifier? s.toJson s := by
  cases s with
  | default name => exact .variant (localName_reads name).map
  | «namespace» name => exact .variant (localName_reads name).map
  | named imported name kind =>
    cases kind with
    | some kind =>
      have hkind := kind.reads.nullable fun n => by cases n <;> rfl
      exact .variant <| .record namedSpecifier? <| .fields <| .bind .pure <| .bind .pure <|
        .bind hkind .pure
    | none =>
      exact .variant <| .record namedSpecifier? <| .fields <| .bind .pure <| .bind .pure <|
        .bind .pure .pure

theorem ImportDecl.reads (d : ImportDecl) : Reads importDecl? d.toJson d :=
  have hspecifiers : Reads importSpecifiers? _ d.specifiers :=
    (ReadEach.map ImportSpecifier.reads d.specifiers).array fun _ => rfl
  .record importDecl? <| .fields <| .bind hspecifiers <| .bind .pure <|
    .bind d.kind.reads .pure

theorem ExportSpecifier.reads (s : ExportSpecifier) : Reads exportSpecifier? s.toJson s :=
  .record exportSpecifier? <| .fields <| .bind .pure <| .bind .pure .pure

theorem exportSpecifiers_reads (specifiers : List ExportSpecifier) :
    Reads exportSpecifiers? (.arr (specifiers.map ExportSpecifier.toJson)) specifiers :=
  (ReadEach.map ExportSpecifier.reads specifiers).array fun _ => rfl

theorem TypeAlias.reads (d : TypeAlias) : Reads typeAlias? d.toJson d :=
  .record typeAlias? <| .fields <| .bind .pure <| .bind (declaredParams_reads d.typeParams) <|
    .bind d.right.reads <| .bind .pure <| .bind d.span.reads .pure

theorem InterfaceDecl.reads (d : InterfaceDecl) : Reads interfaceDecl? d.toJson d :=
  have hparents : Reads genericRefs? _ d.parents :=
    (ReadEach.map GenericRef.reads d.parents).array fun _ => rfl
  .record interfaceDecl? <| .fields <| .bind .pure <| .bind (declaredParams_reads d.typeParams) <|
    .bind hparents <| .bind d.body.reads <| .bind .pure <| .bind d.span.reads .pure

/-! ### Trees -/

namespace Wire.ReadEach

theorem exprs {js : List Json} {es : List Expr} (h : ReadEach expr? js es) :
    Reads exprs? (.arr js) es :=
  h.array fun _ => rfl

theorem stmts {js : List Json} {ss : List Stmt} (h : ReadEach stmt? js ss) :
    Reads stmts? (.arr js) ss :=
  h.array fun _ => rfl

theorem template {js : List Json} {es : List Expr} (h : ReadEach expr? js es)
    (quasis : List String) :
    Reads template? (.obj [("quasis", ofStrings quasis), ("exprs", .arr js)]) (quasis, es) :=
  .record template? <| .fields <| .bind (strings_reads quasis) <| .bind h.exprs .pure

theorem application {js : List Json} {es : List Expr} (h : ReadEach expr? js es) {callee : Json}
    {e : Expr} (he : Reads expr? callee e) :
    Reads application? (.obj [("callee", callee), ("args", .arr js)]) (e, es) :=
  .record application? <| .fields <| .bind he <| .bind h.exprs .pure

end Wire.ReadEach

theorem Stmt.toJson_tryCatch (ss : List Stmt) (handler : Option CatchClause)
    (finalizer : Option (List Stmt)) :
    (tryCatch ss handler finalizer).toJson =
      variant "Try" (.obj [("block", .arr (stmtsToJson ss)),
        ("handler", match handler with | some h => h.toJson | none => .null),
        ("finalizer",
          match finalizer with | some ss => .arr (stmtsToJson ss) | none => .null)]) := by
  cases handler <;> cases finalizer <;> rfl

mutual
/-- An expression is read back as it was written. -/
theorem Expr.reads (e : Expr) : Reads expr? e.toJson e := by
  match e with
  | .ident name => exact .variant .pure
  | .this | .super | .null => exact ⟨trivial, fun n _ => by cases n <;> rfl⟩
  | .bool value => exact .variant .pure
  | .num text => exact .variant .pure
  | .str value => exact .variant .pure
  | .regex pattern flags =>
    exact .variant <| .record regex? <| .fields <| .bind .pure <| .bind .pure .pure
  | .template quasis exprs => exact .variant ((exprs_readEach exprs).template quasis).map
  | .taggedTemplate tag quasis exprs =>
    exact .variant <| .record taggedTemplate? <| .fields <| .bind tag.reads <|
      .bind ((exprs_readEach exprs).template quasis) .pure
  | .array elems =>
    have helems : Reads elemExprs? _ elems := (elems_readEach elems).array fun _ => rfl
    exact .variant helems.map
  | .object props =>
    have hprops : Reads objectProps? _ props := (objectProps_readEach props).array fun _ => rfl
    exact .variant hprops.map
  | .function func => exact .variant func.reads.map
  | .class decl => exact .variant decl.reads.map
  | .member obj name =>
    have hkey : Reads accessKey? (variant "Ident" (.str name)) (.inl name) := .variant .pure
    exact .variant <| .record access? <| .fields <| .bind obj.reads <| .bind hkey .pure
  | .index obj key =>
    have hkey : Reads accessKey? (variant "Computed" key.toJson) (.inr key) :=
      .variant key.reads.map
    exact .variant <| .record access? <| .fields <| .bind obj.reads <| .bind hkey .pure
  | .call callee args => exact .variant ((exprs_readEach args).application callee.reads).map
  | .new callee args => exact .variant ((exprs_readEach args).application callee.reads).map
  | .unary op arg =>
    exact .variant <| .record unary? <| .fields <| .bind .pure <| .bind arg.reads .pure
  | .update op isPrefix arg =>
    exact .variant <| .record update? <| .fields <| .bind .pure <| .bind .pure <|
      .bind arg.reads .pure
  | .binary op left right =>
    exact .variant <| .record binary? <| .fields <| .bind .pure <| .bind left.reads <|
      .bind right.reads .pure
  | .conditional test consequent alternate =>
    exact .variant <| .record conditional? <| .fields <| .bind test.reads <|
      .bind consequent.reads <|
        .bind alternate.reads .pure
  | .assign op target value span =>
    exact .variant <| .record assign? <| .fields <| .bind .pure <| .bind target.reads <|
      .bind value.reads <|
        .bind span.reads .pure
  | .seq exprs => exact .variant (exprs_readEach exprs).exprs.map
  | .spread arg => exact .variant arg.reads.map
  | .await arg => exact .variant arg.reads.map
  | .yield arg delegate =>
    exact .variant <| .record yield? <| .fields <| .bind (optExpr_reads arg) <| .bind .pure .pure
  | .paren inner => exact .variant inner.reads.map
  | .cast inner type optional span =>
    exact .variant <| .record cast? <| .fields <| .bind inner.reads <| .bind type.reads <|
      .bind .pure <|
        .bind span.reads .pure

theorem exprs_readEach (es : List Expr) : ReadEach expr? (exprsToJson es) es := by
  match es with
  | [] => exact .nil
  | e :: es => exact .cons e.reads (exprs_readEach es)

theorem optExpr_reads (e : Option Expr) :
    Reads (fun n => nullable (expr? n)) (optExprToJson e) e := by
  match e with
  | some e => exact e.reads.nullable fun n => by cases n <;> rfl
  | none => exact .null

theorem elems_readEach (es : List (Option Expr)) :
    ReadEach (fun n => nullable (expr? n)) (elemsToJson es) es := by
  match es with
  | [] => exact .nil
  | some e :: es =>
    exact .cons (e.reads.nullable fun n => by cases n <;> rfl) (elems_readEach es)
  | none :: es => exact .cons .null (elems_readEach es)

theorem PropKey.reads (key : PropKey) : Reads propKey? key.toJson key := by
  match key with
  | .ident name => exact .variant .pure
  | .str value => exact .variant .pure
  | .num text => exact .variant .pure
  | .computed e => exact .variant e.reads.map

theorem objectProps_readEach (ps : List ObjectProp) :
    ReadEach objectProp? (objectPropsToJson ps) ps := by
  match ps with
  | [] => exact .nil
  | p :: ps => exact .cons p.reads (objectProps_readEach ps)

theorem ObjectProp.reads (p : ObjectProp) : Reads objectProp? p.toJson p := by
  match p with
  | .keyValue key value shorthand =>
    exact .variant <| .record keyValue? <| .fields <| .bind key.reads <| .bind value.reads <|
      .bind .pure .pure
  | .method key func =>
    exact .variant <| .record objectMethod? <| .fields <| .bind key.reads <| .bind func.reads .pure
  | .spread arg => exact .variant arg.reads.map

theorem AssignTarget.reads (target : AssignTarget) :
    Reads assignTarget? target.toJson target := by
  match target with
  | .pattern p => exact .variant p.reads.map
  | .expr e => exact .variant e.reads.map

theorem Pattern.reads (p : Pattern) : Reads pattern? p.toJson p := by
  match p with
  | .ident name => exact .variant .pure
  | .object props =>
    have hprops : Reads patternProps? _ props := (patternProps_readEach props).array fun _ => rfl
    exact .variant hprops.map
  | .array elems =>
    have helems : Reads elemPatterns? _ elems := (patterns_readEach elems).array fun _ => rfl
    exact .variant helems.map
  | .default left right =>
    exact .variant <| .record defaultPattern? <| .fields <| .bind left.reads <|
      .bind right.reads .pure
  | .rest inner => exact .variant inner.reads.map

theorem patterns_readEach (ps : List (Option Pattern)) :
    ReadEach (fun n => nullable (pattern? n)) (patternsToJson ps) ps := by
  match ps with
  | [] => exact .nil
  | some p :: ps =>
    exact .cons (p.reads.nullable fun n => by cases n <;> rfl) (patterns_readEach ps)
  | none :: ps => exact .cons .null (patterns_readEach ps)

theorem patternProps_readEach (ps : List PatternProp) :
    ReadEach patternProp? (patternPropsToJson ps) ps := by
  match ps with
  | [] => exact .nil
  | p :: ps => exact .cons p.reads (patternProps_readEach ps)

theorem PatternProp.reads (p : PatternProp) : Reads patternProp? p.toJson p := by
  match p with
  | .keyValue key value shorthand =>
    exact .variant <| .record keyPattern? <| .fields <| .bind key.reads <| .bind value.reads <|
      .bind .pure .pure
  | .rest inner => exact .variant inner.reads.map

theorem Param.reads (p : Param) : Reads param? p.toJson p := by
  match p with
  | ⟨pattern, type, optional⟩ =>
    exact .record param? <| .fields <| .bind pattern.reads <| .bind (optType_reads type) <|
      .bind .pure .pure

theorem params_readEach (ps : List Param) : ReadEach param? (paramsToJson ps) ps := by
  match ps with
  | [] => exact .nil
  | p :: ps => exact .cons p.reads (params_readEach ps)

theorem FunctionBody.reads (body : FunctionBody) : Reads functionBody? body.toJson body := by
  match body with
  | .block ss => exact .variant (stmts_readEach ss).stmts.map
  | .expr value => exact .variant value.reads.map

theorem Function.reads (func : Function) : Reads function? func.toJson func := by
  match func with
  | ⟨id, params, body, returnType, typeParams, isAsync, isArrow, isGenerator, span⟩ =>
    have hparams : Reads params? _ params := (params_readEach params).array fun _ => rfl
    exact .record function? <| .fields <| .bind (optString_reads id) <| .bind hparams <|
      .bind body.reads <|
      .bind (optType_reads returnType) <| .bind (declaredParams_reads typeParams) <|
      .bind .pure <| .bind .pure <| .bind .pure <| .bind span.reads .pure

theorem ClassMember.reads (m : ClassMember) : Reads classMember? m.toJson m := by
  match m with
  | .method key kind isStatic func =>
    exact .variant <| .record classMethod? <| .fields <| .bind key.reads <| .bind kind.reads <|
      .bind .pure <|
        .bind func.reads .pure
  | .property key type value isStatic =>
    exact .variant <| .record classProperty? <| .fields <| .bind key.reads <|
      .bind (optType_reads type) <|
        .bind (optExpr_reads value) <| .bind .pure .pure

theorem members_readEach (ms : List ClassMember) : ReadEach classMember? (membersToJson ms) ms := by
  match ms with
  | [] => exact .nil
  | m :: ms => exact .cons m.reads (members_readEach ms)

theorem Class.reads (decl : Class) : Reads class? decl.toJson decl := by
  match decl with
  | ⟨id, superClass, typeParams, body, span⟩ =>
    have hbody : Reads classMembers? _ body := (members_readEach body).array fun _ => rfl
    exact .record class? <| .fields <| .bind (optString_reads id) <|
      .bind (optExpr_reads superClass) <|
      .bind (declaredParams_reads typeParams) <| .bind hbody <| .bind span.reads .pure

theorem VarDecl.reads (decl : VarDecl) : Reads varDecl? decl.toJson decl := by
  match decl with
  | ⟨kind, declarators, span⟩ =>
    have hdeclarators : Reads declarators? _ declarators :=
      (declarators_readEach declarators).array fun _ => rfl
    exact .record varDecl? <| .fields <| .bind kind.reads <| .bind hdeclarators <|
      .bind span.reads .pure

theorem declarators_readEach (ds : List Declarator) :
    ReadEach declarator? (declaratorsToJson ds) ds := by
  match ds with
  | [] => exact .nil
  | d :: ds => exact .cons d.reads (declarators_readEach ds)

theorem Declarator.reads (d : Declarator) : Reads declarator? d.toJson d := by
  match d with
  | ⟨id, type, init, span⟩ =>
    exact .record declarator? <| .fields <| .bind id.reads <| .bind (optType_reads type) <|
      .bind (optExpr_reads init) <| .bind span.reads .pure

theorem ForInit.reads (i : ForInit) : Reads forInit? i.toJson i := by
  match i with
  | .varDecl decl => exact .variant decl.reads.map
  | .expr value => exact .variant value.reads.map

theorem ForHead.reads (head : ForHead) : Reads forHead? head.toJson head := by
  match head with
  | .varDecl decl => exact .variant decl.reads.map
  | .target target => exact .variant target.reads.map

theorem CatchClause.reads (clause : CatchClause) : Reads catchClause? clause.toJson clause := by
  match clause with
  | ⟨some param, body⟩ =>
    have hparam := param.reads.nullable fun n => by cases n <;> rfl
    exact .record catchClause? <| .fields <| .bind hparam <| .bind (stmts_readEach body).stmts .pure
  | ⟨none, body⟩ =>
    exact .record catchClause? <| .fields <| .bind .pure <| .bind (stmts_readEach body).stmts .pure

theorem cases_readEach (cs : List SwitchCase) : ReadEach switchCase? (casesToJson cs) cs := by
  match cs with
  | [] => exact .nil
  | c :: cs => exact .cons c.reads (cases_readEach cs)

theorem SwitchCase.reads (c : SwitchCase) : Reads switchCase? c.toJson c := by
  match c with
  | ⟨test, consequent⟩ =>
    exact .record switchCase? <| .fields <| .bind (optExpr_reads test) <|
      .bind (stmts_readEach consequent).stmts .pure

theorem stmts_readEach (ss : List Stmt) : ReadEach stmt? (stmtsToJson ss) ss := by
  match ss with
  | [] => exact .nil
  | s :: ss => exact .cons s.reads (stmts_readEach ss)

theorem optStmt_reads (s : Option Stmt) :
    Reads (fun n => nullable (stmt? n)) (optStmtToJson s) s := by
  match s with
  | some s => exact s.reads.nullable fun n => by cases n <;> rfl
  | none => exact .null

/-- A statement is read back as it was written. -/
theorem Stmt.reads (s : Stmt) : Reads stmt? s.toJson s := by
  match s with
  | .expr value => exact .variant value.reads.map
  | .varDecl decl => exact .variant decl.reads.map
  | .function func => exact .variant func.reads.map
  | .class decl => exact .variant decl.reads.map
  | .ret arg => exact .variant (optExpr_reads arg).map
  | .ifElse test consequent alternate =>
    exact .variant <| .record ifElse? <| .fields <| .bind test.reads <| .bind consequent.reads <|
        .bind (optStmt_reads alternate) .pure
  | .block ss => exact .variant (stmts_readEach ss).stmts.map
  | .throw arg => exact .variant arg.reads.map
  | .forLoop (some init) test update body =>
    have hinit := init.reads.nullable fun n => by cases n <;> rfl
    exact .variant <| .record forLoop? <| .fields <| .bind hinit <| .bind (optExpr_reads test) <|
        .bind (optExpr_reads update) <| .bind body.reads .pure
  | .forLoop none test update body =>
    exact .variant <| .record forLoop? <| .fields <| .bind .pure <| .bind (optExpr_reads test) <|
        .bind (optExpr_reads update) <| .bind body.reads .pure
  | .forIn left right body =>
    exact .variant <| .record forIn? <| .fields <| .bind left.reads <| .bind right.reads <|
      .bind body.reads .pure
  | .forOf left right body isAwait =>
    exact .variant <| .record forOf? <| .fields <| .bind left.reads <| .bind right.reads <|
      .bind body.reads <|
        .bind .pure .pure
  | .while test body =>
    exact .variant <| .record while? <| .fields <| .bind test.reads <| .bind body.reads .pure
  | .doWhile body test =>
    exact .variant <| .record doWhile? <| .fields <| .bind body.reads <| .bind test.reads .pure
  | .tryCatch ss handler finalizer =>
    rw [Stmt.toJson_tryCatch]
    exact .variant <| .record tryCatch? <| .fields <| .bind (stmts_readEach ss).stmts <|
      .bind (handler_reads handler) <|
        .bind (finalizer_reads finalizer) .pure
  | .switch discriminant cases =>
    have hcases : Reads switchCases? _ cases := (cases_readEach cases).array fun _ => rfl
    exact .variant <| .record switch? <| .fields <| .bind discriminant.reads <| .bind hcases .pure
  | .break label => exact .variant (optString_reads label).map
  | .continue label => exact .variant (optString_reads label).map
  | .labeled label body =>
    exact .variant <| .record labeled? <| .fields <| .bind .pure <| .bind body.reads .pure
  | .empty => exact ⟨trivial, fun n _ => by cases n <;> rfl⟩
  | .typeAlias decl => exact .variant decl.reads.map
  | .interface decl => exact .variant decl.reads.map
  | .import decl => exact .variant decl.reads.map
  | .export declaration specifiers source kind =>
    exact .variant <| .record export? <| .fields <| .bind (optStmt_reads declaration) <|
        .bind (exportSpecifiers_reads specifiers) <| .bind (optString_reads source) <|
        .bind kind.reads .pure
  | .exportDefault value => exact .variant value.reads.map

theorem handler_reads (handler : Option CatchClause) :
    Reads (fun n => nullable (catchClause? n))
      (match handler with | some h => h.toJson | none => .null) handler := by
  match handler with
  | some clause => exact clause.reads.nullable fun n => by cases n <;> rfl
  | none => exact .null

theorem finalizer_reads (finalizer : Option (List Stmt)) :
    Reads (fun n => nullable (stmts? n))
      (match finalizer with | some ss => .arr (stmtsToJson ss) | none => .null) finalizer := by
  match finalizer with
  | some ss => exact (stmts_readEach ss).stmts.nullable fun n => by cases n <;> rfl
  | none => exact .null
end

theorem Program.reads (p : Program) : Reads program? p.toJson p :=
  .record program? <| .fields <| .bind .pure <| .bind (stmts_readEach p.body).stmts .pure

namespace Wire

/-- Reading inverts writing, for whole units and for each kind of tree in them. -/
theorem ofJson?_toJson :
    (∀ p : Program, Program.ofJson? p.toJson = some p) ∧
      (∀ s : Stmt, Stmt.ofJson? s.toJson = some s) ∧
      (∀ e : Expr, Expr.ofJson? e.toJson = some e) ∧
      (∀ p : Pattern, Pattern.ofJson? p.toJson = some p) ∧
      ∀ type : StaticType, StaticType.ofJson? type.toJson = some type :=
  ⟨fun p => p.reads.2 _ (Nat.le_refl _), fun s => s.reads.2 _ (Nat.le_refl _),
    fun e => e.reads.2 _ (Nat.le_refl _), fun p => p.reads.2 _ (Nat.le_refl _),
    fun type => type.reads.2 _ (Nat.le_refl _)⟩

end Wire

end TypeGuard
