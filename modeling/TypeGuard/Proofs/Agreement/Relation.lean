import TypeGuard.Proofs.Agreement.Frame
import TypeGuard.Proofs.Resolution.Relation

/-!
# Checks of declarations and reassignments

`Expr.Agrees cx d F Γ e out` says that `out` is the expression `e`, visited at the depth `d` in the
frame `F` within the frames `Γ`, that every check of a declared initial value is that of the
declared type in the frame of the declaration, and that every check of an assigned value is that of
a type which the name is seen with from some frame. Both checks are the same where no type parameter
in between has a name that the type mentions. Other checks are passed over, as in `Expr.Scoped`.
-/

namespace TypeGuard

open Instrumentation

/-- The check of a value that is assigned to a name in the frame `F` within `Γ`, where the name has
the type by a declaration in the frame `G`. -/
structure Reassigned (F : Frame) (Γ : List Frame) (name : String) (check : Combinator) (G : Frame)
    (type : StaticType) : Prop where
  seenFrom : Frame.SeenFrom name type G (F :: Γ)
  /-- A frame that binds the name and has recorded it is that of the declaration if no frame further
  in binds the name. -/
  resolved : ∀ H, Frame.BoundIn name H (F :: Γ) → name ∈ H.region.recorded → H = G
  lowered : type.lower F.env none = .ok check
  /-- It is the check of the declaration, unless a type parameter in between captures a name. -/
  agrees : ∃ ps, F.env = G.env.child ps ∧
    ((∀ p ∈ ps, ¬ type.Mentions G.env p.name) → type.lower G.env none = .ok check)

variable (cx : Setting)

/-- An assigned value as it is, or with the check of a declared type of the name. -/
def AssignedAgrees (F : Frame) (Γ : List Frame) (op : String) (target : AssignTarget)
    (value out : Expr) : Prop :=
  out = value ∨ op = "=" ∧ ∃ name check G type, target = .pattern (.ident name) ∧
    Reassigned F Γ name check G type ∧
    out = value.asserted cx.names.assert (Combinator.toExpr cx.names.runtime check) name

/-- An initial value as it is, or with the check of the declared type. -/
def InitAgrees (env : Environment) (type : Option StaticType) (label : String)
    (init out : Option Expr) : Prop :=
  out = init ∨ ∃ declared value check, type = some declared ∧ init = some value ∧
    declared.lower env none = .ok check ∧
    out = some (value.asserted cx.names.assert (Combinator.toExpr cx.names.runtime check) label)

mutual
def Expr.Agrees (d : Nat) (F : Frame) (Γ : List Frame) (e : Expr) : Expr → Prop :=
  UnlessDeep d e <|
    match e with
    | .ident _ | .this | .super | .null | .bool _ | .num _ | .str _ | .regex _ _ =>
      fun out => out = e
    | .template quasis exprs => fun out =>
      ∃ fs, out = .template quasis fs ∧ exprsAgree (d + 1) F Γ exprs fs
    | .taggedTemplate tag quasis exprs => fun out => ∃ f fs, out = .taggedTemplate f quasis fs ∧
      tag.Agrees (d + 1) F Γ f ∧ exprsAgree (d + 1) F Γ exprs fs
    | .array elems => fun out => ∃ fs, out = .array fs ∧ elemsAgree (d + 1) F Γ elems fs
    | .object props => fun out => ∃ fs, out = .object fs ∧ objectPropsAgree (d + 1) F Γ props fs
    | .function func => fun out => ∃ f, out = .function f ∧
      func.Agrees (d + 1) (F.inner (.ownName func.id)) (F :: Γ) f
    | .class decl => fun out => ∃ f, out = .class f ∧
      decl.Agrees (d + 1) (F.inner (.ownName decl.id)) (F :: Γ) f
    | .member obj name => fun out => ∃ f, out = .member f name ∧ obj.Agrees (d + 1) F Γ f
    | .index obj key => fun out => ∃ f g, out = .index f g ∧ obj.Agrees (d + 1) F Γ f ∧
      key.Agrees (d + 1) F Γ g
    | .call callee args => fun out => ∃ f fs, out = .call f fs ∧ callee.Agrees (d + 1) F Γ f ∧
      exprsAgree (d + 1) F Γ args fs
    | .new callee args => fun out => ∃ f fs, out = .new f fs ∧ callee.Agrees (d + 1) F Γ f ∧
      exprsAgree (d + 1) F Γ args fs
    | .unary op arg => fun out => ∃ f, out = .unary op f ∧ arg.Agrees (d + 1) F Γ f
    | .update op isPrefix arg => fun out => ∃ f, out = .update op isPrefix f ∧
      arg.Agrees (d + 1) F Γ f
    | .binary op left right => fun out => ∃ f g, out = .binary op f g ∧
      left.Agrees (d + 1) F Γ f ∧ right.Agrees (d + 1) F Γ g
    | .conditional test consequent alternate => fun out => ∃ f g h, out = .conditional f g h ∧
      test.Agrees (d + 1) F Γ f ∧ consequent.Agrees (d + 1) F Γ g ∧
        alternate.Agrees (d + 1) F Γ h
    | .assign op target value span => fun out => ∃ t f checked, out = .assign op t checked span ∧
      target.Agrees (d + 1) F Γ t ∧ value.Agrees (d + 1) F Γ f ∧
        AssignedAgrees cx F Γ op target f checked
    | .seq exprs => fun out => ∃ fs, out = .seq fs ∧ exprsAgree (d + 1) F Γ exprs fs
    | .spread arg => fun out => ∃ f, out = .spread f ∧ arg.Agrees (d + 1) F Γ f
    | .await arg => fun out => ∃ f, out = .await f ∧ arg.Agrees (d + 1) F Γ f
    | .yield arg delegate => fun out => ∃ f, out = .yield f delegate ∧
      optExprAgrees (d + 1) F Γ arg f
    | .paren inner => fun out => ∃ f, out = .paren f ∧ inner.Agrees (d + 1) F Γ f
    | .cast inner type _ _ => fun out => (∃ target, out = .path target) ∨
      ∃ f, inner.Agrees (d + 1) F Γ f ∧ (out = f ∨ f.Checked cx.names type inner.label out)

def exprsAgree (d : Nat) (F : Frame) (Γ : List Frame) : List Expr → List Expr → Prop
  | [] => fun out => out = []
  | e :: es => fun out => ∃ f fs, out = f :: fs ∧ e.Agrees d F Γ f ∧ exprsAgree d F Γ es fs

def optExprAgrees (d : Nat) (F : Frame) (Γ : List Frame) :
    Option Expr → Option Expr → Prop
  | some e => fun out => ∃ f, out = some f ∧ e.Agrees d F Γ f
  | none => fun out => out = none

def elemsAgree (d : Nat) (F : Frame) (Γ : List Frame) :
    List (Option Expr) → List (Option Expr) → Prop
  | [] => fun out => out = []
  | some e :: es => fun out =>
    ∃ f fs, out = some f :: fs ∧ e.Agrees d F Γ f ∧ elemsAgree d F Γ es fs
  | none :: es => fun out => ∃ fs, out = none :: fs ∧ elemsAgree d F Γ es fs

def PropKey.Agrees (d : Nat) (F : Frame) (Γ : List Frame) : PropKey → PropKey → Prop
  | .computed e => fun out => ∃ f, out = .computed f ∧ e.Agrees d F Γ f
  | .ident name => fun out => out = .ident name
  | .str value => fun out => out = .str value
  | .num text => fun out => out = .num text

def ObjectProp.Agrees (d : Nat) (F : Frame) (Γ : List Frame) :
    ObjectProp → ObjectProp → Prop
  | .keyValue key value shorthand => fun out => ∃ f g, out = .keyValue f g shorthand ∧
    key.Agrees d F Γ f ∧ value.Agrees d F Γ g
  | .method key func => fun out => ∃ f g, out = .method f g ∧ key.Agrees d F Γ f ∧
    func.Agrees d F Γ g
  | .spread arg => fun out => ∃ f, out = .spread f ∧ arg.Agrees d F Γ f

def objectPropsAgree (d : Nat) (F : Frame) (Γ : List Frame) :
    List ObjectProp → List ObjectProp → Prop
  | [] => fun out => out = []
  | p :: ps => fun out => ∃ f fs, out = f :: fs ∧ p.Agrees d F Γ f ∧
    objectPropsAgree d F Γ ps fs

def AssignTarget.Agrees (d : Nat) (F : Frame) (Γ : List Frame) :
    AssignTarget → AssignTarget → Prop
  | .pattern target => fun out => ∃ f, out = .pattern f ∧ target.Agrees d F Γ f
  | .expr target => fun out => ∃ f, out = .expr f ∧ target.Agrees d F Γ f

def Pattern.Agrees (d : Nat) (F : Frame) (Γ : List Frame) : Pattern → Pattern → Prop
  | .ident name => fun out => out = .ident name
  | .object props => fun out => ∃ fs, out = .object fs ∧ patternPropsAgree d F Γ props fs
  | .array elems => fun out => ∃ fs, out = .array fs ∧ patternsAgree d F Γ elems fs
  | .default left right => fun out => ∃ f g, out = .default f g ∧ left.Agrees d F Γ f ∧
    right.Agrees d F Γ g
  | .rest inner => fun out => ∃ f, out = .rest f ∧ inner.Agrees d F Γ f

def PatternProp.Agrees (d : Nat) (F : Frame) (Γ : List Frame) :
    PatternProp → PatternProp → Prop
  | .keyValue key value shorthand => fun out => ∃ f g, out = .keyValue f g shorthand ∧
    key.Agrees d F Γ f ∧ value.Agrees d F Γ g
  | .rest inner => fun out => ∃ f, out = .rest f ∧ inner.Agrees d F Γ f

def patternPropsAgree (d : Nat) (F : Frame) (Γ : List Frame) :
    List PatternProp → List PatternProp → Prop
  | [] => fun out => out = []
  | p :: ps => fun out => ∃ f fs, out = f :: fs ∧ p.Agrees d F Γ f ∧
    patternPropsAgree d F Γ ps fs

def patternsAgree (d : Nat) (F : Frame) (Γ : List Frame) :
    List (Option Pattern) → List (Option Pattern) → Prop
  | [] => fun out => out = []
  | some p :: ps => fun out =>
    ∃ f fs, out = some f :: fs ∧ p.Agrees d F Γ f ∧ patternsAgree d F Γ ps fs
  | none :: ps => fun out => ∃ fs, out = none :: fs ∧ patternsAgree d F Γ ps fs

/-- A parameter is recorded before its pattern is visited. -/
def paramsAgree (d : Nat) (F : Frame) (Γ : List Frame) :
    List Param → List Param → Prop
  | [] => fun out => out = []
  | ⟨pattern, _, _⟩ :: ps => fun out => ∃ f fs, out = ⟨f, none, false⟩ :: fs ∧
    pattern.Agrees d (F.record pattern.boundNames) Γ f ∧
      paramsAgree d (F.record pattern.boundNames) Γ ps fs

/-- The names of `var` are recorded before the statements, those of functions and classes after
them. -/
def FunctionBody.Agrees (d : Nat) (F : Frame) (Γ : List Frame) :
    FunctionBody → FunctionBody → Prop
  | .block stmts => fun out => ∃ fs, out = .block fs ∧
    ListOf cx (eachAgree d (F.record (varNames stmts ++ declaredNames stmts)) Γ stmts) fs
  | .expr value => fun out => ∃ f, out = .expr f ∧ value.Agrees d F Γ f

/-- The parameters are visited in a frame of their own, the body in the frame with all names of the
function; both have its type parameters. -/
def Function.Agrees (d : Nat) (F : Frame) (Γ : List Frame) : Function → Function → Prop
  | ⟨_, params, body, _, typeParams, isAsync, isArrow, _, _⟩ => fun out => ∃ checks f check,
    paramsAgree d (F.generic (.ofParams params) typeParams) (F :: Γ) params out.params ∧
      body.Agrees d (F.generic (.ofBody params body) typeParams) (F :: Γ) f ∧
        cx.BodyChecked isArrow isAsync checks f check out.body

def ClassMember.Agrees (d : Nat) (F : Frame) (Γ : List Frame) :
    ClassMember → ClassMember → Prop
  | .method key kind isStatic func => fun out => ∃ f g, out = .method f kind isStatic g ∧
    key.Agrees d F Γ f ∧ func.Agrees d F Γ g
  | .property key _ value isStatic => fun out => ∃ f g, out = .property f none g isStatic ∧
    key.Agrees d F Γ f ∧ optExprAgrees d F Γ value g

def membersAgree (d : Nat) (F : Frame) (Γ : List Frame) :
    List ClassMember → List ClassMember → Prop
  | [] => fun out => out = []
  | m :: ms => fun out => ∃ f fs, out = f :: fs ∧ m.Agrees d F Γ f ∧ membersAgree d F Γ ms fs

/-- The type parameters of a class hold for the class that it extends, too. -/
def Class.Agrees (d : Nat) (F : Frame) (Γ : List Frame) : Class → Class → Prop
  | ⟨id, superClass, typeParams, body, span⟩ => fun out => ∃ f fs, out = ⟨id, f, [], fs, span⟩ ∧
    optExprAgrees d (F.generic (.fresh []) typeParams) (F :: Γ) superClass f ∧
      membersAgree d (F.generic (.fresh []) typeParams) (F :: Γ) body fs

/-- A declarator is recorded after its initial value and its pattern were visited. -/
def declaratorsAgree (d : Nat) (kind : VarKind) (F : Frame)
    (Γ : List Frame) : List Declarator → List Declarator → Prop
  | [] => fun out => out = []
  | ⟨id, type, init, span⟩ :: ds => fun out => ∃ f g checked fs,
    out = ⟨f, none, checked, span⟩ :: fs ∧ id.Agrees d F Γ f ∧
      optExprAgrees d F Γ init g ∧ InitAgrees cx F.env type id.label g checked ∧
        declaratorsAgree d kind (F.record id.boundNames) Γ ds fs

def VarDecl.Agrees (d : Nat) (F : Frame) (Γ : List Frame) :
    VarDecl → VarDecl → Prop
  | ⟨kind, declarators, span⟩ => fun out => ∃ fs, out = ⟨kind, fs, span⟩ ∧
    declaratorsAgree d kind F Γ declarators fs

def ForInit.Agrees (d : Nat) (F : Frame) (Γ : List Frame) :
    ForInit → ForInit → Prop
  | .varDecl decl => fun out => ∃ f, out = .varDecl f ∧ decl.Agrees d F Γ f
  | .expr value => fun out => ∃ f, out = .expr f ∧ value.Agrees d F Γ f

def optForInitAgrees (d : Nat) (F : Frame) (Γ : List Frame) :
    Option ForInit → Option ForInit → Prop
  | some i => fun out => ∃ f, out = some f ∧ i.Agrees d F Γ f
  | none => fun out => out = none

def ForHead.Agrees (d : Nat) (F : Frame) (Γ : List Frame) :
    ForHead → ForHead → Prop
  | .varDecl decl => fun out => ∃ f, out = .varDecl f ∧ decl.Agrees d F Γ f
  | .target target => fun out => ∃ f, out = .target f ∧ target.Agrees d F Γ f

def handlerAgrees (d : Nat) (F : Frame) (Γ : List Frame) :
    Option CatchClause → Option CatchClause → Prop
  | some ⟨some param, stmts⟩ => fun out => ∃ f fs, out = some ⟨some f, fs⟩ ∧
    param.Agrees d (F.inner (.ofCatch param stmts)) (F :: Γ) f ∧
      ListOf cx (eachAgree d
        ((F.inner (.ofCatch param stmts)).record (declaredNames stmts)) (F :: Γ) stmts) fs
  | some ⟨none, stmts⟩ => fun out => ∃ fs, out = some ⟨none, fs⟩ ∧
    ListOf cx (eachAgree d
      ((F.inner (.ofBlock stmts)).record (declaredNames stmts)) (F :: Γ) stmts) fs
  | none => fun out => out = none

def finalizerAgrees (d : Nat) (F : Frame) (Γ : List Frame) :
    Option (List Stmt) → Option (List Stmt) → Prop
  | some stmts => fun out => ∃ fs, out = some fs ∧
    ListOf cx (eachAgree d
      ((F.inner (.ofBlock stmts)).record (declaredNames stmts)) (F :: Γ) stmts) fs
  | none => fun out => out = none

/-- Each case records the functions and classes that it declares when it is visited itself. -/
def casesAgree (d : Nat) (F : Frame) (Γ : List Frame) :
    List SwitchCase → List SwitchCase → Prop
  | [] => fun out => out = []
  | ⟨test, stmts⟩ :: cs => fun out => ∃ f fs gs, out = ⟨f, fs⟩ :: gs ∧
    optExprAgrees d F Γ test f ∧
      ListOf cx (eachAgree d (F.record (declaredNames stmts)) Γ stmts) fs ∧
        casesAgree d (F.record (stmtsRecordedNames d stmts)) Γ cs gs

def eachAgree (d : Nat) (F : Frame) (Γ : List Frame) :
    List Stmt → List Visited → Prop
  | [] => fun out => out = []
  | s :: ss => fun out => ∃ v vs, out = v :: vs ∧ s.Agrees d F Γ v.stmt ∧
    eachAgree d (F.record (s.recordedNames d)) Γ ss vs

def alternateAgrees (d : Nat) (F : Frame) (Γ : List Frame) :
    Option Stmt → Option Stmt → Prop
  | some s => fun out => ∃ f, out = some (orEmptyBlock f) ∧ s.Agrees d F Γ f
  | none => fun out => out = none

/-- A statement of the list that the frame `F` is that of. -/
def Stmt.Agrees (d : Nat) (F : Frame) (Γ : List Frame) (s : Stmt) :
    Option Stmt → Prop :=
  UnlessDeep d (some s) <|
    match s with
    | .expr value => fun out => ∃ f, out = some (.expr f) ∧ value.Agrees (d + 1) F Γ f
    | .varDecl decl => fun out => ∃ f, out = some (.varDecl f) ∧ decl.Agrees (d + 1) F Γ f
    | .function func => fun out => ∃ f, out = some (.function f) ∧
      func.Agrees (d + 1) F Γ f
    | .class decl => fun out => ∃ f, out = some (.class f) ∧ decl.Agrees (d + 1) F Γ f
    | .ret arg => fun out => ∃ f, out = some (.ret f) ∧ optExprAgrees (d + 1) F Γ arg f
    | .ifElse test consequent alternate => fun out =>
      ∃ f g h, out = some (.ifElse f (orEmptyBlock g) h) ∧ test.Agrees (d + 1) F Γ f ∧
        consequent.Agrees (d + 1) F Γ g ∧
        alternateAgrees (d + 1) (F.record (consequent.recordedNames (d + 1))) Γ alternate h
    | .block stmts => fun out => ∃ fs, out = some (.block fs) ∧
      ListOf cx (eachAgree (d + 1)
        ((F.inner (.ofBlock stmts)).record (declaredNames stmts)) (F :: Γ) stmts) fs
    | .throw arg => fun out => ∃ f, out = some (.throw f) ∧ arg.Agrees (d + 1) F Γ f
    | .forLoop init test update body => fun out =>
      let names := (init.map ForInit.lexicalNames).getD []
      let recorded := (init.map ForInit.recordedNames).getD []
      let head := F.inner (.ofLoop names body)
      ∃ f g h b, out = some (.forLoop f g h (orEmptyBlock b)) ∧
        optForInitAgrees (d + 1) head (F :: Γ) init f ∧
        optExprAgrees (d + 1) (head.record recorded) (F :: Γ) test g ∧
        optExprAgrees (d + 1) (head.record recorded) (F :: Γ) update h ∧
        body.Agrees (d + 1) (head.record recorded) (F :: Γ) b
    | .forIn left right body => fun out =>
      let head := F.inner (.ofLoop left.lexicalNames body)
      ∃ f g b, out = some (.forIn f g (orEmptyBlock b)) ∧
        right.Agrees (d + 1) (F.inner (.fresh left.lexicalNames)) (F :: Γ) g ∧
        left.Agrees (d + 1) head (F :: Γ) f ∧
        body.Agrees (d + 1) (head.record left.recordedNames) (F :: Γ) b
    | .forOf left right body isAwait => fun out =>
      let head := F.inner (.ofLoop left.lexicalNames body)
      ∃ f g b, out = some (.forOf f g (orEmptyBlock b) isAwait) ∧
        right.Agrees (d + 1) (F.inner (.fresh left.lexicalNames)) (F :: Γ) g ∧
        left.Agrees (d + 1) head (F :: Γ) f ∧
        body.Agrees (d + 1) (head.record left.recordedNames) (F :: Γ) b
    | .while test body => fun out => ∃ f b, out = some (.while f (orEmptyBlock b)) ∧
      test.Agrees (d + 1) F Γ f ∧ body.Agrees (d + 1) F Γ b
    | .doWhile body test => fun out => ∃ f b, out = some (.doWhile (orEmptyBlock b) f) ∧
      body.Agrees (d + 1) F Γ b ∧
        test.Agrees (d + 1) (F.record (body.recordedNames (d + 1))) Γ f
    | .tryCatch stmts handler finalizer => fun out => ∃ fs f g, out = some (.tryCatch fs f g) ∧
      ListOf cx (eachAgree (d + 1)
        ((F.inner (.ofBlock stmts)).record (declaredNames stmts)) (F :: Γ) stmts) fs ∧
      handlerAgrees (d + 1) F Γ handler f ∧
      finalizerAgrees (d + 1) F Γ finalizer g
    | .switch discriminant cases => fun out => ∃ f gs, out = some (.switch f gs) ∧
      discriminant.Agrees (d + 1) F Γ f ∧
        casesAgree (d + 1) (F.inner (.ofCases cases)) (F :: Γ) cases gs
    | .labeled label body => fun out => ∃ b, out = some (.labeled label (orEmptyBlock b)) ∧
      body.Agrees (d + 1) F Γ b
    | .break _ | .continue _ | .empty => fun out => out = some s
    | .typeAlias decl => fun out => ∃ check : Combinator,
      out = some (.constDecl decl.id (check.toExpr cx.names.runtime) decl.span)
    | .interface decl => fun out => ∃ check : Combinator,
      out = some (.constDecl decl.id (check.toExpr cx.names.runtime) decl.span)
    | .import decl => fun out => out = decl.toValue?.map .import
    | .export (some declaration) specifiers source _ => fun out => ∃ f,
      out = f.map (fun f => .export (some f) specifiers source .value) ∧
        declaration.Agrees (d + 1) F Γ f
    | .export none specifiers source _ => fun out =>
      out = some (.export none specifiers source .value)
    | .exportDefault value => fun out => ∃ f, out = some (.exportDefault f) ∧
      value.Agrees (d + 1) F Γ f
end

end TypeGuard
