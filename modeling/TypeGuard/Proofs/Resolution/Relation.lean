import TypeGuard.Proofs.Insertion
import TypeGuard.Proofs.Resolution.Region

/-!
# Checks of reassignments in their regions

`Expr.Scoped cx P env d rs e out` says that `out` is the expression `e`, visited at the depth `d` in
the regions `rs`, and that every check which was put around an assigned value is that of a type
which the name has by `P` in the regions of the assignment. Other checks are passed over: assertions
around values, the checks of parameters in front of a body, and the wrapper of a returned value.
There is one such relation for every kind of tree; where a tree binds names, it tells the regions of
its parts.
-/

namespace TypeGuard

open Instrumentation

variable (cx : Setting)

/-- A tree visited at a depth; at the greatest depth it is left as it is. -/
def UnlessDeep {α : Type} (d : Nat) (unvisited : α) (visited : α → Prop) (out : α) : Prop :=
  (Limits.treeDepth ≤ d → out = unvisited) ∧ (d < Limits.treeDepth → visited out)

variable (P : String → StaticType → List Region → Prop)

/-- An assigned value, or the assertion that it is of a type which the name has. -/
def AssignedScoped (env : Environment) (rs : List Region) (op : String) (target : AssignTarget)
    (value out : Expr) : Prop :=
  out = value ∨ op = "=" ∧ ∃ name type check, target = .pattern (.ident name) ∧ P name type rs ∧
    type.lower env none = .ok check ∧
    out = value.asserted cx.names.assert (Combinator.toExpr cx.names.runtime check) name

mutual
def Expr.Scoped (env : Environment) (d : Nat) (rs : List Region) (e : Expr) : Expr → Prop :=
  UnlessDeep d e <|
    match e with
    | .ident _ | .this | .super | .null | .bool _ | .num _ | .str _ | .regex _ _ =>
      fun out => out = e
    | .template quasis exprs => fun out =>
      ∃ fs, out = .template quasis fs ∧ exprsScoped env (d + 1) rs exprs fs
    | .taggedTemplate tag quasis exprs => fun out => ∃ f fs, out = .taggedTemplate f quasis fs ∧
      tag.Scoped env (d + 1) rs f ∧ exprsScoped env (d + 1) rs exprs fs
    | .array elems => fun out => ∃ fs, out = .array fs ∧ elemsScoped env (d + 1) rs elems fs
    | .object props => fun out => ∃ fs, out = .object fs ∧ objectPropsScoped env (d + 1) rs props fs
    | .function func => fun out => ∃ f, out = .function f ∧
      func.Scoped env (d + 1) (.ownName func.id :: rs) f
    | .class decl => fun out => ∃ f, out = .class f ∧
      decl.Scoped env (d + 1) (.ownName decl.id :: rs) f
    | .member obj name => fun out => ∃ f, out = .member f name ∧ obj.Scoped env (d + 1) rs f
    | .index obj key => fun out => ∃ f g, out = .index f g ∧ obj.Scoped env (d + 1) rs f ∧
      key.Scoped env (d + 1) rs g
    | .call callee args => fun out => ∃ f fs, out = .call f fs ∧ callee.Scoped env (d + 1) rs f ∧
      exprsScoped env (d + 1) rs args fs
    | .new callee args => fun out => ∃ f fs, out = .new f fs ∧ callee.Scoped env (d + 1) rs f ∧
      exprsScoped env (d + 1) rs args fs
    | .unary op arg => fun out => ∃ f, out = .unary op f ∧ arg.Scoped env (d + 1) rs f
    | .update op isPrefix arg => fun out => ∃ f, out = .update op isPrefix f ∧
      arg.Scoped env (d + 1) rs f
    | .binary op left right => fun out => ∃ f g, out = .binary op f g ∧
      left.Scoped env (d + 1) rs f ∧ right.Scoped env (d + 1) rs g
    | .conditional test consequent alternate => fun out => ∃ f g h, out = .conditional f g h ∧
      test.Scoped env (d + 1) rs f ∧ consequent.Scoped env (d + 1) rs g ∧
        alternate.Scoped env (d + 1) rs h
    | .assign op target value span => fun out => ∃ t f checked, out = .assign op t checked span ∧
      target.Scoped env (d + 1) rs t ∧ value.Scoped env (d + 1) rs f ∧
        AssignedScoped cx P env rs op target f checked
    | .seq exprs => fun out => ∃ fs, out = .seq fs ∧ exprsScoped env (d + 1) rs exprs fs
    | .spread arg => fun out => ∃ f, out = .spread f ∧ arg.Scoped env (d + 1) rs f
    | .await arg => fun out => ∃ f, out = .await f ∧ arg.Scoped env (d + 1) rs f
    | .yield arg delegate => fun out => ∃ f, out = .yield f delegate ∧
      optExprScoped env (d + 1) rs arg f
    | .paren inner => fun out => ∃ f, out = .paren f ∧ inner.Scoped env (d + 1) rs f
    | .cast inner type _ _ => fun out => (∃ target, out = .path target) ∨
      ∃ f, inner.Scoped env (d + 1) rs f ∧ (out = f ∨ f.Checked cx.names type inner.label out)

def exprsScoped (env : Environment) (d : Nat) (rs : List Region) : List Expr → List Expr → Prop
  | [] => fun out => out = []
  | e :: es => fun out => ∃ f fs, out = f :: fs ∧ e.Scoped env d rs f ∧ exprsScoped env d rs es fs

def optExprScoped (env : Environment) (d : Nat) (rs : List Region) :
    Option Expr → Option Expr → Prop
  | some e => fun out => ∃ f, out = some f ∧ e.Scoped env d rs f
  | none => fun out => out = none

def elemsScoped (env : Environment) (d : Nat) (rs : List Region) :
    List (Option Expr) → List (Option Expr) → Prop
  | [] => fun out => out = []
  | some e :: es => fun out =>
    ∃ f fs, out = some f :: fs ∧ e.Scoped env d rs f ∧ elemsScoped env d rs es fs
  | none :: es => fun out => ∃ fs, out = none :: fs ∧ elemsScoped env d rs es fs

def PropKey.Scoped (env : Environment) (d : Nat) (rs : List Region) : PropKey → PropKey → Prop
  | .computed e => fun out => ∃ f, out = .computed f ∧ e.Scoped env d rs f
  | .ident name => fun out => out = .ident name
  | .str value => fun out => out = .str value
  | .num text => fun out => out = .num text

def ObjectProp.Scoped (env : Environment) (d : Nat) (rs : List Region) :
    ObjectProp → ObjectProp → Prop
  | .keyValue key value shorthand => fun out => ∃ f g, out = .keyValue f g shorthand ∧
    key.Scoped env d rs f ∧ value.Scoped env d rs g
  | .method key func => fun out => ∃ f g, out = .method f g ∧ key.Scoped env d rs f ∧
    func.Scoped env d rs g
  | .spread arg => fun out => ∃ f, out = .spread f ∧ arg.Scoped env d rs f

def objectPropsScoped (env : Environment) (d : Nat) (rs : List Region) :
    List ObjectProp → List ObjectProp → Prop
  | [] => fun out => out = []
  | p :: ps => fun out => ∃ f fs, out = f :: fs ∧ p.Scoped env d rs f ∧
    objectPropsScoped env d rs ps fs

def AssignTarget.Scoped (env : Environment) (d : Nat) (rs : List Region) :
    AssignTarget → AssignTarget → Prop
  | .pattern target => fun out => ∃ f, out = .pattern f ∧ target.Scoped env d rs f
  | .expr target => fun out => ∃ f, out = .expr f ∧ target.Scoped env d rs f

def Pattern.Scoped (env : Environment) (d : Nat) (rs : List Region) : Pattern → Pattern → Prop
  | .ident name => fun out => out = .ident name
  | .object props => fun out => ∃ fs, out = .object fs ∧ patternPropsScoped env d rs props fs
  | .array elems => fun out => ∃ fs, out = .array fs ∧ patternsScoped env d rs elems fs
  | .default left right => fun out => ∃ f g, out = .default f g ∧ left.Scoped env d rs f ∧
    right.Scoped env d rs g
  | .rest inner => fun out => ∃ f, out = .rest f ∧ inner.Scoped env d rs f

def PatternProp.Scoped (env : Environment) (d : Nat) (rs : List Region) :
    PatternProp → PatternProp → Prop
  | .keyValue key value shorthand => fun out => ∃ f g, out = .keyValue f g shorthand ∧
    key.Scoped env d rs f ∧ value.Scoped env d rs g
  | .rest inner => fun out => ∃ f, out = .rest f ∧ inner.Scoped env d rs f

def patternPropsScoped (env : Environment) (d : Nat) (rs : List Region) :
    List PatternProp → List PatternProp → Prop
  | [] => fun out => out = []
  | p :: ps => fun out => ∃ f fs, out = f :: fs ∧ p.Scoped env d rs f ∧
    patternPropsScoped env d rs ps fs

def patternsScoped (env : Environment) (d : Nat) (rs : List Region) :
    List (Option Pattern) → List (Option Pattern) → Prop
  | [] => fun out => out = []
  | some p :: ps => fun out =>
    ∃ f fs, out = some f :: fs ∧ p.Scoped env d rs f ∧ patternsScoped env d rs ps fs
  | none :: ps => fun out => ∃ fs, out = none :: fs ∧ patternsScoped env d rs ps fs

/-- A parameter is recorded before its pattern is visited. -/
def paramsScoped (env : Environment) (d : Nat) (r : Region) (rs : List Region) :
    List Param → List Param → Prop
  | [] => fun out => out = []
  | ⟨pattern, _, _⟩ :: ps => fun out => ∃ f fs, out = ⟨f, none, false⟩ :: fs ∧
    pattern.Scoped env d (r.record pattern.boundNames :: rs) f ∧
      paramsScoped env d (r.record pattern.boundNames) rs ps fs

/-- The names of `var` are recorded before the statements, those of functions and classes after
them. -/
def FunctionBody.Scoped (env : Environment) (d : Nat) (r : Region) (rs : List Region) :
    FunctionBody → FunctionBody → Prop
  | .block stmts => fun out => ∃ fs, out = .block fs ∧
    ListOf cx (eachScoped env d (r.record (varNames stmts ++ declaredNames stmts)) rs stmts) fs
  | .expr value => fun out => ∃ f, out = .expr f ∧ value.Scoped env d (r :: rs) f

/-- The parameters are visited in a region of their own, the body in the region with all names of
the function. -/
def Function.Scoped (env : Environment) (d : Nat) (rs : List Region) : Function → Function → Prop
  | ⟨_, params, body, _, typeParams, isAsync, isArrow, _, _⟩ => fun out => ∃ checks f check,
    paramsScoped (env.child typeParams) d (.ofParams params) rs params out.params ∧
      body.Scoped (env.child typeParams) d (.ofBody params body) rs f ∧
        cx.BodyChecked isArrow isAsync checks f check out.body

def ClassMember.Scoped (env : Environment) (d : Nat) (rs : List Region) :
    ClassMember → ClassMember → Prop
  | .method key kind isStatic func => fun out => ∃ f g, out = .method f kind isStatic g ∧
    key.Scoped env d rs f ∧ func.Scoped env d rs g
  | .property key _ value isStatic => fun out => ∃ f g, out = .property f none g isStatic ∧
    key.Scoped env d rs f ∧ optExprScoped env d rs value g

def membersScoped (env : Environment) (d : Nat) (rs : List Region) :
    List ClassMember → List ClassMember → Prop
  | [] => fun out => out = []
  | m :: ms => fun out => ∃ f fs, out = f :: fs ∧ m.Scoped env d rs f ∧ membersScoped env d rs ms fs

def Class.Scoped (env : Environment) (d : Nat) (rs : List Region) : Class → Class → Prop
  | ⟨id, superClass, typeParams, body, span⟩ => fun out => ∃ f fs, out = ⟨id, f, [], fs, span⟩ ∧
    optExprScoped (env.child typeParams) d rs superClass f ∧
      membersScoped (env.child typeParams) d rs body fs

/-- A declarator is recorded after its initial value and its pattern were visited. -/
def declaratorsScoped (env : Environment) (d : Nat) (kind : VarKind) (r : Region)
    (rs : List Region) : List Declarator → List Declarator → Prop
  | [] => fun out => out = []
  | ⟨id, type, init, span⟩ :: ds => fun out => ∃ f g checked fs,
    out = ⟨f, none, checked, span⟩ :: fs ∧ id.Scoped env d (r :: rs) f ∧
      optExprScoped env d (r :: rs) init g ∧ cx.InitChecked kind type id.label g checked ∧
        declaratorsScoped env d kind (r.record id.boundNames) rs ds fs

def VarDecl.Scoped (env : Environment) (d : Nat) (r : Region) (rs : List Region) :
    VarDecl → VarDecl → Prop
  | ⟨kind, declarators, span⟩ => fun out => ∃ fs, out = ⟨kind, fs, span⟩ ∧
    declaratorsScoped env d kind r rs declarators fs

def ForInit.Scoped (env : Environment) (d : Nat) (r : Region) (rs : List Region) :
    ForInit → ForInit → Prop
  | .varDecl decl => fun out => ∃ f, out = .varDecl f ∧ decl.Scoped env d r rs f
  | .expr value => fun out => ∃ f, out = .expr f ∧ value.Scoped env d (r :: rs) f

def optForInitScoped (env : Environment) (d : Nat) (r : Region) (rs : List Region) :
    Option ForInit → Option ForInit → Prop
  | some i => fun out => ∃ f, out = some f ∧ i.Scoped env d r rs f
  | none => fun out => out = none

def ForHead.Scoped (env : Environment) (d : Nat) (r : Region) (rs : List Region) :
    ForHead → ForHead → Prop
  | .varDecl decl => fun out => ∃ f, out = .varDecl f ∧ decl.Scoped env d r rs f
  | .target target => fun out => ∃ f, out = .target f ∧ target.Scoped env d (r :: rs) f

def handlerScoped (env : Environment) (d : Nat) (rs : List Region) :
    Option CatchClause → Option CatchClause → Prop
  | some ⟨some param, stmts⟩ => fun out => ∃ f fs, out = some ⟨some f, fs⟩ ∧
    param.Scoped env d (.ofCatch param stmts :: rs) f ∧
      ListOf cx (eachScoped env d
        ((Region.ofCatch param stmts).record (declaredNames stmts)) rs stmts) fs
  | some ⟨none, stmts⟩ => fun out => ∃ fs, out = some ⟨none, fs⟩ ∧
    ListOf cx (eachScoped env d
      ((Region.ofBlock stmts).record (declaredNames stmts)) rs stmts) fs
  | none => fun out => out = none

def finalizerScoped (env : Environment) (d : Nat) (rs : List Region) :
    Option (List Stmt) → Option (List Stmt) → Prop
  | some stmts => fun out => ∃ fs, out = some fs ∧
    ListOf cx (eachScoped env d
      ((Region.ofBlock stmts).record (declaredNames stmts)) rs stmts) fs
  | none => fun out => out = none

/-- Each case records the functions and classes that it declares when it is visited itself. -/
def casesScoped (env : Environment) (d : Nat) (r : Region) (rs : List Region) :
    List SwitchCase → List SwitchCase → Prop
  | [] => fun out => out = []
  | ⟨test, stmts⟩ :: cs => fun out => ∃ f fs gs, out = ⟨f, fs⟩ :: gs ∧
    optExprScoped env d (r :: rs) test f ∧
      ListOf cx (eachScoped env d (r.record (declaredNames stmts)) rs stmts) fs ∧
        casesScoped env d (r.record (stmtsRecordedNames d stmts)) rs cs gs

def eachScoped (env : Environment) (d : Nat) (r : Region) (rs : List Region) :
    List Stmt → List Visited → Prop
  | [] => fun out => out = []
  | s :: ss => fun out => ∃ v vs, out = v :: vs ∧ s.Scoped env d r rs v.stmt ∧
    eachScoped env d (r.record (s.recordedNames d)) rs ss vs

def alternateScoped (env : Environment) (d : Nat) (r : Region) (rs : List Region) :
    Option Stmt → Option Stmt → Prop
  | some s => fun out => ∃ f, out = some (orEmptyBlock f) ∧ s.Scoped env d r rs f
  | none => fun out => out = none

/-- A statement of a list with the region `r`. -/
def Stmt.Scoped (env : Environment) (d : Nat) (r : Region) (rs : List Region) (s : Stmt) :
    Option Stmt → Prop :=
  UnlessDeep d (some s) <|
    match s with
    | .expr value => fun out => ∃ f, out = some (.expr f) ∧ value.Scoped env (d + 1) (r :: rs) f
    | .varDecl decl => fun out => ∃ f, out = some (.varDecl f) ∧ decl.Scoped env (d + 1) r rs f
    | .function func => fun out => ∃ f, out = some (.function f) ∧
      func.Scoped env (d + 1) (r :: rs) f
    | .class decl => fun out => ∃ f, out = some (.class f) ∧ decl.Scoped env (d + 1) (r :: rs) f
    | .ret arg => fun out => ∃ f, out = some (.ret f) ∧ optExprScoped env (d + 1) (r :: rs) arg f
    | .ifElse test consequent alternate => fun out =>
      ∃ f g h, out = some (.ifElse f (orEmptyBlock g) h) ∧ test.Scoped env (d + 1) (r :: rs) f ∧
        consequent.Scoped env (d + 1) r rs g ∧
        alternateScoped env (d + 1) (r.record (consequent.recordedNames (d + 1))) rs alternate h
    | .block stmts => fun out => ∃ fs, out = some (.block fs) ∧
      ListOf cx (eachScoped env (d + 1)
        ((Region.ofBlock stmts).record (declaredNames stmts)) (r :: rs) stmts) fs
    | .throw arg => fun out => ∃ f, out = some (.throw f) ∧ arg.Scoped env (d + 1) (r :: rs) f
    | .forLoop init test update body => fun out =>
      let names := (init.map ForInit.lexicalNames).getD []
      let recorded := (init.map ForInit.recordedNames).getD []
      let head := Region.ofLoop names body
      ∃ f g h b, out = some (.forLoop f g h (orEmptyBlock b)) ∧
        optForInitScoped env (d + 1) head (r :: rs) init f ∧
        optExprScoped env (d + 1) (head.record recorded :: r :: rs) test g ∧
        optExprScoped env (d + 1) (head.record recorded :: r :: rs) update h ∧
        body.Scoped env (d + 1) (head.record recorded) (r :: rs) b
    | .forIn left right body => fun out =>
      let head := Region.ofLoop left.lexicalNames body
      ∃ f g b, out = some (.forIn f g (orEmptyBlock b)) ∧
        right.Scoped env (d + 1) (.fresh left.lexicalNames :: r :: rs) g ∧
        left.Scoped env (d + 1) head (r :: rs) f ∧
        body.Scoped env (d + 1) (head.record left.recordedNames) (r :: rs) b
    | .forOf left right body isAwait => fun out =>
      let head := Region.ofLoop left.lexicalNames body
      ∃ f g b, out = some (.forOf f g (orEmptyBlock b) isAwait) ∧
        right.Scoped env (d + 1) (.fresh left.lexicalNames :: r :: rs) g ∧
        left.Scoped env (d + 1) head (r :: rs) f ∧
        body.Scoped env (d + 1) (head.record left.recordedNames) (r :: rs) b
    | .while test body => fun out => ∃ f b, out = some (.while f (orEmptyBlock b)) ∧
      test.Scoped env (d + 1) (r :: rs) f ∧ body.Scoped env (d + 1) r rs b
    | .doWhile body test => fun out => ∃ f b, out = some (.doWhile (orEmptyBlock b) f) ∧
      body.Scoped env (d + 1) r rs b ∧
        test.Scoped env (d + 1) (r.record (body.recordedNames (d + 1)) :: rs) f
    | .tryCatch stmts handler finalizer => fun out => ∃ fs f g, out = some (.tryCatch fs f g) ∧
      ListOf cx (eachScoped env (d + 1)
        ((Region.ofBlock stmts).record (declaredNames stmts)) (r :: rs) stmts) fs ∧
      handlerScoped env (d + 1) (r :: rs) handler f ∧
      finalizerScoped env (d + 1) (r :: rs) finalizer g
    | .switch discriminant cases => fun out => ∃ f gs, out = some (.switch f gs) ∧
      discriminant.Scoped env (d + 1) (r :: rs) f ∧
        casesScoped env (d + 1) (.ofCases cases) (r :: rs) cases gs
    | .labeled label body => fun out => ∃ b, out = some (.labeled label (orEmptyBlock b)) ∧
      body.Scoped env (d + 1) r rs b
    | .break _ | .continue _ | .empty => fun out => out = some s
    | .typeAlias decl => fun out => ∃ check : Combinator,
      out = some (.constDecl decl.id (check.toExpr cx.names.runtime) decl.span)
    | .interface decl => fun out => ∃ check : Combinator,
      out = some (.constDecl decl.id (check.toExpr cx.names.runtime) decl.span)
    | .import decl => fun out => out = decl.toValue?.map .import
    | .export (some declaration) specifiers source _ => fun out => ∃ f,
      out = f.map (fun f => .export (some f) specifiers source .value) ∧
        declaration.Scoped env (d + 1) r rs f
    | .export none specifiers source _ => fun out =>
      out = some (.export none specifiers source .value)
    | .exportDefault value => fun out => ∃ f, out = some (.exportDefault f) ∧
      value.Scoped env (d + 1) (r :: rs) f
end

end TypeGuard
