import TypeGuard.Proofs.Emission
import TypeGuard.Proofs.Insertion
import TypeGuard.Proofs.Nesting

/-!
# What trees become

`Expr.Becomes cx R env d e out log` says that a visit of the expression `e` at the depth `d` may
turn it into `out`, and that `log` is what it inserts on the way, in order. There is one such
relation for every kind of tree; those of statements also tell which definitions are put off for the
list around them. What is demanded of each list of statements and of each body that moves into a
wrapper is `R`.
-/

namespace TypeGuard

open Visit Instrumentation

/-- What is demanded of the lists of statements in a tree, and of the bodies whose value is
checked. -/
structure Demands where
  /-- Of the statements of a list at a depth and what they become. -/
  list : Nat → List Stmt → List Stmt → Prop
  /-- Of the parameters, the body as it was and the body as it is wrapped. -/
  wrapped : List Param → FunctionBody → FunctionBody → Prop

/-- Nothing is demanded. -/
def Demands.none : Demands := ⟨fun _ _ _ => True, fun _ _ _ => True⟩

variable (cx : Setting) (R : Demands)

/-! ### Inserted statements and checks -/

/-- A value as it is, or the assertion that it passes a check. -/
inductive Expr.Guarded (label : String) (value : Expr) : Expr → List Inserted → Prop where
  | unchecked : Expr.Guarded label value value []
  | asserted (check : Combinator) : Expr.Guarded label value
      (value.asserted cx.names.assert (check.toExpr cx.names.runtime) label) [.assertion check]

/-- An initial value with its check. -/
def InitGuarded (label : String) : Option Expr → Option Expr → List Inserted → Prop
  | some value => fun out log => ∃ f, out = some f ∧ value.Guarded cx label f log
  | none => fun out log => out = none ∧ log = []

/-- The checks of a parameter. -/
def Param.Checks (p : Param) (checks : List Stmt) (log : List Inserted) : Prop :=
  checks = [] ∧ log = [] ∨
    ∃ f, checks = [.expr f] ∧ p.checked.toValue.Guarded cx p.checked.label f log

/-- The type that a cast replaces its expression with. -/
def Reifies (env : Environment) (type : StaticType) (target : TypeName) : Prop :=
  ∃ ref, type = .generic ref ∧ ref.classify env = .ok (.reify target)

/-- The check of a declared interface, with or without parents. -/
def InterfaceDecl.lowered (d : InterfaceDecl) (env : Environment) :
    Except LoweringError Combinator :=
  let name := Setting.checkName d.recursive d.id
  if d.parents.isEmpty then d.body.lower (env.child d.typeParams) name
  else d.body.lowerExtending (env.child d.typeParams) d.parents name

/-- A constant in the place of a declared type. That of a recursive type is declared only, and its
definition put off. -/
def TypeDeclared (recursive : Bool) (span : Span) (id : String) (check : Combinator)
    (out : Option Stmt) (log : List Inserted) (defs : List Definition) : Prop :=
  match recursive with
  | true => out = some (Definition.declare cx.names.runtime id span) ∧
    log = [.constant id (.declare id)] ∧ defs = [⟨id, check⟩]
  | false => out = some (.constDecl id (check.toExpr cx.names.runtime) span) ∧
    log = [.constant id check] ∧ defs = []

/-- A list of statements at the depth `d`, with the definitions that it put off, each of which
follows in the log. -/
def ListBecomes (d : Nat) (stmts : List Stmt)
    (each : List Visited → List Inserted → List Definition → Prop) (out : List Stmt)
    (log : List Inserted) : Prop :=
  ∃ vs l defs, each vs l defs ∧
    out = withDefinitions (defs.map (·.toStmt cx.names.runtime)) vs ∧
    log = l ++ defs.map .definition ∧ R.list d stmts out

/-! ### Trees -/

mutual
def Expr.Becomes (env : Environment) (d : Nat) (e out : Expr) (log : List Inserted) : Prop :=
  IfVisited d (out = e ∧ log = []) <|
    match e with
    | .ident _ | .this | .super | .null | .bool _ | .num _ | .str _ | .regex _ _ =>
      out = e ∧ log = []
    | .template quasis exprs =>
      ∃ fs, out = .template quasis fs ∧ exprsBecome env (d + 1) exprs fs log
    | .taggedTemplate tag quasis exprs => ∃ f fs l m, out = .taggedTemplate f quasis fs ∧
      log = l ++ m ∧ tag.Becomes env (d + 1) f l ∧ exprsBecome env (d + 1) exprs fs m
    | .array elems => ∃ fs, out = .array fs ∧ elemsBecome env (d + 1) elems fs log
    | .object props => ∃ fs, out = .object fs ∧ objectPropsBecome env (d + 1) props fs log
    | .function func => ∃ f, out = .function f ∧ func.Becomes env (d + 1) f log
    | .class decl => ∃ f, out = .class f ∧ decl.Becomes env (d + 1) f log
    | .member obj name => ∃ f, out = .member f name ∧ obj.Becomes env (d + 1) f log
    | .index obj key => ∃ f g l m, out = .index f g ∧ log = l ++ m ∧
      obj.Becomes env (d + 1) f l ∧ key.Becomes env (d + 1) g m
    | .call callee args => ∃ f fs l m, out = .call f fs ∧ log = l ++ m ∧
      callee.Becomes env (d + 1) f l ∧ exprsBecome env (d + 1) args fs m
    | .new callee args => ∃ f fs l m, out = .new f fs ∧ log = l ++ m ∧
      callee.Becomes env (d + 1) f l ∧ exprsBecome env (d + 1) args fs m
    | .unary op arg => ∃ f, out = .unary op f ∧ arg.Becomes env (d + 1) f log
    | .update op isPrefix arg => ∃ f, out = .update op isPrefix f ∧ arg.Becomes env (d + 1) f log
    | .binary op left right => ∃ f g l m, out = .binary op f g ∧ log = l ++ m ∧
      left.Becomes env (d + 1) f l ∧ right.Becomes env (d + 1) g m
    | .conditional test consequent alternate => ∃ f g h k l m, out = .conditional f g h ∧
      log = k ++ (l ++ m) ∧ test.Becomes env (d + 1) f k ∧ consequent.Becomes env (d + 1) g l ∧
        alternate.Becomes env (d + 1) h m
    | .assign op target value span => ∃ t f checked k l m, out = .assign op t checked span ∧
      log = k ++ (l ++ m) ∧ value.Becomes env (d + 1) f k ∧ target.Becomes env (d + 1) t l ∧
        ∃ name, f.Guarded cx name checked m
    | .seq exprs => ∃ fs, out = .seq fs ∧ exprsBecome env (d + 1) exprs fs log
    | .spread arg => ∃ f, out = .spread f ∧ arg.Becomes env (d + 1) f log
    | .await arg => ∃ f, out = .await f ∧ arg.Becomes env (d + 1) f log
    | .yield arg delegate => ∃ f, out = .yield f delegate ∧ optExprBecomes env (d + 1) arg f log
    | .paren inner => ∃ f, out = .paren f ∧ inner.Becomes env (d + 1) f log
    | .cast inner type _ _ =>
      (∃ target, Reifies env type target ∧ out = .path target ∧ log = []) ∨
        ∃ f l m, log = l ++ m ∧ (∀ target, ¬ Reifies env type target) ∧
          inner.Becomes env (d + 1) f l ∧ f.Guarded cx inner.label out m
termination_by structural e

def exprsBecome (env : Environment) (d : Nat) (es : List Expr) (out : List Expr)
    (log : List Inserted) : Prop :=
  match es with
  | [] => out = [] ∧ log = []
  | e :: es => ∃ f fs l m, out = f :: fs ∧ log = l ++ m ∧ e.Becomes env d f l ∧
    exprsBecome env d es fs m
termination_by structural es

def optExprBecomes (env : Environment) (d : Nat) (e out : Option Expr) (log : List Inserted) :
    Prop :=
  match e with
  | some e => ∃ f, out = some f ∧ e.Becomes env d f log
  | none => out = none ∧ log = []
termination_by structural e

def elemsBecome (env : Environment) (d : Nat) (es out : List (Option Expr))
    (log : List Inserted) : Prop :=
  match es with
  | [] => out = [] ∧ log = []
  | some e :: es => ∃ f fs l m, out = some f :: fs ∧ log = l ++ m ∧ e.Becomes env d f l ∧
    elemsBecome env d es fs m
  | none :: es => ∃ fs, out = none :: fs ∧ elemsBecome env d es fs log
termination_by structural es

def PropKey.Becomes (env : Environment) (d : Nat) (key out : PropKey) (log : List Inserted) :
    Prop :=
  match key with
  | .computed e => ∃ f, out = .computed f ∧ e.Becomes env d f log
  | .ident _ | .str _ | .num _ => out = key ∧ log = []
termination_by structural key

def ObjectProp.Becomes (env : Environment) (d : Nat) (p out : ObjectProp) (log : List Inserted) :
    Prop :=
  match p with
  | .keyValue key value shorthand => ∃ f g l m, out = .keyValue f g shorthand ∧ log = l ++ m ∧
    key.Becomes env d f l ∧ value.Becomes env d g m
  | .method key func => ∃ f g l m, out = .method f g ∧ log = l ++ m ∧ key.Becomes env d f l ∧
    func.Becomes env d g m
  | .spread arg => ∃ f, out = .spread f ∧ arg.Becomes env d f log
termination_by structural p

def objectPropsBecome (env : Environment) (d : Nat) (ps out : List ObjectProp)
    (log : List Inserted) : Prop :=
  match ps with
  | [] => out = [] ∧ log = []
  | p :: ps => ∃ f fs l m, out = f :: fs ∧ log = l ++ m ∧ p.Becomes env d f l ∧
    objectPropsBecome env d ps fs m
termination_by structural ps

def AssignTarget.Becomes (env : Environment) (d : Nat) (target out : AssignTarget)
    (log : List Inserted) : Prop :=
  match target with
  | .pattern p => ∃ f, out = .pattern f ∧ p.Becomes env d f log
  | .expr e => ∃ f, out = .expr f ∧ e.Becomes env d f log
termination_by structural target

def Pattern.Becomes (env : Environment) (d : Nat) (p out : Pattern) (log : List Inserted) : Prop :=
  match p with
  | .ident _ => out = p ∧ log = []
  | .object props => ∃ fs, out = .object fs ∧ patternPropsBecome env d props fs log
  | .array elems => ∃ fs, out = .array fs ∧ patternsBecome env d elems fs log
  | .default left right => ∃ f g l m, out = .default f g ∧ log = l ++ m ∧
    left.Becomes env d f l ∧ right.Becomes env d g m
  | .rest inner => ∃ f, out = .rest f ∧ inner.Becomes env d f log
termination_by structural p

def PatternProp.Becomes (env : Environment) (d : Nat) (p out : PatternProp)
    (log : List Inserted) : Prop :=
  match p with
  | .keyValue key value shorthand => ∃ f g l m, out = .keyValue f g shorthand ∧ log = l ++ m ∧
    key.Becomes env d f l ∧ value.Becomes env d g m
  | .rest inner => ∃ f, out = .rest f ∧ inner.Becomes env d f log
termination_by structural p

def patternPropsBecome (env : Environment) (d : Nat) (ps out : List PatternProp)
    (log : List Inserted) : Prop :=
  match ps with
  | [] => out = [] ∧ log = []
  | p :: ps => ∃ f fs l m, out = f :: fs ∧ log = l ++ m ∧ p.Becomes env d f l ∧
    patternPropsBecome env d ps fs m
termination_by structural ps

def patternsBecome (env : Environment) (d : Nat) (ps out : List (Option Pattern))
    (log : List Inserted) : Prop :=
  match ps with
  | [] => out = [] ∧ log = []
  | some p :: ps => ∃ f fs l m, out = some f :: fs ∧ log = l ++ m ∧ p.Becomes env d f l ∧
    patternsBecome env d ps fs m
  | none :: ps => ∃ fs, out = none :: fs ∧ patternsBecome env d ps fs log
termination_by structural ps

/-- Parameters, and the checks of their types. -/
def paramsBecome (env : Environment) (d : Nat) (ps out : List Param) (checks : List Stmt)
    (log : List Inserted) : Prop :=
  match ps with
  | [] => out = [] ∧ checks = [] ∧ log = []
  | ⟨pattern, type, optional⟩ :: ps => ∃ f fs c cs k l m, out = ⟨f, none, false⟩ :: fs ∧
    checks = c ++ cs ∧ log = k ++ (l ++ m) ∧ pattern.Becomes env d f k ∧
      Param.Checks cx ⟨pattern, type, optional⟩ c l ∧ paramsBecome env d ps fs cs m
termination_by structural ps

def FunctionBody.Becomes (env : Environment) (d : Nat) (body out : FunctionBody)
    (log : List Inserted) : Prop :=
  match body with
  | .block stmts => ∃ fs, out = .block fs ∧
    ListBecomes cx R d stmts (eachBecome env d stmts) fs log
  | .expr value => ∃ f, out = .expr f ∧ value.Becomes env d f log
termination_by structural body

/-- A body stands behind the checks of the parameters, and its value is checked where the function
declares what it returns. -/
def Function.Becomes (env : Environment) (d : Nat) (func out : Function) (log : List Inserted) :
    Prop :=
  match func with
  | ⟨id, params, body, returnType, typeParams, isAsync, isArrow, isGenerator, span⟩ =>
    ∃ ps checks f check b k l,
      out = ⟨id, ps, b, none, [], isAsync && check.isNone, isArrow, isGenerator, span⟩ ∧
      log = k ++ (l ++ check.toList.map .assertion) ∧
      paramsBecome (env.child typeParams) d params ps checks k ∧
      body.Becomes (env.child typeParams) d f l ∧
      check.isSome = (returnType.isSome && !(cx.options.skipAsserts || isGenerator)) ∧
      cx.BodyChecked isArrow isAsync checks f check b ∧ (check.isSome → R.wrapped params body f)
termination_by structural func

def ClassMember.Becomes (env : Environment) (d : Nat) (m out : ClassMember)
    (log : List Inserted) : Prop :=
  match m with
  | .method key kind isStatic func => ∃ f g k l, out = .method f kind isStatic g ∧
    log = k ++ l ∧ key.Becomes env d f k ∧ func.Becomes env d g l
  | .property key _ value isStatic => ∃ f g k l, out = .property f none g isStatic ∧
    log = k ++ l ∧ key.Becomes env d f k ∧ optExprBecomes env d value g l
termination_by structural m

def membersBecome (env : Environment) (d : Nat) (ms out : List ClassMember)
    (log : List Inserted) : Prop :=
  match ms with
  | [] => out = [] ∧ log = []
  | m :: ms => ∃ f fs k l, out = f :: fs ∧ log = k ++ l ∧ m.Becomes env d f k ∧
    membersBecome env d ms fs l
termination_by structural ms

def Class.Becomes (env : Environment) (d : Nat) (decl out : Class) (log : List Inserted) : Prop :=
  match decl with
  | ⟨id, superClass, typeParams, body, span⟩ => ∃ f fs l m, out = ⟨id, f, [], fs, span⟩ ∧
    log = l ++ m ∧ optExprBecomes (env.child typeParams) d superClass f l ∧
      membersBecome (env.child typeParams) d body fs m
termination_by structural decl

/-- The initial value of a declarator is visited before its pattern. -/
def declaratorsBecome (env : Environment) (d : Nat) (ds out : List Declarator)
    (log : List Inserted) : Prop :=
  match ds with
  | [] => out = [] ∧ log = []
  | ⟨id, _, init, span⟩ :: ds => ∃ f g checked fs j k l m,
    out = ⟨f, none, checked, span⟩ :: fs ∧ log = j ++ (k ++ (l ++ m)) ∧
      optExprBecomes env d init g j ∧ id.Becomes env d f k ∧ InitGuarded cx id.label g checked l ∧
        declaratorsBecome env d ds fs m
termination_by structural ds

def VarDecl.Becomes (env : Environment) (d : Nat) (decl out : VarDecl) (log : List Inserted) :
    Prop :=
  match decl with
  | ⟨kind, declarators, span⟩ => ∃ fs, out = ⟨kind, fs, span⟩ ∧
    declaratorsBecome env d declarators fs log
termination_by structural decl

def ForInit.Becomes (env : Environment) (d : Nat) (i out : ForInit) (log : List Inserted) : Prop :=
  match i with
  | .varDecl decl => ∃ f, out = .varDecl f ∧ decl.Becomes env d f log
  | .expr value => ∃ f, out = .expr f ∧ value.Becomes env d f log
termination_by structural i

def optForInitBecomes (env : Environment) (d : Nat) (i out : Option ForInit)
    (log : List Inserted) : Prop :=
  match i with
  | some i => ∃ f, out = some f ∧ i.Becomes env d f log
  | none => out = none ∧ log = []
termination_by structural i

def ForHead.Becomes (env : Environment) (d : Nat) (head out : ForHead) (log : List Inserted) :
    Prop :=
  match head with
  | .varDecl decl => ∃ f, out = .varDecl f ∧ decl.Becomes env d f log
  | .target target => ∃ f, out = .target f ∧ target.Becomes env d f log
termination_by structural head

def handlerBecomes (env : Environment) (d : Nat) (handler out : Option CatchClause)
    (log : List Inserted) : Prop :=
  match handler with
  | some ⟨some param, stmts⟩ => ∃ f fs l m, out = some ⟨some f, fs⟩ ∧ log = l ++ m ∧
    param.Becomes env d f l ∧ ListBecomes cx R d stmts (eachBecome env d stmts) fs m
  | some ⟨none, stmts⟩ => ∃ fs, out = some ⟨none, fs⟩ ∧
    ListBecomes cx R d stmts (eachBecome env d stmts) fs log
  | none => out = none ∧ log = []
termination_by structural handler

def finalizerBecomes (env : Environment) (d : Nat) (finalizer out : Option (List Stmt))
    (log : List Inserted) : Prop :=
  match finalizer with
  | some stmts => ∃ fs, out = some fs ∧ ListBecomes cx R d stmts (eachBecome env d stmts) fs log
  | none => out = none ∧ log = []
termination_by structural finalizer

def casesBecome (env : Environment) (d : Nat) (cs out : List SwitchCase) (log : List Inserted) :
    Prop :=
  match cs with
  | [] => out = [] ∧ log = []
  | ⟨test, stmts⟩ :: cs => ∃ f fs gs k l m, out = ⟨f, fs⟩ :: gs ∧ log = k ++ (l ++ m) ∧
    optExprBecomes env d test f k ∧ ListBecomes cx R d stmts (eachBecome env d stmts) fs l ∧
      casesBecome env d cs gs m
termination_by structural cs

/-- The statements of a list one by one, with the definitions that they put off. -/
def eachBecome (env : Environment) (d : Nat) (ss : List Stmt) (out : List Visited)
    (log : List Inserted) (defs : List Definition) : Prop :=
  match ss with
  | [] => out = [] ∧ log = [] ∧ defs = []
  | s :: ss => ∃ v vs l m ds es, out = v :: vs ∧ log = l ++ m ∧ defs = ds ++ es ∧
    v.defers = !ds.isEmpty ∧ s.Becomes env d v.stmt l ds ∧ eachBecome env d ss vs m es
termination_by structural ss

def alternateBecomes (env : Environment) (d : Nat) (s out : Option Stmt) (log : List Inserted)
    (defs : List Definition) : Prop :=
  match s with
  | some s => ∃ f, out = some (orEmptyBlock f) ∧ s.Becomes env d f log defs
  | none => out = none ∧ log = [] ∧ defs = []
termination_by structural s

/-- A statement, with the definitions that it puts off. -/
def Stmt.Becomes (env : Environment) (d : Nat) (s : Stmt) (out : Option Stmt)
    (log : List Inserted) (defs : List Definition) : Prop :=
  IfVisited d (out = some s ∧ log = [] ∧ defs = []) <|
    match s with
    | .expr value => ∃ f, out = some (.expr f) ∧ defs = [] ∧ value.Becomes env (d + 1) f log
    | .varDecl decl => ∃ f, out = some (.varDecl f) ∧ defs = [] ∧ decl.Becomes env (d + 1) f log
    | .function func => ∃ f, out = some (.function f) ∧ defs = [] ∧
      func.Becomes env (d + 1) f log
    | .class decl => ∃ f, out = some (.class f) ∧ defs = [] ∧ decl.Becomes env (d + 1) f log
    | .ret arg => ∃ f, out = some (.ret f) ∧ defs = [] ∧ optExprBecomes env (d + 1) arg f log
    | .ifElse test consequent alternate => ∃ f g h k l m ds es,
      out = some (.ifElse f (orEmptyBlock g) h) ∧ log = k ++ (l ++ m) ∧ defs = ds ++ es ∧
        test.Becomes env (d + 1) f k ∧ consequent.Becomes env (d + 1) g l ds ∧
          alternateBecomes env (d + 1) alternate h m es
    | .block stmts => ∃ fs, out = some (.block fs) ∧ defs = [] ∧
      ListBecomes cx R (d + 1) stmts (eachBecome env (d + 1) stmts) fs log
    | .throw arg => ∃ f, out = some (.throw f) ∧ defs = [] ∧ arg.Becomes env (d + 1) f log
    | .forLoop init test update body => ∃ f g h b j k l m,
      out = some (.forLoop f g h (orEmptyBlock b)) ∧ log = j ++ (k ++ (l ++ m)) ∧
        optForInitBecomes env (d + 1) init f j ∧ optExprBecomes env (d + 1) test g k ∧
          optExprBecomes env (d + 1) update h l ∧ body.Becomes env (d + 1) b m defs
    | .forIn left right body => ∃ f g b k l m, out = some (.forIn f g (orEmptyBlock b)) ∧
      log = k ++ (l ++ m) ∧ right.Becomes env (d + 1) g k ∧ left.Becomes env (d + 1) f l ∧
        body.Becomes env (d + 1) b m defs
    | .forOf left right body isAwait => ∃ f g b k l m,
      out = some (.forOf f g (orEmptyBlock b) isAwait) ∧ log = k ++ (l ++ m) ∧
        right.Becomes env (d + 1) g k ∧ left.Becomes env (d + 1) f l ∧
          body.Becomes env (d + 1) b m defs
    | .while test body => ∃ f b l m, out = some (.while f (orEmptyBlock b)) ∧ log = l ++ m ∧
      test.Becomes env (d + 1) f l ∧ body.Becomes env (d + 1) b m defs
    | .doWhile body test => ∃ f b l m, out = some (.doWhile (orEmptyBlock b) f) ∧ log = l ++ m ∧
      body.Becomes env (d + 1) b l defs ∧ test.Becomes env (d + 1) f m
    | .tryCatch stmts handler finalizer => ∃ fs f g k l m, out = some (.tryCatch fs f g) ∧
      log = k ++ (l ++ m) ∧ defs = [] ∧
        ListBecomes cx R (d + 1) stmts (eachBecome env (d + 1) stmts) fs k ∧
          handlerBecomes env (d + 1) handler f l ∧ finalizerBecomes env (d + 1) finalizer g m
    | .switch discriminant cases => ∃ f gs l m, out = some (.switch f gs) ∧ log = l ++ m ∧
      defs = [] ∧ discriminant.Becomes env (d + 1) f l ∧ casesBecome env (d + 1) cases gs m
    | .labeled label body => ∃ b, out = some (.labeled label (orEmptyBlock b)) ∧
      body.Becomes env (d + 1) b log defs
    | .break _ | .continue _ | .empty => out = some s ∧ log = [] ∧ defs = []
    | .typeAlias decl => ∃ check,
      decl.right.lower (env.child decl.typeParams) (Setting.checkName decl.recursive decl.id) =
        .ok check ∧
      TypeDeclared cx decl.recursive decl.span decl.id check out log defs
    | .interface decl => ∃ check,
      decl.lowered env = .ok check ∧
      TypeDeclared cx decl.recursive decl.span decl.id check out log defs
    | .import decl => out = decl.toValue?.map .import ∧ log = [] ∧ defs = []
    | .export (some declaration) specifiers source _ => ∃ f,
      out = f.map (fun f => .export (some f) specifiers source .value) ∧
        declaration.Becomes env (d + 1) f log defs
    | .export none specifiers source _ =>
      out = some (.export none specifiers source .value) ∧ log = [] ∧ defs = []
    | .exportDefault value => ∃ f, out = some (.exportDefault f) ∧ defs = [] ∧
      value.Becomes env (d + 1) f log
termination_by structural s
end

variable {cx R}

/-- A statement of a list is marked if it put any definitions off. -/
theorem eachBecome_defers {env : Environment} {d : Nat} {stmts : List Stmt} {vs : List Visited}
    {l : List Inserted} {defs : List Definition} (h : eachBecome cx R env d stmts vs l defs) :
    vs.any (·.defers) = !defs.isEmpty := by
  induction stmts generalizing vs l defs with
  | nil =>
    obtain ⟨rfl, -, rfl⟩ := h
    rfl
  | cons s ss ih =>
    obtain ⟨v, vs, _, _, ds, es, rfl, -, rfl, hv, -, hrest⟩ := h
    rw [List.any_cons, hv, ih hrest]
    cases ds <;> rfl

end TypeGuard
