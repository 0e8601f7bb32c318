import TypeGuard.Instrumentation
import TypeGuard.Proofs.Emission.Relation
import TypeGuard.Proofs.Resolution.Region

/-!
# Sites of diagnostics

The constructs of a unit that a diagnostic can point at: type declarations, and whatever has an
annotation that is lowered for its sake. Each is listed with its surroundings, the type parameters
in scope and the regions around it, since they decide what an annotation means and what an assigned
name was declared as. `Site.Causes` says which diagnostics a construct is to blame for.
-/

namespace TypeGuard

/-! ### Constructs -/

/-- A construct that a diagnostic can point at. -/
inductive Construct where
  | typeAlias (decl : TypeAlias)
  | interface (decl : InterfaceDecl)
  | function (func : Function)
  | cast (inner : Expr) (type : StaticType) (optional : Bool) (span : Span)
  | assign (op : String) (target : AssignTarget) (value : Expr) (span : Span)
  /-- A declarator of a declaration of the given kind and span. -/
  | declarator (kind : VarKind) (declSpan : Span) (d : Declarator)

namespace Construct

/-- Where the construct stands; for a declarator without a place of its own, where its declaration
does. -/
def span : Construct → Span
  | typeAlias decl => decl.span
  | interface decl => decl.span
  | function func => func.span
  | cast _ _ _ span => span
  | assign _ _ _ span => span
  | declarator _ declSpan d => d.span.orElse declSpan

/-- The name of the type that the construct declares. -/
def typeName? : Construct → Option String
  | typeAlias decl => some decl.id
  | interface decl => some decl.id
  | _ => none

end Construct

/-- A construct with the type parameters and the regions around it. -/
structure Site where
  construct : Construct
  env : Environment
  regions : List Region

namespace Site

/-- An annotation that the construct is checked by fails to lower. That of an assignment is the one
which the assigned name was declared with. -/
inductive Fails : Site → LoweringError → Prop where
  | typeAlias {decl env rs e} : decl.right.lower (env.child decl.typeParams)
      (Setting.checkName decl.recursive decl.id) = .error e → Fails ⟨.typeAlias decl, env, rs⟩ e
  | interface {decl env rs e} : decl.lowered env = .error e → Fails ⟨.interface decl, env, rs⟩ e
  | param {func env rs e p type} : p ∈ func.params → p.type = some type →
      type.lower (env.child func.typeParams) none = .error e → Fails ⟨.function func, env, rs⟩ e
  | result {func env rs e type} : func.returnType = some type →
      type.lower (env.child func.typeParams) none = .error e → Fails ⟨.function func, env, rs⟩ e
  | cast {inner type optional span env rs e} : type.lower env none = .error e →
      Fails ⟨.cast inner type optional span, env, rs⟩ e
  | assign {name value span env rs e type} : FoundAs name type rs → type.lower env none = .error e →
      Fails ⟨.assign "=" (.pattern (.ident name)) value span, env, rs⟩ e
  | declarator {kind declSpan d env rs e type} : kind ≠ .var → d.type = some type →
      type.lower env none = .error e → Fails ⟨.declarator kind declSpan d, env, rs⟩ e

/-- A diagnostic at the span of the construct, because it declares a reserved name or because its
annotation fails to lower. -/
inductive Causes (file : String) (site : Site) : Diagnostic → Prop where
  | reserved {name} : site.construct.typeName? = some name → isReservedTypeName name = true →
      Causes file site
        (.atSpan file site.construct.span Diagnostic.codeReservedTypeName [name])
  | lowering {e} : site.Fails e → Causes file site (e.toDiagnostic file site.construct.span)

end Site

/-! ### Sites of trees -/

/-- What a tree holds at a depth; the greatest depth is not visited. -/
def unlessTooDeep (d : Nat) (sites : List Site) : List Site :=
  if Limits.treeDepth ≤ d then [] else sites

mutual
/-- The sites of an expression that is visited at a depth in the given regions. -/
def Expr.sites (env : Environment) (d : Nat) (rs : List Region) (e : Expr) : List Site :=
  unlessTooDeep d <|
    match e with
    | .ident _ | .this | .super | .null | .bool _ | .num _ | .str _ | .regex _ _ => []
    | .template _ exprs => exprsSites env (d + 1) rs exprs
    | .taggedTemplate tag _ exprs => tag.sites env (d + 1) rs ++ exprsSites env (d + 1) rs exprs
    | .array elems => elemsSites env (d + 1) rs elems
    | .object props => objectPropsSites env (d + 1) rs props
    | .function func => func.sites env (d + 1) (.ownName func.id :: rs)
    | .class decl => decl.sites env (d + 1) (.ownName decl.id :: rs)
    | .member obj _ => obj.sites env (d + 1) rs
    | .index obj key => obj.sites env (d + 1) rs ++ key.sites env (d + 1) rs
    | .call callee args => callee.sites env (d + 1) rs ++ exprsSites env (d + 1) rs args
    | .new callee args => callee.sites env (d + 1) rs ++ exprsSites env (d + 1) rs args
    | .unary _ arg => arg.sites env (d + 1) rs
    | .update _ _ arg => arg.sites env (d + 1) rs
    | .binary _ left right => left.sites env (d + 1) rs ++ right.sites env (d + 1) rs
    | .conditional test consequent alternate => test.sites env (d + 1) rs ++
        (consequent.sites env (d + 1) rs ++ alternate.sites env (d + 1) rs)
    | .assign op target value span => value.sites env (d + 1) rs ++
        (target.sites env (d + 1) rs ++ [⟨.assign op target value span, env, rs⟩])
    | .seq exprs => exprsSites env (d + 1) rs exprs
    | .spread arg => arg.sites env (d + 1) rs
    | .await arg => arg.sites env (d + 1) rs
    | .yield arg _ => optExprSites env (d + 1) rs arg
    | .paren inner => inner.sites env (d + 1) rs
    | .cast inner type optional span =>
      ⟨.cast inner type optional span, env, rs⟩ :: inner.sites env (d + 1) rs

def exprsSites (env : Environment) (d : Nat) (rs : List Region) : List Expr → List Site
  | [] => []
  | e :: es => e.sites env d rs ++ exprsSites env d rs es

def optExprSites (env : Environment) (d : Nat) (rs : List Region) : Option Expr → List Site
  | some e => e.sites env d rs
  | none => []

def elemsSites (env : Environment) (d : Nat) (rs : List Region) : List (Option Expr) → List Site
  | [] => []
  | some e :: es => e.sites env d rs ++ elemsSites env d rs es
  | none :: es => elemsSites env d rs es

def PropKey.sites (env : Environment) (d : Nat) (rs : List Region) : PropKey → List Site
  | .computed e => e.sites env d rs
  | .ident _ | .str _ | .num _ => []

def ObjectProp.sites (env : Environment) (d : Nat) (rs : List Region) : ObjectProp → List Site
  | .keyValue key value _ => key.sites env d rs ++ value.sites env d rs
  | .method key func => key.sites env d rs ++ func.sites env d rs
  | .spread arg => arg.sites env d rs

def objectPropsSites (env : Environment) (d : Nat) (rs : List Region) : List ObjectProp → List Site
  | [] => []
  | p :: ps => p.sites env d rs ++ objectPropsSites env d rs ps

def AssignTarget.sites (env : Environment) (d : Nat) (rs : List Region) : AssignTarget → List Site
  | .pattern target => target.sites env d rs
  | .expr target => target.sites env d rs

def Pattern.sites (env : Environment) (d : Nat) (rs : List Region) : Pattern → List Site
  | .ident _ => []
  | .object props => patternPropsSites env d rs props
  | .array elems => patternsSites env d rs elems
  | .default left right => left.sites env d rs ++ right.sites env d rs
  | .rest inner => inner.sites env d rs

def PatternProp.sites (env : Environment) (d : Nat) (rs : List Region) : PatternProp → List Site
  | .keyValue key value _ => key.sites env d rs ++ value.sites env d rs
  | .rest inner => inner.sites env d rs

def patternPropsSites (env : Environment) (d : Nat) (rs : List Region) :
    List PatternProp → List Site
  | [] => []
  | p :: ps => p.sites env d rs ++ patternPropsSites env d rs ps

def patternsSites (env : Environment) (d : Nat) (rs : List Region) :
    List (Option Pattern) → List Site
  | [] => []
  | some p :: ps => p.sites env d rs ++ patternsSites env d rs ps
  | none :: ps => patternsSites env d rs ps

/-- The sites within parameters; the annotations are those of the function. -/
def paramsSites (env : Environment) (d : Nat) (r : Region) (rs : List Region) :
    List Param → List Site
  | [] => []
  | ⟨pattern, _, _⟩ :: ps => pattern.sites env d (r.record pattern.boundNames :: rs) ++
      paramsSites env d (r.record pattern.boundNames) rs ps

def FunctionBody.sites (env : Environment) (d : Nat) (r : Region) (rs : List Region) :
    FunctionBody → List Site
  | .block stmts => stmtsSites env d (r.record (varNames stmts ++ declaredNames stmts)) rs stmts
  | .expr value => value.sites env d (r :: rs)

def Function.sites (env : Environment) (d : Nat) (rs : List Region) (func : Function) : List Site :=
  ⟨.function func, env, rs⟩ ::
    match func with
    | ⟨_, params, body, _, typeParams, _, _, _, _⟩ =>
      paramsSites (env.child typeParams) d (.ofParams params) rs params ++
        body.sites (env.child typeParams) d (.ofBody params body) rs

def ClassMember.sites (env : Environment) (d : Nat) (rs : List Region) : ClassMember → List Site
  | .method key _ _ func => key.sites env d rs ++ func.sites env d rs
  | .property key _ value _ => key.sites env d rs ++ optExprSites env d rs value

def membersSites (env : Environment) (d : Nat) (rs : List Region) : List ClassMember → List Site
  | [] => []
  | m :: ms => m.sites env d rs ++ membersSites env d rs ms

def Class.sites (env : Environment) (d : Nat) (rs : List Region) : Class → List Site
  | ⟨_, superClass, typeParams, body, _⟩ =>
    optExprSites (env.child typeParams) d rs superClass ++
      membersSites (env.child typeParams) d rs body

/-- The sites of the declarators of a declaration with the given kind and span. -/
def declaratorsSites (env : Environment) (d : Nat) (kind : VarKind) (declSpan : Span) (r : Region)
    (rs : List Region) : List Declarator → List Site
  | [] => []
  | ⟨id, type, init, span⟩ :: ds => optExprSites env d (r :: rs) init ++
      (id.sites env d (r :: rs) ++
        (⟨.declarator kind declSpan ⟨id, type, init, span⟩, env, r :: rs⟩ ::
          declaratorsSites env d kind declSpan (r.record id.boundNames) rs ds))

def VarDecl.sites (env : Environment) (d : Nat) (r : Region) (rs : List Region) :
    VarDecl → List Site
  | ⟨kind, declarators, span⟩ => declaratorsSites env d kind span r rs declarators

def ForInit.sites (env : Environment) (d : Nat) (r : Region) (rs : List Region) :
    ForInit → List Site
  | .varDecl decl => decl.sites env d r rs
  | .expr value => value.sites env d (r :: rs)

def optForInitSites (env : Environment) (d : Nat) (r : Region) (rs : List Region) :
    Option ForInit → List Site
  | some i => i.sites env d r rs
  | none => []

def ForHead.sites (env : Environment) (d : Nat) (r : Region) (rs : List Region) :
    ForHead → List Site
  | .varDecl decl => decl.sites env d r rs
  | .target target => target.sites env d (r :: rs)

def handlerSites (env : Environment) (d : Nat) (rs : List Region) :
    Option CatchClause → List Site
  | some ⟨some param, stmts⟩ => param.sites env d (.ofCatch param stmts :: rs) ++
      stmtsSites env d ((Region.ofCatch param stmts).record (declaredNames stmts)) rs stmts
  | some ⟨none, stmts⟩ =>
    stmtsSites env d ((Region.ofBlock stmts).record (declaredNames stmts)) rs stmts
  | none => []

def finalizerSites (env : Environment) (d : Nat) (rs : List Region) :
    Option (List Stmt) → List Site
  | some stmts => stmtsSites env d ((Region.ofBlock stmts).record (declaredNames stmts)) rs stmts
  | none => []

def casesSites (env : Environment) (d : Nat) (r : Region) (rs : List Region) :
    List SwitchCase → List Site
  | [] => []
  | ⟨test, stmts⟩ :: cs => optExprSites env d (r :: rs) test ++
      (stmtsSites env d (r.record (declaredNames stmts)) rs stmts ++
        casesSites env d (r.record (stmtsRecordedNames d stmts)) rs cs)

/-- The sites of the statements of a list, whose functions and classes have been recorded. -/
def stmtsSites (env : Environment) (d : Nat) (r : Region) (rs : List Region) :
    List Stmt → List Site
  | [] => []
  | s :: ss => s.sites env d r rs ++ stmtsSites env d (r.record (s.recordedNames d)) rs ss

def alternateSites (env : Environment) (d : Nat) (r : Region) (rs : List Region) :
    Option Stmt → List Site
  | some s => s.sites env d r rs
  | none => []

/-- The sites of a statement of a list with the region `r`. -/
def Stmt.sites (env : Environment) (d : Nat) (r : Region) (rs : List Region) (s : Stmt) :
    List Site :=
  unlessTooDeep d <|
    match s with
    | .expr value => value.sites env (d + 1) (r :: rs)
    | .varDecl decl => decl.sites env (d + 1) r rs
    | .function func => func.sites env (d + 1) (r :: rs)
    | .class decl => decl.sites env (d + 1) (r :: rs)
    | .ret arg => optExprSites env (d + 1) (r :: rs) arg
    | .ifElse test consequent alternate => test.sites env (d + 1) (r :: rs) ++
        (consequent.sites env (d + 1) r rs ++
          alternateSites env (d + 1) (r.record (consequent.recordedNames (d + 1))) rs alternate)
    | .block stmts => stmtsSites env (d + 1)
        ((Region.ofBlock stmts).record (declaredNames stmts)) (r :: rs) stmts
    | .throw arg => arg.sites env (d + 1) (r :: rs)
    | .forLoop init test update body =>
      let head := Region.ofLoop ((init.map ForInit.lexicalNames).getD []) body
      let inner := head.record ((init.map ForInit.recordedNames).getD [])
      optForInitSites env (d + 1) head (r :: rs) init ++
        (optExprSites env (d + 1) (inner :: r :: rs) test ++
          (optExprSites env (d + 1) (inner :: r :: rs) update ++
            body.sites env (d + 1) inner (r :: rs)))
    | .forIn left right body =>
      let head := Region.ofLoop left.lexicalNames body
      right.sites env (d + 1) (.fresh left.lexicalNames :: r :: rs) ++
        (left.sites env (d + 1) head (r :: rs) ++
          body.sites env (d + 1) (head.record left.recordedNames) (r :: rs))
    | .forOf left right body _ =>
      let head := Region.ofLoop left.lexicalNames body
      right.sites env (d + 1) (.fresh left.lexicalNames :: r :: rs) ++
        (left.sites env (d + 1) head (r :: rs) ++
          body.sites env (d + 1) (head.record left.recordedNames) (r :: rs))
    | .while test body => test.sites env (d + 1) (r :: rs) ++ body.sites env (d + 1) r rs
    | .doWhile body test => body.sites env (d + 1) r rs ++
        test.sites env (d + 1) (r.record (body.recordedNames (d + 1)) :: rs)
    | .tryCatch stmts handler finalizer =>
      stmtsSites env (d + 1)
          ((Region.ofBlock stmts).record (declaredNames stmts)) (r :: rs) stmts ++
        (handlerSites env (d + 1) (r :: rs) handler ++
          finalizerSites env (d + 1) (r :: rs) finalizer)
    | .switch discriminant cases => discriminant.sites env (d + 1) (r :: rs) ++
        casesSites env (d + 1) (.ofCases cases) (r :: rs) cases
    | .labeled _ body => body.sites env (d + 1) r rs
    | .break _ | .continue _ | .empty | .import _ | .export none _ _ _ => []
    | .typeAlias decl => [⟨.typeAlias decl, env, r :: rs⟩]
    | .interface decl => [⟨.interface decl, env, r :: rs⟩]
    | .export (some declaration) _ _ _ => declaration.sites env (d + 1) r rs
    | .exportDefault value => value.sites env (d + 1) (r :: rs)
end

/-- The sites of a unit. -/
def Program.sites (options : Options) (p : Program) : List Site :=
  stmtsSites (Setting.ofProgram options p).environment 0
    ((Region.ofUnit p.body).record (declaredNames p.body)) [] p.body

end TypeGuard
