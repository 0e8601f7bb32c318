import TypeGuard.Proofs.Insertion

/-!
# Trees without their checks

`Expr.Sheds names d src full bare` says that `full` is the expression `src` at the depth `d` with
its checks put in and `bare` what is left of it without them: an inserted assertion leaves the value
that it asserts, a function loses the checks of its parameters in front of its body, and the body
that the check of a returned value wraps takes the place of the wrapper. Everything else is the same
on both sides. There is one such relation for every kind of tree, with a rule for every way in which
it is visited.
-/

namespace TypeGuard

open Instrumentation

/-- Whether an expression has no parts that are visited. -/
def Expr.isLeaf : Expr → Bool
  | .ident _ | .this | .super | .null | .bool _ | .num _ | .str _ | .regex _ _ => true
  | _ => false

mutual
/-- An expression at the depth `d`, which is left as it is where that is too deep. -/
inductive Expr.Sheds (names : UnitNames) : Nat → Expr → Expr → Expr → Prop where
  | deep {d e} : Limits.treeDepth ≤ d → Expr.Sheds names d e e e
  | visited {d e f b} : d < Limits.treeDepth → Expr.ShedsInside names (d + 1) e f b →
      Expr.Sheds names d e f b

/-- An expression that is visited, with its parts at the depth `d`. -/
inductive Expr.ShedsInside (names : UnitNames) : Nat → Expr → Expr → Expr → Prop where
  | leaf {d e} : e.isLeaf = true → Expr.ShedsInside names d e e e
  | template {d quasis es fs bs} : exprsShed names d es fs bs →
      Expr.ShedsInside names d (.template quasis es) (.template quasis fs) (.template quasis bs)
  | taggedTemplate {d tag f b quasis es fs bs} : Expr.Sheds names d tag f b →
      exprsShed names d es fs bs →
      Expr.ShedsInside names d (.taggedTemplate tag quasis es) (.taggedTemplate f quasis fs)
        (.taggedTemplate b quasis bs)
  | array {d es fs bs} : elemsShed names d es fs bs →
      Expr.ShedsInside names d (.array es) (.array fs) (.array bs)
  | object {d ps fs bs} : objectPropsShed names d ps fs bs →
      Expr.ShedsInside names d (.object ps) (.object fs) (.object bs)
  | function {d func f b} : Function.Sheds names d func f b →
      Expr.ShedsInside names d (.function func) (.function f) (.function b)
  | class {d decl f b} : Class.Sheds names d decl f b →
      Expr.ShedsInside names d (.class decl) (.class f) (.class b)
  | member {d obj f b name} : Expr.Sheds names d obj f b →
      Expr.ShedsInside names d (.member obj name) (.member f name) (.member b name)
  | index {d obj f b key f' b'} : Expr.Sheds names d obj f b → Expr.Sheds names d key f' b' →
      Expr.ShedsInside names d (.index obj key) (.index f f') (.index b b')
  | call {d callee f b es fs bs} : Expr.Sheds names d callee f b → exprsShed names d es fs bs →
      Expr.ShedsInside names d (.call callee es) (.call f fs) (.call b bs)
  | new {d callee f b es fs bs} : Expr.Sheds names d callee f b → exprsShed names d es fs bs →
      Expr.ShedsInside names d (.new callee es) (.new f fs) (.new b bs)
  | unary {d op arg f b} : Expr.Sheds names d arg f b →
      Expr.ShedsInside names d (.unary op arg) (.unary op f) (.unary op b)
  | update {d op isPrefix arg f b} : Expr.Sheds names d arg f b →
      Expr.ShedsInside names d (.update op isPrefix arg) (.update op isPrefix f)
        (.update op isPrefix b)
  | binary {d op left f b right f' b'} : Expr.Sheds names d left f b →
      Expr.Sheds names d right f' b' →
      Expr.ShedsInside names d (.binary op left right) (.binary op f f') (.binary op b b')
  | conditional {d test f b consequent f' b' alternate f'' b''} : Expr.Sheds names d test f b →
      Expr.Sheds names d consequent f' b' → Expr.Sheds names d alternate f'' b'' →
      Expr.ShedsInside names d (.conditional test consequent alternate) (.conditional f f' f'')
        (.conditional b b' b'')
  | assign {d op target f b value f' b' span} : AssignTarget.Sheds names d target f b →
      Expr.Sheds names d value f' b' →
      Expr.ShedsInside names d (.assign op target value span) (.assign op f f' span)
        (.assign op b b' span)
  /-- Only a plain assignment to an identifier may be checked. -/
  | assignChecked {d name value f b span} (check : Combinator) : Expr.Sheds names d value f b →
      Expr.ShedsInside names d (.assign "=" (.pattern (.ident name)) value span)
        (.assign "=" (.pattern (.ident name))
          (f.asserted names.assert (check.toExpr names.runtime) name) span)
        (.assign "=" (.pattern (.ident name)) b span)
  | seq {d es fs bs} : exprsShed names d es fs bs →
      Expr.ShedsInside names d (.seq es) (.seq fs) (.seq bs)
  | spread {d arg f b} : Expr.Sheds names d arg f b →
      Expr.ShedsInside names d (.spread arg) (.spread f) (.spread b)
  | await {d arg f b} : Expr.Sheds names d arg f b →
      Expr.ShedsInside names d (.await arg) (.await f) (.await b)
  | yield {d arg f b delegate} : optExprSheds names d arg f b →
      Expr.ShedsInside names d (.yield arg delegate) (.yield f delegate) (.yield b delegate)
  | paren {d inner f b} : Expr.Sheds names d inner f b →
      Expr.ShedsInside names d (.paren inner) (.paren f) (.paren b)
  | castReified {d inner ref env target optional span} : ref.classify env = .ok (.reify target) →
      Expr.ShedsInside names d (.cast inner (.generic ref) optional span) (.path target)
        (.path target)
  | cast {d inner f b type optional span checked} : Expr.Sheds names d inner f b →
      f.Checked names type inner.label checked →
      Expr.ShedsInside names d (.cast inner type optional span) checked b

inductive exprsShed (names : UnitNames) : Nat → List Expr → List Expr → List Expr → Prop where
  | nil {d} : exprsShed names d [] [] []
  | cons {d e f b es fs bs} : Expr.Sheds names d e f b → exprsShed names d es fs bs →
      exprsShed names d (e :: es) (f :: fs) (b :: bs)

inductive optExprSheds (names : UnitNames) :
    Nat → Option Expr → Option Expr → Option Expr → Prop where
  | none {d} : optExprSheds names d none none none
  | some {d e f b} : Expr.Sheds names d e f b → optExprSheds names d (some e) (some f) (some b)

inductive elemsShed (names : UnitNames) :
    Nat → List (Option Expr) → List (Option Expr) → List (Option Expr) → Prop where
  | nil {d} : elemsShed names d [] [] []
  | some {d e f b es fs bs} : Expr.Sheds names d e f b → elemsShed names d es fs bs →
      elemsShed names d (some e :: es) (some f :: fs) (some b :: bs)
  | none {d es fs bs} : elemsShed names d es fs bs →
      elemsShed names d (none :: es) (none :: fs) (none :: bs)

inductive PropKey.Sheds (names : UnitNames) : Nat → PropKey → PropKey → PropKey → Prop where
  | computed {d e f b} : Expr.Sheds names d e f b →
      PropKey.Sheds names d (.computed e) (.computed f) (.computed b)
  | ident {d} (name : String) : PropKey.Sheds names d (.ident name) (.ident name) (.ident name)
  | str {d} (value : String) : PropKey.Sheds names d (.str value) (.str value) (.str value)
  | num {d} (text : String) : PropKey.Sheds names d (.num text) (.num text) (.num text)

inductive ObjectProp.Sheds (names : UnitNames) :
    Nat → ObjectProp → ObjectProp → ObjectProp → Prop where
  | keyValue {d key f b value f' b' shorthand} : PropKey.Sheds names d key f b →
      Expr.Sheds names d value f' b' →
      ObjectProp.Sheds names d (.keyValue key value shorthand) (.keyValue f f' shorthand)
        (.keyValue b b' shorthand)
  | method {d key f b func f' b'} : PropKey.Sheds names d key f b →
      Function.Sheds names d func f' b' →
      ObjectProp.Sheds names d (.method key func) (.method f f') (.method b b')
  | spread {d arg f b} : Expr.Sheds names d arg f b →
      ObjectProp.Sheds names d (.spread arg) (.spread f) (.spread b)

inductive objectPropsShed (names : UnitNames) :
    Nat → List ObjectProp → List ObjectProp → List ObjectProp → Prop where
  | nil {d} : objectPropsShed names d [] [] []
  | cons {d p f b ps fs bs} : ObjectProp.Sheds names d p f b → objectPropsShed names d ps fs bs →
      objectPropsShed names d (p :: ps) (f :: fs) (b :: bs)

inductive AssignTarget.Sheds (names : UnitNames) :
    Nat → AssignTarget → AssignTarget → AssignTarget → Prop where
  | pattern {d p f b} : Pattern.Sheds names d p f b →
      AssignTarget.Sheds names d (.pattern p) (.pattern f) (.pattern b)
  | expr {d e f b} : Expr.Sheds names d e f b →
      AssignTarget.Sheds names d (.expr e) (.expr f) (.expr b)

inductive Pattern.Sheds (names : UnitNames) : Nat → Pattern → Pattern → Pattern → Prop where
  | ident {d} (name : String) : Pattern.Sheds names d (.ident name) (.ident name) (.ident name)
  | object {d ps fs bs} : patternPropsShed names d ps fs bs →
      Pattern.Sheds names d (.object ps) (.object fs) (.object bs)
  | array {d ps fs bs} : patternsShed names d ps fs bs →
      Pattern.Sheds names d (.array ps) (.array fs) (.array bs)
  | default {d left f b right f' b'} : Pattern.Sheds names d left f b →
      Expr.Sheds names d right f' b' →
      Pattern.Sheds names d (.default left right) (.default f f') (.default b b')
  | rest {d inner f b} : Pattern.Sheds names d inner f b →
      Pattern.Sheds names d (.rest inner) (.rest f) (.rest b)

inductive PatternProp.Sheds (names : UnitNames) :
    Nat → PatternProp → PatternProp → PatternProp → Prop where
  | keyValue {d key f b value f' b' shorthand} : PropKey.Sheds names d key f b →
      Pattern.Sheds names d value f' b' →
      PatternProp.Sheds names d (.keyValue key value shorthand) (.keyValue f f' shorthand)
        (.keyValue b b' shorthand)
  | rest {d inner f b} : Pattern.Sheds names d inner f b →
      PatternProp.Sheds names d (.rest inner) (.rest f) (.rest b)

inductive patternPropsShed (names : UnitNames) :
    Nat → List PatternProp → List PatternProp → List PatternProp → Prop where
  | nil {d} : patternPropsShed names d [] [] []
  | cons {d p f b ps fs bs} : PatternProp.Sheds names d p f b →
      patternPropsShed names d ps fs bs → patternPropsShed names d (p :: ps) (f :: fs) (b :: bs)

inductive patternsShed (names : UnitNames) :
    Nat → List (Option Pattern) → List (Option Pattern) → List (Option Pattern) → Prop where
  | nil {d} : patternsShed names d [] [] []
  | some {d p f b ps fs bs} : Pattern.Sheds names d p f b → patternsShed names d ps fs bs →
      patternsShed names d (some p :: ps) (some f :: fs) (some b :: bs)
  | none {d ps fs bs} : patternsShed names d ps fs bs →
      patternsShed names d (none :: ps) (none :: fs) (none :: bs)

/-- Parameters with their checks, one statement for every parameter that has a type. -/
inductive paramsShed (names : UnitNames) :
    Nat → List Param → List Param → List Stmt → List Param → Prop where
  | nil {d} : paramsShed names d [] [] [] []
  | untyped {d p f b optional ps fs checks bs} : Pattern.Sheds names d p f b →
      paramsShed names d ps fs checks bs →
      paramsShed names d (⟨p, none, optional⟩ :: ps) (⟨f, none, false⟩ :: fs) checks
        (⟨b, none, false⟩ :: bs)
  | typed {d p f b type optional checked ps fs checks bs} : Pattern.Sheds names d p f b →
      (Param.checked ⟨p, some type, optional⟩).toValue.Checked names type
        (Param.checked ⟨p, some type, optional⟩).label checked →
      paramsShed names d ps fs checks bs →
      paramsShed names d (⟨p, some type, optional⟩ :: ps) (⟨f, none, false⟩ :: fs)
        (.expr checked :: checks) (⟨b, none, false⟩ :: bs)

inductive FunctionBody.Sheds (names : UnitNames) :
    Nat → FunctionBody → FunctionBody → FunctionBody → Prop where
  | block {d ss fs bs} : stmtsShed names d ss fs bs →
      FunctionBody.Sheds names d (.block ss) (.block fs) (.block bs)
  | expr {d e f b} : Expr.Sheds names d e f b →
      FunctionBody.Sheds names d (.expr e) (.expr f) (.expr b)

inductive Function.Sheds (names : UnitNames) : Nat → Function → Function → Function → Prop where
  | unwrapped {d id params fs checks bs body f b returnType typeParams isAsync isArrow isGenerator
        span} :
      returnType = none ∨ isGenerator = true → paramsShed names d params fs checks bs →
      FunctionBody.Sheds names d body f b →
      Function.Sheds names d
        ⟨id, params, body, returnType, typeParams, isAsync, isArrow, isGenerator, span⟩
        ⟨id, fs, f.behind checks, none, [], isAsync, isArrow, isGenerator, span⟩
        ⟨id, bs, b, none, [], isAsync, isArrow, isGenerator, span⟩
  /-- The wrapper inside takes over that the function is an async one. -/
  | wrapped {d id params fs checks bs body f b type typeParams isAsync isArrow span}
      (check : Combinator) :
      paramsShed names d params fs checks bs → FunctionBody.Sheds names d body f b →
      Function.Sheds names d
        ⟨id, params, body, some type, typeParams, isAsync, isArrow, false, span⟩
        ⟨id, fs, f.wrapped names checks check isArrow isAsync, none, [], false, isArrow, false,
          span⟩
        ⟨id, bs, b, none, [], isAsync, isArrow, false, span⟩

inductive ClassMember.Sheds (names : UnitNames) :
    Nat → ClassMember → ClassMember → ClassMember → Prop where
  | method {d key f b kind isStatic func f' b'} : PropKey.Sheds names d key f b →
      Function.Sheds names d func f' b' →
      ClassMember.Sheds names d (.method key kind isStatic func) (.method f kind isStatic f')
        (.method b kind isStatic b')
  | property {d key f b type value f' b' isStatic} : PropKey.Sheds names d key f b →
      optExprSheds names d value f' b' →
      ClassMember.Sheds names d (.property key type value isStatic) (.property f none f' isStatic)
        (.property b none b' isStatic)

inductive membersShed (names : UnitNames) :
    Nat → List ClassMember → List ClassMember → List ClassMember → Prop where
  | nil {d} : membersShed names d [] [] []
  | cons {d m f b ms fs bs} : ClassMember.Sheds names d m f b → membersShed names d ms fs bs →
      membersShed names d (m :: ms) (f :: fs) (b :: bs)

inductive Class.Sheds (names : UnitNames) : Nat → Class → Class → Class → Prop where
  | mk {d id superClass f b typeParams ms fs bs span} : optExprSheds names d superClass f b →
      membersShed names d ms fs bs →
      Class.Sheds names d ⟨id, superClass, typeParams, ms, span⟩ ⟨id, f, [], fs, span⟩
        ⟨id, b, [], bs, span⟩

/-- Declarators of a declaration of the given kind. An initial value is checked where `let` or
`const` declares it with a type. -/
inductive declaratorsShed (names : UnitNames) :
    Nat → VarKind → List Declarator → List Declarator → List Declarator → Prop where
  | nil {d kind} : declaratorsShed names d kind [] [] []
  | unchecked {d kind id f b type init f' b' span ds fs bs} :
      kind = .var ∨ type = none ∨ init = none → Pattern.Sheds names d id f b →
      optExprSheds names d init f' b' → declaratorsShed names d kind ds fs bs →
      declaratorsShed names d kind (⟨id, type, init, span⟩ :: ds) (⟨f, none, f', span⟩ :: fs)
        (⟨b, none, b', span⟩ :: bs)
  | checked {d kind id f b type value f' b' checked span ds fs bs} : kind ≠ .var →
      Pattern.Sheds names d id f b → Expr.Sheds names d value f' b' →
      f'.Checked names type id.label checked → declaratorsShed names d kind ds fs bs →
      declaratorsShed names d kind (⟨id, some type, some value, span⟩ :: ds)
        (⟨f, none, some checked, span⟩ :: fs) (⟨b, none, some b', span⟩ :: bs)

inductive VarDecl.Sheds (names : UnitNames) : Nat → VarDecl → VarDecl → VarDecl → Prop where
  | mk {d kind ds fs bs span} : declaratorsShed names d kind ds fs bs →
      VarDecl.Sheds names d ⟨kind, ds, span⟩ ⟨kind, fs, span⟩ ⟨kind, bs, span⟩

inductive ForInit.Sheds (names : UnitNames) : Nat → ForInit → ForInit → ForInit → Prop where
  | varDecl {d decl f b} : VarDecl.Sheds names d decl f b →
      ForInit.Sheds names d (.varDecl decl) (.varDecl f) (.varDecl b)
  | expr {d e f b} : Expr.Sheds names d e f b →
      ForInit.Sheds names d (.expr e) (.expr f) (.expr b)

inductive optForInitSheds (names : UnitNames) :
    Nat → Option ForInit → Option ForInit → Option ForInit → Prop where
  | none {d} : optForInitSheds names d none none none
  | some {d i f b} : ForInit.Sheds names d i f b →
      optForInitSheds names d (some i) (some f) (some b)

inductive ForHead.Sheds (names : UnitNames) : Nat → ForHead → ForHead → ForHead → Prop where
  | varDecl {d decl f b} : VarDecl.Sheds names d decl f b →
      ForHead.Sheds names d (.varDecl decl) (.varDecl f) (.varDecl b)
  | target {d target f b} : AssignTarget.Sheds names d target f b →
      ForHead.Sheds names d (.target target) (.target f) (.target b)

inductive handlerSheds (names : UnitNames) :
    Nat → Option CatchClause → Option CatchClause → Option CatchClause → Prop where
  | none {d} : handlerSheds names d none none none
  | bare {d ss fs bs} : stmtsShed names d ss fs bs →
      handlerSheds names d (some ⟨none, ss⟩) (some ⟨none, fs⟩) (some ⟨none, bs⟩)
  | param {d p f b ss fs bs} : Pattern.Sheds names d p f b → stmtsShed names d ss fs bs →
      handlerSheds names d (some ⟨some p, ss⟩) (some ⟨some f, fs⟩) (some ⟨some b, bs⟩)

inductive finalizerSheds (names : UnitNames) :
    Nat → Option (List Stmt) → Option (List Stmt) → Option (List Stmt) → Prop where
  | none {d} : finalizerSheds names d none none none
  | some {d ss fs bs} : stmtsShed names d ss fs bs →
      finalizerSheds names d (some ss) (some fs) (some bs)

inductive casesShed (names : UnitNames) :
    Nat → List SwitchCase → List SwitchCase → List SwitchCase → Prop where
  | nil {d} : casesShed names d [] [] []
  | cons {d test f b ss fs bs cs fs' bs'} : optExprSheds names d test f b →
      stmtsShed names d ss fs bs → casesShed names d cs fs' bs' →
      casesShed names d (⟨test, ss⟩ :: cs) (⟨f, fs⟩ :: fs') (⟨b, bs⟩ :: bs')

/-- Statements of a list, with the definitions of recursive types at the same places. -/
inductive stmtsShed (names : UnitNames) : Nat → List Stmt → List Stmt → List Stmt → Prop where
  | nil {d} : stmtsShed names d [] [] []
  | cons {d s f b ss fs bs} : Stmt.Sheds names d s f b → stmtsShed names d ss fs bs →
      stmtsShed names d (s :: ss) (f.toList ++ fs) (b.toList ++ bs)
  | define {d ss fs bs} (definition : Definition) : stmtsShed names d ss fs bs →
      stmtsShed names d ss (definition.toStmt names.runtime :: fs)
        (definition.toStmt names.runtime :: bs)

inductive alternateSheds (names : UnitNames) :
    Nat → Option Stmt → Option Stmt → Option Stmt → Prop where
  | none {d} : alternateSheds names d none none none
  | some {d s f b} : Stmt.Sheds names d s f b →
      alternateSheds names d (some s) (some (orEmptyBlock f)) (some (orEmptyBlock b))

/-- A statement at the depth `d`, which is left as it is where that is too deep. -/
inductive Stmt.Sheds (names : UnitNames) : Nat → Stmt → Option Stmt → Option Stmt → Prop where
  | deep {d s} : Limits.treeDepth ≤ d → Stmt.Sheds names d s (some s) (some s)
  | visited {d s f b} : d < Limits.treeDepth → Stmt.ShedsInside names (d + 1) s f b →
      Stmt.Sheds names d s f b

/-- A statement that is visited, with its parts at the depth `d`. One that carried types only leaves
nothing on either side. -/
inductive Stmt.ShedsInside (names : UnitNames) :
    Nat → Stmt → Option Stmt → Option Stmt → Prop where
  | break {d} (label : Option String) :
      Stmt.ShedsInside names d (.break label) (some (.break label)) (some (.break label))
  | continue {d} (label : Option String) :
      Stmt.ShedsInside names d (.continue label) (some (.continue label)) (some (.continue label))
  | empty {d} : Stmt.ShedsInside names d .empty (some .empty) (some .empty)
  | expr {d e f b} : Expr.Sheds names d e f b →
      Stmt.ShedsInside names d (.expr e) (some (.expr f)) (some (.expr b))
  | varDecl {d decl f b} : VarDecl.Sheds names d decl f b →
      Stmt.ShedsInside names d (.varDecl decl) (some (.varDecl f)) (some (.varDecl b))
  | function {d func f b} : Function.Sheds names d func f b →
      Stmt.ShedsInside names d (.function func) (some (.function f)) (some (.function b))
  | class {d decl f b} : Class.Sheds names d decl f b →
      Stmt.ShedsInside names d (.class decl) (some (.class f)) (some (.class b))
  | ret {d arg f b} : optExprSheds names d arg f b →
      Stmt.ShedsInside names d (.ret arg) (some (.ret f)) (some (.ret b))
  | ifElse {d test f b consequent f' b' alternate f'' b''} : Expr.Sheds names d test f b →
      Stmt.Sheds names d consequent f' b' → alternateSheds names d alternate f'' b'' →
      Stmt.ShedsInside names d (.ifElse test consequent alternate)
        (some (.ifElse f (orEmptyBlock f') f'')) (some (.ifElse b (orEmptyBlock b') b''))
  | block {d ss fs bs} : stmtsShed names d ss fs bs →
      Stmt.ShedsInside names d (.block ss) (some (.block fs)) (some (.block bs))
  | throw {d arg f b} : Expr.Sheds names d arg f b →
      Stmt.ShedsInside names d (.throw arg) (some (.throw f)) (some (.throw b))
  | forLoop {d init f b test f' b' update f'' b'' body s t} : optForInitSheds names d init f b →
      optExprSheds names d test f' b' → optExprSheds names d update f'' b'' →
      Stmt.Sheds names d body s t →
      Stmt.ShedsInside names d (.forLoop init test update body)
        (some (.forLoop f f' f'' (orEmptyBlock s))) (some (.forLoop b b' b'' (orEmptyBlock t)))
  | forIn {d left f b right f' b' body s t} : ForHead.Sheds names d left f b →
      Expr.Sheds names d right f' b' → Stmt.Sheds names d body s t →
      Stmt.ShedsInside names d (.forIn left right body) (some (.forIn f f' (orEmptyBlock s)))
        (some (.forIn b b' (orEmptyBlock t)))
  | forOf {d left f b right f' b' body s t isAwait} : ForHead.Sheds names d left f b →
      Expr.Sheds names d right f' b' → Stmt.Sheds names d body s t →
      Stmt.ShedsInside names d (.forOf left right body isAwait)
        (some (.forOf f f' (orEmptyBlock s) isAwait))
        (some (.forOf b b' (orEmptyBlock t) isAwait))
  | while {d test f b body s t} : Expr.Sheds names d test f b → Stmt.Sheds names d body s t →
      Stmt.ShedsInside names d (.while test body) (some (.while f (orEmptyBlock s)))
        (some (.while b (orEmptyBlock t)))
  | doWhile {d body s t test f b} : Stmt.Sheds names d body s t → Expr.Sheds names d test f b →
      Stmt.ShedsInside names d (.doWhile body test) (some (.doWhile (orEmptyBlock s) f))
        (some (.doWhile (orEmptyBlock t) b))
  | tryCatch {d ss fs bs handler f b finalizer f' b'} : stmtsShed names d ss fs bs →
      handlerSheds names d handler f b → finalizerSheds names d finalizer f' b' →
      Stmt.ShedsInside names d (.tryCatch ss handler finalizer) (some (.tryCatch fs f f'))
        (some (.tryCatch bs b b'))
  | switch {d discriminant f b cs fs bs} : Expr.Sheds names d discriminant f b →
      casesShed names d cs fs bs →
      Stmt.ShedsInside names d (.switch discriminant cs) (some (.switch f fs))
        (some (.switch b bs))
  | labeled {d label body s t} : Stmt.Sheds names d body s t →
      Stmt.ShedsInside names d (.labeled label body) (some (.labeled label (orEmptyBlock s)))
        (some (.labeled label (orEmptyBlock t)))
  /-- The constant of a declared type is the same on both sides. -/
  | typeAlias {d} (decl : TypeAlias) (init : Expr) : Stmt.ShedsInside names d (.typeAlias decl)
      (some (.constDecl decl.id init decl.span)) (some (.constDecl decl.id init decl.span))
  | interface {d} (decl : InterfaceDecl) (init : Expr) :
      Stmt.ShedsInside names d (.interface decl) (some (.constDecl decl.id init decl.span))
        (some (.constDecl decl.id init decl.span))
  | import {d} (decl : ImportDecl) :
      Stmt.ShedsInside names d (.import decl) (decl.toValue?.map .import)
        (decl.toValue?.map .import)
  | export {d declaration f b specifiers source kind} :
      Stmt.Sheds names d declaration (some f) (some b) →
      Stmt.ShedsInside names d (.export (some declaration) specifiers source kind)
        (some (.export (some f) specifiers source .value))
        (some (.export (some b) specifiers source .value))
  | exportNothing {d declaration specifiers source kind} :
      Stmt.Sheds names d declaration none none →
      Stmt.ShedsInside names d (.export (some declaration) specifiers source kind) none none
  | exportNames {d specifiers source kind} :
      Stmt.ShedsInside names d (.export none specifiers source kind)
        (some (.export none specifiers source .value))
        (some (.export none specifiers source .value))
  | exportDefault {d e f b} : Expr.Sheds names d e f b →
      Stmt.ShedsInside names d (.exportDefault e) (some (.exportDefault f))
        (some (.exportDefault b))
end

end TypeGuard
