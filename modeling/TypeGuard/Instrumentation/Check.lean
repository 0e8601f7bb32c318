import TypeGuard.Assertion
import TypeGuard.Destructuring
import TypeGuard.Instrumentation.Visit
import TypeGuard.Lowering.Extension

/-!
# Inserted checks

The checks and declarations that single constructs turn into: the check of a declared, assigned or
returned value, the checks of parameters, and the constants of type declarations.
-/

namespace TypeGuard.Setting

open Visit

/-! ### Values -/

/-- The assertion that a value passes a check. -/
def assertion (cx : Setting) (value : Expr) (check : Combinator) (label : String) :
    Visit Expr := do
  noteAsserts
  return value.asserted cx.names.assert (check.toExpr cx.names.runtime) label

/-- A value with the check of a type around it, unless it is plainly of that type. An optional value
may also be missing. -/
def checkValue (cx : Setting) (env : Environment) (span : Span) (value : Expr) (type : StaticType)
    (optional : Bool) (label : String) : Visit Expr := do
  if value.isPlainly type then return value
  else
    let check ← cx.orFail span (type.lower env none)
    cx.assertion value (if optional then check.orNil else check) label

/-- Records the names of a declared pattern and checks the initial value. A declaration by `var` has
no check. -/
def checkDeclared (cx : Setting) (env : Environment) (kind : VarKind) (span : Span) (id : Pattern)
    (type : Option StaticType) (label : String) (init : Option Expr) : Visit (Option Expr) := do
  match type with
  | some type =>
    if kind = .var ∨ cx.options.skipAsserts then
      recordUntyped id
      return init
    else
      recordTyped id type
      match init with
      | some value => return some (← cx.checkValue env span value type false label)
      | none => return none
  | none =>
    recordUntyped id
    return init

/-- An assigned value with the check of the type that was declared for the name, if there is one and
it is more than `any`. -/
def checkReassigned (cx : Setting) (env : Environment) (span : Span) (name : String)
    (value : Expr) : Visit Expr := do
  match (← lookup name).bind fun b => b.pattern.leafType? b.type name with
  | some type =>
    if value.isPlainly type then return value
    else
      let check ← cx.orFail span (type.lower env none)
      if check.isAny then return value else cx.assertion value check name
  | none => return value

/-- The value of an assignment. Only a plain assignment to an identifier is checked. -/
def checkAssigned (cx : Setting) (env : Environment) (span : Span) (op : String)
    (target : AssignTarget) (value : Expr) : Visit Expr :=
  match target with
  | .pattern (.ident name) =>
    if op = "=" ∧ !cx.options.skipAsserts then cx.checkReassigned env span name value
    else return value
  | _ => return value

/-- The type that a cast reifies. -/
def reified? (cx : Setting) (env : Environment) (span : Span) (type : StaticType) :
    Visit (Option TypeName) := do
  match type with
  | .generic ref =>
    match ← cx.orFail span (ref.classify env) with
    | .reify target => return some target
    | _ => return none
  | _ => return none

/-! ### Functions -/

/-- The checks of a parameter, as statements at the top of the function. -/
def checkParam (cx : Setting) (env : Environment) (span : Span) (p : Param) :
    Visit (List Stmt) := do
  match p.type with
  | some type =>
    if cx.options.skipAsserts then return []
    else
      let checked := p.checked
      return [.expr (← cx.checkValue env span checked.toValue type p.optional checked.label)]
  | none => return []

/-- The check of what a function returns. An async function returns a promise, and the type of a
generator tells about its iterator, which its body never returns. -/
def returnCheck (cx : Setting) (env : Environment) (span : Span) (isAsync isGenerator : Bool)
    (type : Option StaticType) : Visit (Option Combinator) := do
  match type with
  | some type =>
    if cx.options.skipAsserts || isGenerator then return none
    else if isAsync then return some (.builtin .promise)
    else return some (← cx.orFail span (type.lower env none))
  | none => return none

/-- The body of a function with the checks of its parameters in front and the check of its value
around it. -/
def checkedBody (cx : Setting) (isArrow isAsync : Bool) (paramChecks : List Stmt)
    (check : Option Combinator) (body : FunctionBody) : Visit FunctionBody := do
  match check with
  | some check =>
    let value ← cx.assertion (producedValue isArrow isAsync body.stmts) check returnLabel
    return .block (paramChecks ++ [.ret (some value)])
  | none => return if paramChecks.isEmpty then body else .block (paramChecks ++ body.stmts)

/-! ### Type declarations -/

/-- Refuses a reserved name. -/
def refuseReserved (cx : Setting) (span : Span) (name : String) : Visit Unit :=
  if isReservedTypeName name then
    throw (.atSpan cx.file span Diagnostic.codeReservedTypeName [name])
  else return ()

/-- The name that the check of a declaration carries; a recursive type gets its name when it is
declared. -/
def checkName (recursive : Bool) (id : String) : Option String :=
  if recursive then none else some id

/-- The constant for a declared type. A recursive one is declared only, and its definition
deferred. -/
def declareType (cx : Setting) (recursive : Bool) (span : Span) (id : String)
    (check : Combinator) : Visit Stmt := do
  if recursive then
    defer ⟨id, check⟩
    return Definition.declare cx.names.runtime id span
  else return .constDecl id (check.toExpr cx.names.runtime) span

def declareAlias (cx : Setting) (env : Environment) (d : TypeAlias) : Visit Stmt := do
  cx.refuseReserved d.span d.id
  noteTypes
  let check ← cx.orFail d.span
    (d.right.lower (env.child d.typeParams) (checkName d.recursive d.id))
  cx.declareType d.recursive d.span d.id check

def declareInterface (cx : Setting) (env : Environment) (d : InterfaceDecl) : Visit Stmt := do
  cx.refuseReserved d.span d.id
  noteTypes
  let env := env.child d.typeParams
  let name := checkName d.recursive d.id
  if d.parents.isEmpty then
    let check ← cx.orFail d.span (d.body.lower env name)
    cx.declareType d.recursive d.span d.id check
  else
    noteExtend
    let check ← cx.orFail d.span (d.body.lowerExtending env d.parents name)
    cx.declareType d.recursive d.span d.id check

end Setting

namespace ImportSpecifier

/-- Whether the specifier imports the type of a value, which does not exist at run time. -/
def isTypeof : ImportSpecifier → Bool
  | named _ _ (some .typeof) => true
  | _ => false

/-- The specifier as one of a value; types are values at run time. -/
def toValue : ImportSpecifier → ImportSpecifier
  | named imported localName _ => named imported localName none
  | s => s

end ImportSpecifier

namespace ImportDecl

/-- The import as one of values, if anything of it is left. -/
def toValue? (d : ImportDecl) : Option ImportDecl :=
  if d.kind = .typeof then none
  else
    let kept := d.specifiers.filter fun s => !s.isTypeof
    if kept.isEmpty && !d.specifiers.isEmpty then none
    else some { d with specifiers := kept.map ImportSpecifier.toValue, kind := .value }

end ImportDecl

end TypeGuard
