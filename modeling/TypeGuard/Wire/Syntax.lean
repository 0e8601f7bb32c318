import TypeGuard.Syntax
import TypeGuard.Wire.StaticType

/-!
# Syntax in JSON

`Program.toJson` and its companions write trees, and `Program.ofJson?` and its companions read them
back. `Program.ofJsonWithin?` reads a tree that nests no deeper than a given number of brackets.
-/

namespace TypeGuard

open Wire

/-! ### Writing -/

def Span.toJson (s : Span) : Json := .obj [("start", ofUInt32 s.start), ("end", ofUInt32 s.stop)]

namespace VarKind

/-- The name of the variant. -/
def tag : VarKind → String
  | .var => "Var"
  | .let => "Let"
  | .const => "Const"

def all : List VarKind := [.var, .let, .const]

end VarKind

namespace ImportKind

/-- The name of the variant. -/
def tag : ImportKind → String
  | .value => "Value"
  | .type => "Type"
  | .typeof => "Typeof"

def all : List ImportKind := [.value, .type, .typeof]

end ImportKind

namespace MethodKind

/-- The name of the variant. -/
def tag : MethodKind → String
  | .constructor => "Constructor"
  | .method => "Method"
  | .get => "Get"
  | .set => "Set"

def all : List MethodKind := [.constructor, .method, .get, .set]

end MethodKind

def ImportSpecifier.toJson : ImportSpecifier → Json
  | .default localName => variant "Default" (.obj [("local", .str localName)])
  | .namespace localName => variant "Namespace" (.obj [("local", .str localName)])
  | .named imported localName kind =>
    variant "Named" (.obj [("imported", .str imported), ("local", .str localName),
      ("import_kind", match kind with | some k => .str k.tag | none => .null)])

def ImportDecl.toJson (d : ImportDecl) : Json :=
  .obj [("specifiers", .arr (d.specifiers.map ImportSpecifier.toJson)), ("source", .str d.source),
    ("import_kind", .str d.kind.tag)]

def ExportSpecifier.toJson (s : ExportSpecifier) : Json :=
  .obj [("local", .str s.localName), ("exported", .str s.exported)]

def TypeAlias.toJson (d : TypeAlias) : Json :=
  .obj [("id", .str d.id), ("type_params", declaredParamsToJson d.typeParams),
    ("right", d.right.toJson), ("recursive", .bool d.recursive), ("span", d.span.toJson)]

def InterfaceDecl.toJson (d : InterfaceDecl) : Json :=
  .obj [("id", .str d.id), ("type_params", declaredParamsToJson d.typeParams),
    ("extends", .arr (d.parents.map GenericRef.toJson)), ("body", d.body.toJson),
    ("recursive", .bool d.recursive), ("span", d.span.toJson)]

mutual
def Expr.toJson : Expr → Json
  | .ident name => variant "Ident" (.str name)
  | .this => .str "This"
  | .super => .str "Super"
  | .null => .str "Null"
  | .bool value => variant "Bool" (.bool value)
  | .num text => variant "Num" (.str text)
  | .str value => variant "Str" (.str value)
  | .regex pattern flags =>
    variant "Regex" (.obj [("pattern", .str pattern), ("flags", .str flags)])
  | .template quasis exprs =>
    variant "Template" (.obj [("quasis", ofStrings quasis), ("exprs", .arr (exprsToJson exprs))])
  | .taggedTemplate tag quasis exprs =>
    variant "TaggedTemplate" (.obj [("tag", tag.toJson),
      ("quasi", .obj [("quasis", ofStrings quasis), ("exprs", .arr (exprsToJson exprs))])])
  | .array elems => variant "Array" (.arr (elemsToJson elems))
  | .object props => variant "Object" (.arr (objectPropsToJson props))
  | .function func => variant "Function" func.toJson
  | .class decl => variant "Class" decl.toJson
  | .member obj name =>
    variant "Member" (.obj [("object", obj.toJson), ("property", variant "Ident" (.str name))])
  | .index obj key =>
    variant "Member" (.obj [("object", obj.toJson), ("property", variant "Computed" key.toJson)])
  | .call callee args =>
    variant "Call" (.obj [("callee", callee.toJson), ("args", .arr (exprsToJson args))])
  | .new callee args =>
    variant "New" (.obj [("callee", callee.toJson), ("args", .arr (exprsToJson args))])
  | .unary op arg => variant "Unary" (.obj [("operator", .str op), ("argument", arg.toJson)])
  | .update op isPrefix arg =>
    variant "Update" (.obj [("operator", .str op), ("prefix", .bool isPrefix),
      ("argument", arg.toJson)])
  | .binary op left right =>
    variant "Binary" (.obj [("operator", .str op), ("left", left.toJson), ("right", right.toJson)])
  | .conditional test consequent alternate =>
    variant "Conditional" (.obj [("test", test.toJson), ("consequent", consequent.toJson),
      ("alternate", alternate.toJson)])
  | .assign op target value span =>
    variant "Assign" (.obj [("operator", .str op), ("target", target.toJson),
      ("value", value.toJson), ("span", span.toJson)])
  | .seq exprs => variant "Seq" (.arr (exprsToJson exprs))
  | .spread arg => variant "Spread" arg.toJson
  | .await arg => variant "Await" arg.toJson
  | .yield arg delegate =>
    variant "Yield" (.obj [("argument", optExprToJson arg), ("delegate", .bool delegate)])
  | .paren inner => variant "Paren" inner.toJson
  | .cast inner type optional span =>
    variant "TypeCast" (.obj [("expr", inner.toJson), ("annotation", type.toJson),
      ("optional", .bool optional), ("span", span.toJson)])

def exprsToJson : List Expr → List Json
  | [] => []
  | e :: es => e.toJson :: exprsToJson es

def optExprToJson : Option Expr → Json
  | some e => e.toJson
  | none => .null

def elemsToJson : List (Option Expr) → List Json
  | [] => []
  | some e :: es => e.toJson :: elemsToJson es
  | none :: es => .null :: elemsToJson es

def PropKey.toJson : PropKey → Json
  | .ident name => variant "Ident" (.str name)
  | .str value => variant "Str" (.str value)
  | .num text => variant "Num" (.str text)
  | .computed e => variant "Computed" e.toJson

def objectPropsToJson : List ObjectProp → List Json
  | [] => []
  | p :: ps => p.toJson :: objectPropsToJson ps

def ObjectProp.toJson : ObjectProp → Json
  | .keyValue key value shorthand =>
    variant "KeyValue" (.obj [("key", key.toJson), ("value", value.toJson),
      ("shorthand", .bool shorthand)])
  | .method key func => variant "Method" (.obj [("key", key.toJson), ("function", func.toJson)])
  | .spread arg => variant "Spread" arg.toJson

def AssignTarget.toJson : AssignTarget → Json
  | .pattern target => variant "Pattern" target.toJson
  | .expr target => variant "Expr" target.toJson

def Pattern.toJson : Pattern → Json
  | .ident name => variant "Ident" (.str name)
  | .object props => variant "Object" (.arr (patternPropsToJson props))
  | .array elems => variant "Array" (.arr (patternsToJson elems))
  | .default left right =>
    variant "Assign" (.obj [("left", left.toJson), ("right", right.toJson)])
  | .rest inner => variant "Rest" inner.toJson

def patternsToJson : List (Option Pattern) → List Json
  | [] => []
  | some p :: ps => p.toJson :: patternsToJson ps
  | none :: ps => .null :: patternsToJson ps

def patternPropsToJson : List PatternProp → List Json
  | [] => []
  | p :: ps => p.toJson :: patternPropsToJson ps

def PatternProp.toJson : PatternProp → Json
  | .keyValue key value shorthand =>
    variant "KeyValue" (.obj [("key", key.toJson), ("value", value.toJson),
      ("shorthand", .bool shorthand)])
  | .rest inner => variant "Rest" inner.toJson

def Param.toJson : Param → Json
  | ⟨pattern, type, optional⟩ =>
    .obj [("pattern", pattern.toJson), ("annotation", optTypeToJson type),
      ("optional", .bool optional)]

def paramsToJson : List Param → List Json
  | [] => []
  | p :: ps => p.toJson :: paramsToJson ps

def FunctionBody.toJson : FunctionBody → Json
  | .block stmts => variant "Block" (.arr (stmtsToJson stmts))
  | .expr value => variant "Expr" value.toJson

def Function.toJson : Function → Json
  | ⟨id, params, body, returnType, typeParams, isAsync, isArrow, isGenerator, span⟩ =>
    .obj [("id", ofString? id), ("params", .arr (paramsToJson params)), ("body", body.toJson),
      ("return_type", optTypeToJson returnType), ("type_params", declaredParamsToJson typeParams),
      ("is_async", .bool isAsync), ("is_arrow", .bool isArrow),
      ("is_generator", .bool isGenerator), ("span", span.toJson)]

def ClassMember.toJson : ClassMember → Json
  | .method key kind isStatic func =>
    variant "Method" (.obj [("key", key.toJson), ("kind", .str kind.tag),
      ("is_static", .bool isStatic), ("function", func.toJson)])
  | .property key type value isStatic =>
    variant "Property" (.obj [("key", key.toJson), ("annotation", optTypeToJson type),
      ("value", optExprToJson value), ("is_static", .bool isStatic)])

def membersToJson : List ClassMember → List Json
  | [] => []
  | m :: ms => m.toJson :: membersToJson ms

def Class.toJson : Class → Json
  | ⟨id, superClass, typeParams, body, span⟩ =>
    .obj [("id", ofString? id), ("super_class", optExprToJson superClass),
      ("type_params", declaredParamsToJson typeParams), ("body", .arr (membersToJson body)),
      ("span", span.toJson)]

def VarDecl.toJson : VarDecl → Json
  | ⟨kind, declarators, span⟩ =>
    .obj [("kind", .str kind.tag), ("declarations", .arr (declaratorsToJson declarators)),
      ("span", span.toJson)]

def declaratorsToJson : List Declarator → List Json
  | [] => []
  | d :: ds => d.toJson :: declaratorsToJson ds

def Declarator.toJson : Declarator → Json
  | ⟨id, type, init, span⟩ =>
    .obj [("id", id.toJson), ("annotation", optTypeToJson type), ("init", optExprToJson init),
      ("span", span.toJson)]

def ForInit.toJson : ForInit → Json
  | .varDecl decl => variant "VarDecl" decl.toJson
  | .expr value => variant "Expr" value.toJson

def ForHead.toJson : ForHead → Json
  | .varDecl decl => variant "VarDecl" decl.toJson
  | .target target => variant "Target" target.toJson

def CatchClause.toJson : CatchClause → Json
  | ⟨param, body⟩ =>
    .obj [("param", match param with | some p => p.toJson | none => .null),
      ("body", .arr (stmtsToJson body))]

def casesToJson : List SwitchCase → List Json
  | [] => []
  | c :: cs => c.toJson :: casesToJson cs

def SwitchCase.toJson : SwitchCase → Json
  | ⟨test, consequent⟩ =>
    .obj [("test", optExprToJson test), ("consequent", .arr (stmtsToJson consequent))]

def stmtsToJson : List Stmt → List Json
  | [] => []
  | s :: ss => s.toJson :: stmtsToJson ss

def optStmtToJson : Option Stmt → Json
  | some s => s.toJson
  | none => .null

def Stmt.toJson : Stmt → Json
  | .expr value => variant "Expr" value.toJson
  | .varDecl decl => variant "VarDecl" decl.toJson
  | .function func => variant "Function" func.toJson
  | .class decl => variant "Class" decl.toJson
  | .ret arg => variant "Return" (optExprToJson arg)
  | .ifElse test consequent alternate =>
    variant "If" (.obj [("test", test.toJson), ("consequent", consequent.toJson),
      ("alternate", optStmtToJson alternate)])
  | .block stmts => variant "Block" (.arr (stmtsToJson stmts))
  | .throw arg => variant "Throw" arg.toJson
  | .forLoop init test update body =>
    variant "For" (.obj [("init", match init with | some i => i.toJson | none => .null),
      ("test", optExprToJson test), ("update", optExprToJson update), ("body", body.toJson)])
  | .forIn left right body =>
    variant "ForIn" (.obj [("left", left.toJson), ("right", right.toJson), ("body", body.toJson)])
  | .forOf left right body isAwait =>
    variant "ForOf" (.obj [("left", left.toJson), ("right", right.toJson), ("body", body.toJson),
      ("is_await", .bool isAwait)])
  | .while test body => variant "While" (.obj [("test", test.toJson), ("body", body.toJson)])
  | .doWhile body test => variant "DoWhile" (.obj [("body", body.toJson), ("test", test.toJson)])
  | .tryCatch stmts handler finalizer =>
    variant "Try" (.obj [("block", .arr (stmtsToJson stmts)),
      ("handler", match handler with | some h => h.toJson | none => .null),
      ("finalizer", match finalizer with | some ss => .arr (stmtsToJson ss) | none => .null)])
  | .switch discriminant cases =>
    variant "Switch" (.obj [("discriminant", discriminant.toJson),
      ("cases", .arr (casesToJson cases))])
  | .break label => variant "Break" (ofString? label)
  | .continue label => variant "Continue" (ofString? label)
  | .labeled label body => variant "Labeled" (.obj [("label", .str label), ("body", body.toJson)])
  | .empty => .str "Empty"
  | .typeAlias decl => variant "TypeAlias" decl.toJson
  | .interface decl => variant "Interface" decl.toJson
  | .import decl => variant "Import" decl.toJson
  | .export declaration specifiers source kind =>
    variant "Export" (.obj [("declaration", optStmtToJson declaration),
      ("specifiers", .arr (specifiers.map ExportSpecifier.toJson)), ("source", ofString? source),
      ("export_kind", .str kind.tag)])
  | .exportDefault value => variant "ExportDefault" value.toJson
end

def Program.toJson (p : Program) : Json :=
  .obj [("file_name", .str p.fileName), ("body", .arr (stmtsToJson p.body))]

/-! ### Reading -/

namespace Wire

def span? : Nat → Json → Option Span
  | 0, _ => none
  | _ + 1, j => do
    let [start, stop] ← fields? ["start", "end"] j | none
    return ⟨← required uint32? start, ← required uint32? stop⟩

/-- A span that is the dummy where it is absent. -/
def spanField (n : Nat) : Option Json → Option Span := defaulted .dummy (span? n)

def varKind? : Nat → Json → Option VarKind := unit? (VarKind.all.map fun k => (k.tag, k))

def importKind? : Nat → Json → Option ImportKind := unit? (ImportKind.all.map fun k => (k.tag, k))

def methodKind? : Nat → Json → Option MethodKind := unit? (MethodKind.all.map fun k => (k.tag, k))

/-- The record of a specifier with a local name only. -/
def localName? : Nat → Json → Option String
  | 0, _ => none
  | _ + 1, j => do
    let [localName] ← fields? ["local"] j | none
    required string? localName

def namedSpecifier? : Nat → Json → Option ImportSpecifier
  | 0, _ => none
  | n + 1, j => do
    let [imported, localName, kind] ← fields? ["imported", "local", "import_kind"] j | none
    return .named (← required string? imported) (← required string? localName)
      (← omittable (importKind? n) kind)

def importSpecifier? : Nat → Json → Option ImportSpecifier
  | n + 1, .obj [("Default", j)] => (localName? n j).map .default
  | n + 1, .obj [("Namespace", j)] => (localName? n j).map .namespace
  | n + 1, .obj [("Named", j)] => namedSpecifier? n j
  | _, _ => none

def importSpecifiers? : Nat → Json → Option (List ImportSpecifier)
  | 0, _ => none
  | n + 1, j => elems? (importSpecifier? n) j

def importDecl? : Nat → Json → Option ImportDecl
  | 0, _ => none
  | n + 1, j => do
    let [specifiers, source, kind] ← fields? ["specifiers", "source", "import_kind"] j | none
    return ⟨← required (importSpecifiers? n) specifiers, ← required string? source,
      ← required (importKind? n) kind⟩

def exportSpecifier? : Nat → Json → Option ExportSpecifier
  | 0, _ => none
  | _ + 1, j => do
    let [localName, exported] ← fields? ["local", "exported"] j | none
    return ⟨← required string? localName, ← required string? exported⟩

def exportSpecifiers? : Nat → Json → Option (List ExportSpecifier)
  | 0, _ => none
  | n + 1, j => elems? (exportSpecifier? n) j

def typeAlias? : Nat → Json → Option TypeAlias
  | 0, _ => none
  | n + 1, j => do
    let [id, typeParams, right, recursive, span] ←
      fields? ["id", "type_params", "right", "recursive", "span"] j | none
    return ⟨← required string? id, ← defaulted [] (declaredParams? n) typeParams,
      ← required (staticType? n) right, ← flag recursive, ← spanField n span⟩

def genericRefs? : Nat → Json → Option (List GenericRef)
  | 0, _ => none
  | n + 1, j => elems? (genericRef? n) j

def interfaceDecl? : Nat → Json → Option InterfaceDecl
  | 0, _ => none
  | n + 1, j => do
    let [id, typeParams, parents, body, recursive, span] ←
      fields? ["id", "type_params", "extends", "body", "recursive", "span"] j | none
    return ⟨← required string? id, ← defaulted [] (declaredParams? n) typeParams,
      ← defaulted [] (genericRefs? n) parents, ← required (objectShape? n) body,
      ← flag recursive, ← spanField n span⟩

mutual
def expr? : Nat → Json → Option Expr
  | _, .str "This" => some .this
  | _, .str "Super" => some .super
  | _, .str "Null" => some .null
  | n + 1, .obj [(tag, j)] =>
    match tag with
    | "Ident" => (string? j).map .ident
    | "This" => match j with | .null => some .this | _ => none
    | "Super" => match j with | .null => some .super | _ => none
    | "Null" => match j with | .null => some .null | _ => none
    | "Bool" => (bool? j).map .bool
    | "Num" => (string? j).map .num
    | "Str" => (string? j).map .str
    | "Regex" => regex? n j
    | "Template" => (template? n j).map fun (quasis, exprs) => .template quasis exprs
    | "TaggedTemplate" => taggedTemplate? n j
    | "Array" => (elemExprs? n j).map .array
    | "Object" => (objectProps? n j).map .object
    | "Function" => (function? n j).map .function
    | "Class" => (class? n j).map .class
    | "Member" => access? n j
    | "Call" => (application? n j).map fun (callee, args) => .call callee args
    | "New" => (application? n j).map fun (callee, args) => .new callee args
    | "Unary" => unary? n j
    | "Update" => update? n j
    | "Binary" => binary? n j
    | "Conditional" => conditional? n j
    | "Assign" => assign? n j
    | "Seq" => (exprs? n j).map .seq
    | "Spread" => (expr? n j).map .spread
    | "Await" => (expr? n j).map .await
    | "Yield" => yield? n j
    | "Paren" => (expr? n j).map .paren
    | "TypeCast" => cast? n j
    | _ => none
  | _, _ => none

def regex? : Nat → Json → Option Expr
  | 0, _ => none
  | _ + 1, j => do
    let [pattern, flags] ← fields? ["pattern", "flags"] j | none
    return .regex (← required string? pattern) (← defaulted "" string? flags)

def exprs? : Nat → Json → Option (List Expr)
  | 0, _ => none
  | n + 1, j => elems? (expr? n) j

def elemExprs? : Nat → Json → Option (List (Option Expr))
  | 0, _ => none
  | n + 1, j => elems? (nullable (expr? n)) j

def template? : Nat → Json → Option (List String × List Expr)
  | 0, _ => none
  | n + 1, j => do
    let [quasis, exprs] ← fields? ["quasis", "exprs"] j | none
    return (← required (strings? n) quasis, ← defaulted [] (exprs? n) exprs)

def taggedTemplate? : Nat → Json → Option Expr
  | 0, _ => none
  | n + 1, j => do
    let [tag, quasi] ← fields? ["tag", "quasi"] j | none
    let tag ← required (expr? n) tag
    let (quasis, exprs) ← required (template? n) quasi
    return .taggedTemplate tag quasis exprs

def access? : Nat → Json → Option Expr
  | 0, _ => none
  | n + 1, j => do
    let [obj, property] ← fields? ["object", "property"] j | none
    let obj ← required (expr? n) obj
    match ← required (accessKey? n) property with
    | .inl name => return .member obj name
    | .inr key => return .index obj key

/-- The property of an access: a name, or an expression in brackets. -/
def accessKey? : Nat → Json → Option (String ⊕ Expr)
  | _ + 1, .obj [("Ident", j)] => (string? j).map .inl
  | n + 1, .obj [("Computed", j)] => (expr? n j).map .inr
  | _, _ => none

def application? : Nat → Json → Option (Expr × List Expr)
  | 0, _ => none
  | n + 1, j => do
    let [callee, args] ← fields? ["callee", "args"] j | none
    return (← required (expr? n) callee, ← required (exprs? n) args)

def unary? : Nat → Json → Option Expr
  | 0, _ => none
  | n + 1, j => do
    let [op, arg] ← fields? ["operator", "argument"] j | none
    return .unary (← required string? op) (← required (expr? n) arg)

def update? : Nat → Json → Option Expr
  | 0, _ => none
  | n + 1, j => do
    let [op, isPrefix, arg] ← fields? ["operator", "prefix", "argument"] j | none
    return .update (← required string? op) (← flag isPrefix) (← required (expr? n) arg)

def binary? : Nat → Json → Option Expr
  | 0, _ => none
  | n + 1, j => do
    let [op, left, right] ← fields? ["operator", "left", "right"] j | none
    return .binary (← required string? op) (← required (expr? n) left) (← required (expr? n) right)

def conditional? : Nat → Json → Option Expr
  | 0, _ => none
  | n + 1, j => do
    let [test, consequent, alternate] ← fields? ["test", "consequent", "alternate"] j | none
    return .conditional (← required (expr? n) test) (← required (expr? n) consequent)
      (← required (expr? n) alternate)

def assign? : Nat → Json → Option Expr
  | 0, _ => none
  | n + 1, j => do
    let [op, target, value, span] ← fields? ["operator", "target", "value", "span"] j | none
    return .assign (← required string? op) (← required (assignTarget? n) target)
      (← required (expr? n) value) (← spanField n span)

def yield? : Nat → Json → Option Expr
  | 0, _ => none
  | n + 1, j => do
    let [arg, delegate] ← fields? ["argument", "delegate"] j | none
    return .yield (← omittable (expr? n) arg) (← flag delegate)

def cast? : Nat → Json → Option Expr
  | 0, _ => none
  | n + 1, j => do
    let [inner, type, opt, span] ← fields? ["expr", "annotation", "optional", "span"] j | none
    return .cast (← required (expr? n) inner) (← required (staticType? n) type) (← flag opt)
      (← spanField n span)

def propKey? : Nat → Json → Option PropKey
  | _ + 1, .obj [("Ident", j)] => (string? j).map .ident
  | _ + 1, .obj [("Str", j)] => (string? j).map .str
  | _ + 1, .obj [("Num", j)] => (string? j).map .num
  | n + 1, .obj [("Computed", j)] => (expr? n j).map .computed
  | _, _ => none

def objectProps? : Nat → Json → Option (List ObjectProp)
  | 0, _ => none
  | n + 1, j => elems? (objectProp? n) j

def objectProp? : Nat → Json → Option ObjectProp
  | n + 1, .obj [("KeyValue", j)] => keyValue? n j
  | n + 1, .obj [("Method", j)] => objectMethod? n j
  | n + 1, .obj [("Spread", j)] => (expr? n j).map .spread
  | _, _ => none

def keyValue? : Nat → Json → Option ObjectProp
  | 0, _ => none
  | n + 1, j => do
    let [key, value, shorthand] ← fields? ["key", "value", "shorthand"] j | none
    return .keyValue (← required (propKey? n) key) (← required (expr? n) value) (← flag shorthand)

def objectMethod? : Nat → Json → Option ObjectProp
  | 0, _ => none
  | n + 1, j => do
    let [key, func] ← fields? ["key", "function"] j | none
    return .method (← required (propKey? n) key) (← required (function? n) func)

def assignTarget? : Nat → Json → Option AssignTarget
  | n + 1, .obj [("Pattern", j)] => (pattern? n j).map .pattern
  | n + 1, .obj [("Expr", j)] => (expr? n j).map .expr
  | _, _ => none

def pattern? : Nat → Json → Option Pattern
  | _ + 1, .obj [("Ident", j)] => (string? j).map .ident
  | n + 1, .obj [("Object", j)] => (patternProps? n j).map .object
  | n + 1, .obj [("Array", j)] => (elemPatterns? n j).map .array
  | n + 1, .obj [("Assign", j)] => defaultPattern? n j
  | n + 1, .obj [("Rest", j)] => (pattern? n j).map .rest
  | _, _ => none

def defaultPattern? : Nat → Json → Option Pattern
  | 0, _ => none
  | n + 1, j => do
    let [left, right] ← fields? ["left", "right"] j | none
    return .default (← required (pattern? n) left) (← required (expr? n) right)

def elemPatterns? : Nat → Json → Option (List (Option Pattern))
  | 0, _ => none
  | n + 1, j => elems? (nullable (pattern? n)) j

def patternProps? : Nat → Json → Option (List PatternProp)
  | 0, _ => none
  | n + 1, j => elems? (patternProp? n) j

def patternProp? : Nat → Json → Option PatternProp
  | n + 1, .obj [("KeyValue", j)] => keyPattern? n j
  | n + 1, .obj [("Rest", j)] => (pattern? n j).map .rest
  | _, _ => none

def keyPattern? : Nat → Json → Option PatternProp
  | 0, _ => none
  | n + 1, j => do
    let [key, value, shorthand] ← fields? ["key", "value", "shorthand"] j | none
    return .keyValue (← required (propKey? n) key) (← required (pattern? n) value)
      (← flag shorthand)

def param? : Nat → Json → Option Param
  | 0, _ => none
  | n + 1, j => do
    let [pattern, type, opt] ← fields? ["pattern", "annotation", "optional"] j | none
    return ⟨← required (pattern? n) pattern, ← omittable (staticType? n) type, ← flag opt⟩

def params? : Nat → Json → Option (List Param)
  | 0, _ => none
  | n + 1, j => elems? (param? n) j

def functionBody? : Nat → Json → Option FunctionBody
  | n + 1, .obj [("Block", j)] => (stmts? n j).map .block
  | n + 1, .obj [("Expr", j)] => (expr? n j).map .expr
  | _, _ => none

def function? : Nat → Json → Option Function
  | 0, _ => none
  | n + 1, j => do
    let [id, params, body, returnType, typeParams, isAsync, isArrow, isGenerator, span] ←
      fields? ["id", "params", "body", "return_type", "type_params", "is_async", "is_arrow",
        "is_generator", "span"] j | none
    return ⟨← omittable string? id, ← required (params? n) params,
      ← required (functionBody? n) body, ← omittable (staticType? n) returnType,
      ← defaulted [] (declaredParams? n) typeParams, ← flag isAsync, ← flag isArrow,
      ← flag isGenerator, ← spanField n span⟩

def class? : Nat → Json → Option Class
  | 0, _ => none
  | n + 1, j => do
    let [id, superClass, typeParams, body, span] ←
      fields? ["id", "super_class", "type_params", "body", "span"] j | none
    return ⟨← omittable string? id, ← omittable (expr? n) superClass,
      ← defaulted [] (declaredParams? n) typeParams, ← required (classMembers? n) body,
      ← spanField n span⟩

def classMembers? : Nat → Json → Option (List ClassMember)
  | 0, _ => none
  | n + 1, j => elems? (classMember? n) j

def classMember? : Nat → Json → Option ClassMember
  | n + 1, .obj [("Method", j)] => classMethod? n j
  | n + 1, .obj [("Property", j)] => classProperty? n j
  | _, _ => none

def classMethod? : Nat → Json → Option ClassMember
  | 0, _ => none
  | n + 1, j => do
    let [key, kind, isStatic, func] ← fields? ["key", "kind", "is_static", "function"] j | none
    return .method (← required (propKey? n) key) (← required (methodKind? n) kind)
      (← flag isStatic) (← required (function? n) func)

def classProperty? : Nat → Json → Option ClassMember
  | 0, _ => none
  | n + 1, j => do
    let [key, type, value, isStatic] ← fields? ["key", "annotation", "value", "is_static"] j
      | none
    return .property (← required (propKey? n) key) (← omittable (staticType? n) type)
      (← omittable (expr? n) value) (← flag isStatic)

def varDecl? : Nat → Json → Option VarDecl
  | 0, _ => none
  | n + 1, j => do
    let [kind, declarators, span] ← fields? ["kind", "declarations", "span"] j | none
    return ⟨← required (varKind? n) kind, ← required (declarators? n) declarators,
      ← spanField n span⟩

def declarators? : Nat → Json → Option (List Declarator)
  | 0, _ => none
  | n + 1, j => elems? (declarator? n) j

def declarator? : Nat → Json → Option Declarator
  | 0, _ => none
  | n + 1, j => do
    let [id, type, init, span] ← fields? ["id", "annotation", "init", "span"] j | none
    return ⟨← required (pattern? n) id, ← omittable (staticType? n) type,
      ← omittable (expr? n) init, ← spanField n span⟩

def forInit? : Nat → Json → Option ForInit
  | n + 1, .obj [("VarDecl", j)] => (varDecl? n j).map .varDecl
  | n + 1, .obj [("Expr", j)] => (expr? n j).map .expr
  | _, _ => none

def forHead? : Nat → Json → Option ForHead
  | n + 1, .obj [("VarDecl", j)] => (varDecl? n j).map .varDecl
  | n + 1, .obj [("Target", j)] => (assignTarget? n j).map .target
  | _, _ => none

def catchClause? : Nat → Json → Option CatchClause
  | 0, _ => none
  | n + 1, j => do
    let [param, body] ← fields? ["param", "body"] j | none
    return ⟨← omittable (pattern? n) param, ← required (stmts? n) body⟩

def switchCases? : Nat → Json → Option (List SwitchCase)
  | 0, _ => none
  | n + 1, j => elems? (switchCase? n) j

def switchCase? : Nat → Json → Option SwitchCase
  | 0, _ => none
  | n + 1, j => do
    let [test, consequent] ← fields? ["test", "consequent"] j | none
    return ⟨← omittable (expr? n) test, ← required (stmts? n) consequent⟩

def stmts? : Nat → Json → Option (List Stmt)
  | 0, _ => none
  | n + 1, j => elems? (stmt? n) j

def stmt? : Nat → Json → Option Stmt
  | _, .str "Empty" => some .empty
  | n + 1, .obj [(tag, j)] =>
    match tag with
    | "Expr" => (expr? n j).map .expr
    | "VarDecl" => (varDecl? n j).map .varDecl
    | "Function" => (function? n j).map .function
    | "Class" => (class? n j).map .class
    | "Return" => (nullable (expr? n) j).map .ret
    | "If" => ifElse? n j
    | "Block" => (stmts? n j).map .block
    | "Throw" => (expr? n j).map .throw
    | "For" => forLoop? n j
    | "ForIn" => forIn? n j
    | "ForOf" => forOf? n j
    | "While" => while? n j
    | "DoWhile" => doWhile? n j
    | "Try" => tryCatch? n j
    | "Switch" => switch? n j
    | "Break" => (nullable string? j).map .break
    | "Continue" => (nullable string? j).map .continue
    | "Labeled" => labeled? n j
    | "Empty" => match j with | .null => some .empty | _ => none
    | "TypeAlias" => (typeAlias? n j).map .typeAlias
    | "Interface" => (interfaceDecl? n j).map .interface
    | "Import" => (importDecl? n j).map .import
    | "Export" => export? n j
    | "ExportDefault" => (expr? n j).map .exportDefault
    | _ => none
  | _, _ => none

def ifElse? : Nat → Json → Option Stmt
  | 0, _ => none
  | n + 1, j => do
    let [test, consequent, alternate] ← fields? ["test", "consequent", "alternate"] j | none
    return .ifElse (← required (expr? n) test) (← required (stmt? n) consequent)
      (← omittable (stmt? n) alternate)

def forLoop? : Nat → Json → Option Stmt
  | 0, _ => none
  | n + 1, j => do
    let [init, test, update, body] ← fields? ["init", "test", "update", "body"] j | none
    return .forLoop (← omittable (forInit? n) init) (← omittable (expr? n) test)
      (← omittable (expr? n) update) (← required (stmt? n) body)

def forIn? : Nat → Json → Option Stmt
  | 0, _ => none
  | n + 1, j => do
    let [left, right, body] ← fields? ["left", "right", "body"] j | none
    return .forIn (← required (forHead? n) left) (← required (expr? n) right)
      (← required (stmt? n) body)

def forOf? : Nat → Json → Option Stmt
  | 0, _ => none
  | n + 1, j => do
    let [left, right, body, isAwait] ← fields? ["left", "right", "body", "is_await"] j | none
    return .forOf (← required (forHead? n) left) (← required (expr? n) right)
      (← required (stmt? n) body) (← flag isAwait)

def while? : Nat → Json → Option Stmt
  | 0, _ => none
  | n + 1, j => do
    let [test, body] ← fields? ["test", "body"] j | none
    return .while (← required (expr? n) test) (← required (stmt? n) body)

def doWhile? : Nat → Json → Option Stmt
  | 0, _ => none
  | n + 1, j => do
    let [body, test] ← fields? ["body", "test"] j | none
    return .doWhile (← required (stmt? n) body) (← required (expr? n) test)

def tryCatch? : Nat → Json → Option Stmt
  | 0, _ => none
  | n + 1, j => do
    let [body, handler, finalizer] ← fields? ["block", "handler", "finalizer"] j | none
    return .tryCatch (← required (stmts? n) body) (← omittable (catchClause? n) handler)
      (← omittable (stmts? n) finalizer)

def switch? : Nat → Json → Option Stmt
  | 0, _ => none
  | n + 1, j => do
    let [discriminant, cases] ← fields? ["discriminant", "cases"] j | none
    return .switch (← required (expr? n) discriminant) (← required (switchCases? n) cases)

def labeled? : Nat → Json → Option Stmt
  | 0, _ => none
  | n + 1, j => do
    let [label, body] ← fields? ["label", "body"] j | none
    return .labeled (← required string? label) (← required (stmt? n) body)

def export? : Nat → Json → Option Stmt
  | 0, _ => none
  | n + 1, j => do
    let [declaration, specifiers, source, kind] ←
      fields? ["declaration", "specifiers", "source", "export_kind"] j | none
    return .export (← omittable (stmt? n) declaration)
      (← defaulted [] (exportSpecifiers? n) specifiers) (← omittable string? source)
      (← required (importKind? n) kind)
end

def program? : Nat → Json → Option Program
  | 0, _ => none
  | n + 1, j => do
    let [fileName, body] ← fields? ["file_name", "body"] j | none
    return ⟨← defaulted "" string? fileName, ← required (stmts? n) body⟩

end Wire

/-- The unit that a value denotes. -/
def Program.ofJson? (j : Json) : Option Program := program? j.depth j

def Stmt.ofJson? (j : Json) : Option Stmt := stmt? j.depth j

def Expr.ofJson? (j : Json) : Option Expr := expr? j.depth j

def Pattern.ofJson? (j : Json) : Option Pattern := pattern? j.depth j

def Param.ofJson? (j : Json) : Option Param := param? j.depth j

def FunctionBody.ofJson? (j : Json) : Option FunctionBody := functionBody? j.depth j

def Span.ofJson? (j : Json) : Option Span := span? j.depth j

/-- The unit that a value denotes, if reading it opens at most `limit` brackets inside one
another. -/
def Program.ofJsonWithin? (limit : Nat) (j : Json) : Option Program := program? limit j

end TypeGuard
