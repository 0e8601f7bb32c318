import TypeGuard.Printing.Precedence
import TypeGuard.Printing.StaticType

/-!
# Printed syntax

The text of a tree in either layout. The texts of statements, expressions and patterns are computed
by recursion on the tree; `Expr.within` puts the parentheses that a place asks for.
-/

namespace TypeGuard

open Text (quote isLetter)

/-- The text of an expression in a place that asks for the precedence `level`. -/
def Expr.within (level : Nat) (e : Expr) (text : String) : String :=
  parensIf (e.precedence < level) text

/-- An operator before its operand, with a blank after it where it is a word. -/
def prefixOperatorText (op : String) : String :=
  if op.toList.all isLetter then op ++ " " else op

def jumpText (keyword : String) : Option String → String
  | some label => keyword ++ " " ++ label ++ ";"
  | none => keyword ++ ";"

/-- Whether the property of an object literal may be printed by its name alone. -/
def isShorthandValue : PropKey → Expr → Bool
  | .ident key, .ident name => key == name
  | _, _ => false

/-- Whether the property of an object pattern may be printed by its pattern alone. -/
def isShorthandPattern : PropKey → Pattern → Bool
  | .ident key, .ident name => name == key
  | .ident key, .default (.ident name) _ => name == key
  | _, _ => false

namespace ImportKind

/-- The word before an import clause or specifier. -/
def word : ImportKind → String
  | .type => "type "
  | .typeof => "typeof "
  | .value => ""

end ImportKind

namespace ImportSpecifier

/-- The text of a specifier that stands outside braces. -/
def leadingText? : ImportSpecifier → Option String
  | .default name => some name
  | .namespace name => some ("* as " ++ name)
  | .named .. => none

/-- The text of a specifier that stands between braces. -/
def namedText? : ImportSpecifier → Option String
  | .named imported localName kind =>
    some ((kind.map ImportKind.word).getD "" ++ imported ++
      if imported = localName then "" else " as " ++ localName)
  | _ => none

end ImportSpecifier

def ImportDecl.text (d : ImportDecl) : String :=
  let named := d.specifiers.filterMap ImportSpecifier.namedText?
  let clauses := d.specifiers.filterMap ImportSpecifier.leadingText? ++
    if named.isEmpty then [] else [bracedList named]
  "import " ++ d.kind.word ++ (if clauses.isEmpty then "" else commaSep clauses ++ " from ") ++
    quote d.source ++ ";"

def ExportSpecifier.text (s : ExportSpecifier) : String :=
  if s.localName = s.exported then s.localName else s.localName ++ " as " ++ s.exported

/-- The text of an export that declares nothing. -/
def exportListText (specifiers : List ExportSpecifier) (source : Option String)
    (kind : ImportKind) : String :=
  "export " ++ (if kind = .type then "type " else "") ++
    "\x7b " ++ commaSep (specifiers.map ExportSpecifier.text) ++ " \x7d" ++
    (match source with | some source => " from " ++ quote source | none => "") ++ ";"

def TypeAlias.text (d : TypeAlias) : String :=
  "type " ++ d.id ++ declaredParamsText d.typeParams ++ " = " ++ d.right.text ++ ";"

def InterfaceDecl.text (d : InterfaceDecl) : String :=
  "interface " ++ d.id ++ declaredParamsText d.typeParams ++
    (if d.parents.isEmpty then "" else " extends " ++ commaSep (d.parents.map GenericRef.text)) ++
    " " ++ d.body.text

def MethodKind.word : MethodKind → String
  | .get => "get "
  | .set => "set "
  | .constructor | .method => ""

/-- The word of a flag that is set. -/
def wordIf (flag : Bool) (word : String) : String := if flag then word else ""

mutual
/-- The text of an expression, without parentheses of its own. -/
def Expr.text (l : Layout) : Expr → String
  | .ident name => name
  | .this => "this"
  | .super => "super"
  | .null => "null"
  | .bool value => boolText value
  | .num text => text
  | .str value => quote value
  | .regex pattern flags => "/" ++ pattern ++ "/" ++ flags
  | .template quasis exprs => "`" ++ templateText l quasis exprs ++ "`"
  | .taggedTemplate tag quasis exprs =>
    tag.within Precedence.call (tag.text l) ++ "`" ++ templateText l quasis exprs ++ "`"
  | .array elems => "[" ++ commaSep (elemTexts l elems) ++ "]"
  | .object props => bracedList (objectPropTexts l props)
  | .function func => func.text l
  | .class decl => decl.text l
  | .member obj name => obj.within Precedence.call (obj.text l) ++ "." ++ name
  | .index obj key => obj.within Precedence.call (obj.text l) ++ "[" ++ key.text l ++ "]"
  | .call callee args =>
    callee.within Precedence.call (callee.text l) ++ inParens (commaSep (argTexts l args))
  | .new callee args =>
    "new " ++ callee.within Precedence.call (callee.text l) ++
      inParens (commaSep (argTexts l args))
  | .unary op arg => prefixOperatorText op ++ arg.within Precedence.unary (arg.text l)
  | .update op true arg => op ++ arg.within Precedence.unary (arg.text l)
  | .update op false arg => arg.within Precedence.call (arg.text l) ++ op
  | .binary op left right =>
    left.within (Precedence.ofOperator op) (left.text l) ++ " " ++ op ++ " " ++
      right.within (Precedence.ofOperator op + 1) (right.text l)
  | .conditional test consequent alternate =>
    test.within (Precedence.conditional + 1) (test.text l) ++ " ? " ++
      consequent.within Precedence.assignment (consequent.text l) ++ " : " ++
      alternate.within Precedence.assignment (alternate.text l)
  | .assign op target value _ =>
    target.text l ++ " " ++ op ++ " " ++ value.within Precedence.assignment (value.text l)
  | .seq exprs => commaSep (argTexts l exprs)
  | .spread arg => "..." ++ arg.within Precedence.assignment (arg.text l)
  | .await arg => "await " ++ arg.within Precedence.unary (arg.text l)
  | .yield none delegate => if delegate then "yield*" else "yield"
  | .yield (some arg) delegate =>
    (if delegate then "yield* " else "yield ") ++ arg.within Precedence.assignment (arg.text l)
  | .paren inner => inParens (inner.text l)
  | .cast inner type optional _ =>
    inParens (inner.within Precedence.assignment (inner.text l) ++ wordIf optional "?" ++ ": " ++
      type.text)

/-- The texts of arguments, which bind as tightly as assignments. -/
def argTexts (l : Layout) : List Expr → List String
  | [] => []
  | e :: es => e.within Precedence.assignment (e.text l) :: argTexts l es

/-- Raw texts and substitutions by turns; what has no raw text before it is left out. -/
def templateText (l : Layout) : List String → List Expr → String
  | quasis, [] => String.join quasis
  | [], _ :: _ => ""
  | quasi :: quasis, e :: es => quasi ++ "$\x7b" ++ e.text l ++ "\x7d" ++ templateText l quasis es

/-- The texts of array elements; a hole is empty, and the last one needs a comma of its own. -/
def elemTexts (l : Layout) : List (Option Expr) → List String
  | [] => []
  | [none] => [","]
  | none :: es => "" :: elemTexts l es
  | some e :: es => e.within Precedence.assignment (e.text l) :: elemTexts l es

def PropKey.text (l : Layout) : PropKey → String
  | .ident name => name
  | .str value => quote value
  | .num text => text
  | .computed e => "[" ++ e.within Precedence.assignment (e.text l) ++ "]"

def objectPropTexts (l : Layout) : List ObjectProp → List String
  | [] => []
  | p :: ps => p.text l :: objectPropTexts l ps

def ObjectProp.text (l : Layout) : ObjectProp → String
  | .keyValue key value shorthand =>
    let valueText := value.within Precedence.assignment (value.text l)
    if shorthand && isShorthandValue key value then valueText else key.text l ++ ": " ++ valueText
  | .method key func => func.methodText l (key.text l)
  | .spread arg => "..." ++ arg.within Precedence.assignment (arg.text l)

def AssignTarget.text (l : Layout) : AssignTarget → String
  | .pattern target => target.text l
  | .expr target => target.within Precedence.call (target.text l)

def Pattern.text (l : Layout) : Pattern → String
  | .ident name => name
  | .object props => bracedList (patternPropTexts l props)
  | .array elems => "[" ++ commaSep (patternTexts l elems) ++ "]"
  | .default left right =>
    left.text l ++ " = " ++ right.within Precedence.assignment (right.text l)
  | .rest inner => "..." ++ inner.text l

/-- The texts of pattern elements; a hole is empty, and the last one needs a comma of its own. -/
def patternTexts (l : Layout) : List (Option Pattern) → List String
  | [] => []
  | [none] => [","]
  | none :: ps => "" :: patternTexts l ps
  | some p :: ps => p.text l :: patternTexts l ps

def patternPropTexts (l : Layout) : List PatternProp → List String
  | [] => []
  | p :: ps => p.text l :: patternPropTexts l ps

def PatternProp.text (l : Layout) : PatternProp → String
  | .keyValue key value shorthand =>
    if shorthand && isShorthandPattern key value then value.text l
    else key.text l ++ ": " ++ value.text l
  | .rest inner => "..." ++ inner.text l

/-- The text of a parameter: its type stands between the pattern and the default value. -/
def Param.text (l : Layout) : Param → String
  | ⟨.default left right, type, optional⟩ =>
    left.text l ++ wordIf optional "?" ++ ascription type ++ " = " ++
      right.within Precedence.assignment (right.text l)
  | ⟨pattern, type, optional⟩ => pattern.text l ++ wordIf optional "?" ++ ascription type

def paramTexts (l : Layout) : List Param → List String
  | [] => []
  | p :: ps => p.text l :: paramTexts l ps

/-- The text of a function that is no method. -/
def Function.text (l : Layout) : Function → String
  | ⟨id, params, body, returnType, typeParams, isAsync, isArrow, isGenerator, _⟩ =>
    let head := declaredParamsText typeParams ++ inParens (commaSep (paramTexts l params)) ++
      ascription returnType
    wordIf isAsync "async " ++
      if isArrow then head ++ " => " ++ body.arrowText l
      else "function" ++ wordIf isGenerator "*" ++ " " ++ id.getD "" ++ head ++ " " ++ body.text l

/-- The text of a function that is a method under the key with the text `key`. -/
def Function.methodText (l : Layout) (key : String) : Function → String
  | ⟨_, params, body, returnType, typeParams, isAsync, _, isGenerator, _⟩ =>
    wordIf isAsync "async " ++ wordIf isGenerator "*" ++ key ++ declaredParamsText typeParams ++
      inParens (commaSep (paramTexts l params)) ++ ascription returnType ++ " " ++ body.text l

/-- The body of an arrow function; an object literal stands in parentheses. -/
def FunctionBody.arrowText (l : Layout) : FunctionBody → String
  | .block stmts => l.block (stmtTexts l.deeper stmts)
  | .expr value =>
    if value.isObject then inParens (value.text l)
    else value.within Precedence.assignment (value.text l)

/-- The body of a function that is no arrow; a concise one is printed as the return that it is. -/
def FunctionBody.text (l : Layout) : FunctionBody → String
  | .block stmts => l.block (stmtTexts l.deeper stmts)
  | .expr value => l.block ["return " ++ value.text l.deeper ++ ";"]

def Class.text (l : Layout) : Class → String
  | ⟨id, superClass, typeParams, body, _⟩ =>
    "class" ++ (match id with | some id => " " ++ id | none => "") ++
      declaredParamsText typeParams ++
      (match superClass with
        | some e => " extends " ++ e.within Precedence.call (e.text l)
        | none => "") ++
      " " ++ l.block (memberDeclTexts l.deeper body)

def memberDeclTexts (l : Layout) : List ClassMember → List String
  | [] => []
  | m :: ms => m.text l :: memberDeclTexts l ms

def ClassMember.text (l : Layout) : ClassMember → String
  | .method key kind isStatic func =>
    wordIf isStatic "static " ++ kind.word ++ func.methodText l (key.text l)
  | .property key type value isStatic =>
    wordIf isStatic "static " ++ key.text l ++ ascription type ++
      (match value with
        | some e => " = " ++ e.within Precedence.assignment (e.text l)
        | none => "") ++ ";"

def VarDecl.text (l : Layout) : VarDecl → String
  | ⟨kind, declarators, _⟩ => kind.keyword ++ " " ++ commaSep (declaratorTexts l declarators)

def declaratorTexts (l : Layout) : List Declarator → List String
  | [] => []
  | d :: ds => d.text l :: declaratorTexts l ds

def Declarator.text (l : Layout) : Declarator → String
  | ⟨id, type, init, _⟩ =>
    id.text l ++ ascription type ++
      (match init with
        | some e => " = " ++ e.within Precedence.assignment (e.text l)
        | none => "")

def ForInit.text (l : Layout) : ForInit → String
  | .varDecl decl => decl.text l
  | .expr value => value.text l

def ForHead.text (l : Layout) : ForHead → String
  | .varDecl decl => decl.text l
  | .target target => target.text l

/-- A clause of a loop head, after a blank. -/
def clauseText (l : Layout) : Option Expr → String
  | some e => " " ++ e.text l
  | none => ""

def CatchClause.text (l : Layout) : CatchClause → String
  | ⟨param, body⟩ =>
    " catch " ++ (match param with | some p => inParens (p.text l) ++ " " | none => "") ++
      l.block (stmtTexts l.deeper body)

/-- The cases of a `switch`, each a header and the statements one level further in. -/
def caseTexts (l : Layout) : List SwitchCase → String
  | [] => ""
  | ⟨test, consequent⟩ :: cs =>
    l.lines [(match test with | some e => "case " ++ e.text l ++ ":" | none => "default:")] ++
      l.deeper.lines (stmtTexts l.deeper consequent) ++ caseTexts l cs

def stmtTexts (l : Layout) : List Stmt → List String
  | [] => []
  | s :: ss => s.text l :: stmtTexts l ss

/-- The text of a statement, without the indentation of its first line. -/
def Stmt.text (l : Layout) : Stmt → String
  | .expr value => parensIf value.startsAmbiguously (value.text l) ++ ";"
  | .varDecl decl => decl.text l ++ ";"
  | .function func => func.text l
  | .class decl => decl.text l
  | .ret none => "return;"
  | .ret (some arg) => "return " ++ arg.text l ++ ";"
  | .ifElse test consequent alternate =>
    "if (" ++ test.text l ++ ") " ++ consequent.text l ++
      (match alternate with | some s => " else " ++ s.text l | none => "")
  | .block stmts => l.block (stmtTexts l.deeper stmts)
  | .throw arg => "throw " ++ arg.text l ++ ";"
  | .forLoop init test update body =>
    "for (" ++ (match init with | some i => i.text l | none => "") ++ ";" ++ clauseText l test ++
      ";" ++ clauseText l update ++ ") " ++ body.text l
  | .forIn left right body =>
    "for (" ++ left.text l ++ " in " ++ right.text l ++ ") " ++ body.text l
  | .forOf left right body isAwait =>
    "for " ++ wordIf isAwait "await " ++ "(" ++ left.text l ++ " of " ++
      right.within Precedence.assignment (right.text l) ++ ") " ++ body.text l
  | .while test body => "while (" ++ test.text l ++ ") " ++ body.text l
  | .doWhile body test => "do " ++ body.text l ++ " while (" ++ test.text l ++ ");"
  | .tryCatch stmts handler finalizer =>
    "try " ++ l.block (stmtTexts l.deeper stmts) ++
      (match handler with | some h => h.text l | none => "") ++
      (match finalizer with
        | some stmts => " finally " ++ l.block (stmtTexts l.deeper stmts)
        | none => "")
  | .switch discriminant cases =>
    "switch (" ++ discriminant.text l ++ ") \x7b" ++
      if cases.isEmpty then "\x7d"
      else l.afterOpen ++ caseTexts l.deeper cases ++ l.beforeClose ++ "\x7d"
  | .break label => jumpText "break" label
  | .continue label => jumpText "continue" label
  | .labeled label body => label ++ ": " ++ body.text l
  | .empty => ";"
  | .typeAlias decl => decl.text
  | .interface decl => decl.text
  | .import decl => decl.text
  | .export (some decl) _ _ _ => "export " ++ decl.text l
  | .export none specifiers source kind => exportListText specifiers source kind
  | .exportDefault value =>
    "export default " ++ value.within Precedence.assignment (value.text l) ++ ";"
end

/-- The expression on one line, as labels show it. -/
def Expr.label (e : Expr) : String := e.text .concise

/-- The pattern on one line, as labels show it. -/
def Pattern.label (p : Pattern) : String := p.text .concise

/-- The unit with every statement on a line of its own. -/
def Program.text (p : Program) : String := (Layout.pretty 0).lines (stmtTexts (.pretty 0) p.body)

end TypeGuard
