import TypeGuard.Syntax

/-!
# Mentioned names

Every name that a unit mentions: bindings, references, labels, locals of imports, and the leading
segments of type names. A generated name that is not among them cannot collide with the unit's own.
Names may be listed several times.
-/

namespace TypeGuard

/-- The leading segment, through which a name is looked up. -/
def TypeName.leading (n : TypeName) : List String := n.parts.take 1

mutual
/-- The names that a type mentions. -/
def StaticType.mentions : StaticType → List String
  | .generic ref => ref.mentions
  | .typeof name => name.leading
  | .list elem => elem.mentions
  | .nullable inner => inner.mentions
  | .tuple elems => typesMention elems
  | .union members => typesMention members
  | .intersection members => typesMention members
  | .object shape => shape.mentions
  | .function shape => shape.mentions
  | .primitive _ | .existential | .literal _ | .unsupported _ => []

def typesMention : List StaticType → List String
  | [] => []
  | t :: ts => t.mentions ++ typesMention ts

def GenericRef.mentions : GenericRef → List String
  | ⟨name, some args⟩ => name.leading ++ typesMention args
  | ⟨name, none⟩ => name.leading

def ObjectShape.mentions : ObjectShape → List String
  | ⟨properties, indexers, _⟩ => propertiesMention properties ++ indexersMention indexers

def propertiesMention : List ObjectProperty → List String
  | [] => []
  | ⟨_, value, _⟩ :: ps => value.mentions ++ propertiesMention ps

def indexersMention : List ObjectIndexer → List String
  | [] => []
  | ⟨_, key, value⟩ :: is => key.mentions ++ value.mentions ++ indexersMention is

/-- The names that a function type mentions, those of its rest parameter left out. -/
def FunctionShape.mentions : FunctionShape → List String
  | ⟨params, _, returnType⟩ => typeParamsMention params ++ returnType.mentions

def typeParamsMention : List FunctionTypeParam → List String
  | [] => []
  | ⟨_, type, _⟩ :: ps => type.mentions ++ typeParamsMention ps
end

def optTypeMentions : Option StaticType → List String
  | some type => type.mentions
  | none => []

def ImportSpecifier.localName : ImportSpecifier → String
  | .default localName => localName
  | .namespace localName => localName
  | .named _ localName _ => localName

/-- The names that an alias mentions, its type parameters left out. -/
def TypeAlias.mentions (d : TypeAlias) : List String := d.id :: d.right.mentions

/-- The names that an interface mentions, its type parameters and indexers left out. -/
def InterfaceDecl.mentions (d : InterfaceDecl) : List String :=
  d.id :: d.parents.flatMap GenericRef.mentions ++ propertiesMention d.body.properties

mutual
def Expr.mentions : Expr → List String
  | .ident name => [name]
  | .this | .super | .null | .bool _ | .num _ | .str _ | .regex _ _ => []
  | .template _ exprs => exprsMention exprs
  | .taggedTemplate tag _ exprs => tag.mentions ++ exprsMention exprs
  | .array elems => elemsMention elems
  | .object props => objectPropsMention props
  | .function func => func.mentions
  | .class decl => decl.mentions
  | .member obj _ => obj.mentions
  -- the expression in the brackets is not searched
  | .index obj _ => obj.mentions
  | .call callee args => callee.mentions ++ exprsMention args
  | .new callee args => callee.mentions ++ exprsMention args
  | .unary _ arg => arg.mentions
  | .update _ _ arg => arg.mentions
  | .binary _ left right => left.mentions ++ right.mentions
  | .conditional test consequent alternate =>
    test.mentions ++ consequent.mentions ++ alternate.mentions
  | .assign _ target value _ => target.mentions ++ value.mentions
  | .seq exprs => exprsMention exprs
  | .spread arg => arg.mentions
  | .await arg => arg.mentions
  | .yield arg _ => optExprMentions arg
  | .paren inner => inner.mentions
  | .cast inner type _ _ => inner.mentions ++ type.mentions

def exprsMention : List Expr → List String
  | [] => []
  | e :: es => e.mentions ++ exprsMention es

def optExprMentions : Option Expr → List String
  | some e => e.mentions
  | none => []

def elemsMention : List (Option Expr) → List String
  | [] => []
  | some e :: es => e.mentions ++ elemsMention es
  | none :: es => elemsMention es

def PropKey.mentions : PropKey → List String
  | .computed e => e.mentions
  | .ident _ | .str _ | .num _ => []

def objectPropsMention : List ObjectProp → List String
  | [] => []
  | .keyValue key value _ :: ps => key.mentions ++ value.mentions ++ objectPropsMention ps
  | .method key func :: ps => key.mentions ++ func.mentions ++ objectPropsMention ps
  | .spread arg :: ps => arg.mentions ++ objectPropsMention ps

def AssignTarget.mentions : AssignTarget → List String
  | .pattern target => target.mentions
  | .expr target => target.mentions

def Pattern.mentions : Pattern → List String
  | .ident name => [name]
  | .object props => patternPropsMention props
  | .array elems => patternsMention elems
  | .default left right => left.mentions ++ right.mentions
  | .rest inner => inner.mentions

def patternsMention : List (Option Pattern) → List String
  | [] => []
  | some p :: ps => p.mentions ++ patternsMention ps
  | none :: ps => patternsMention ps

def patternPropsMention : List PatternProp → List String
  | [] => []
  | .keyValue key value _ :: ps => key.mentions ++ value.mentions ++ patternPropsMention ps
  | .rest inner :: ps => inner.mentions ++ patternPropsMention ps

def paramsMention : List Param → List String
  | [] => []
  | ⟨pattern, type, _⟩ :: ps => pattern.mentions ++ optTypeMentions type ++ paramsMention ps

def FunctionBody.mentions : FunctionBody → List String
  | .block stmts => stmtsMention stmts
  | .expr value => value.mentions

/-- The names that a function mentions, its type parameters left out. -/
def Function.mentions : Function → List String
  | ⟨id, params, body, returnType, _, _, _, _, _⟩ =>
    id.toList ++ paramsMention params ++ optTypeMentions returnType ++ body.mentions

/-- The names that a class mentions, its type parameters and the types of its properties left
out. -/
def Class.mentions : Class → List String
  | ⟨id, superClass, _, body, _⟩ => id.toList ++ optExprMentions superClass ++ membersMention body

def membersMention : List ClassMember → List String
  | [] => []
  | .method key _ _ func :: ms => key.mentions ++ func.mentions ++ membersMention ms
  | .property key _ value _ :: ms => key.mentions ++ optExprMentions value ++ membersMention ms

def VarDecl.mentions : VarDecl → List String
  | ⟨_, declarators, _⟩ => declaratorsMention declarators

def declaratorsMention : List Declarator → List String
  | [] => []
  | ⟨id, type, init, _⟩ :: ds =>
    id.mentions ++ optTypeMentions type ++ optExprMentions init ++ declaratorsMention ds

def ForInit.mentions : ForInit → List String
  | .varDecl decl => decl.mentions
  | .expr value => value.mentions

def ForHead.mentions : ForHead → List String
  | .varDecl decl => decl.mentions
  | .target target => target.mentions

def CatchClause.mentions : CatchClause → List String
  | ⟨some param, body⟩ => param.mentions ++ stmtsMention body
  | ⟨none, body⟩ => stmtsMention body

def casesMention : List SwitchCase → List String
  | [] => []
  | ⟨test, stmts⟩ :: cs => optExprMentions test ++ stmtsMention stmts ++ casesMention cs

def stmtsMention : List Stmt → List String
  | [] => []
  | s :: ss => s.mentions ++ stmtsMention ss

def Stmt.mentions : Stmt → List String
  | .expr value => value.mentions
  | .throw arg => arg.mentions
  | .exportDefault value => value.mentions
  | .varDecl decl => decl.mentions
  | .function func => func.mentions
  | .class decl => decl.mentions
  | .ret arg => optExprMentions arg
  | .ifElse test consequent alternate =>
    test.mentions ++ consequent.mentions ++
      match alternate with | some s => s.mentions | none => []
  | .block stmts => stmtsMention stmts
  | .forLoop init test update body =>
    (match init with | some i => i.mentions | none => []) ++ optExprMentions test ++
      optExprMentions update ++ body.mentions
  | .forIn left right body => left.mentions ++ right.mentions ++ body.mentions
  | .forOf left right body _ => left.mentions ++ right.mentions ++ body.mentions
  | .while test body => test.mentions ++ body.mentions
  | .doWhile body test => test.mentions ++ body.mentions
  | .tryCatch stmts handler finalizer =>
    stmtsMention stmts ++ (match handler with | some h => h.mentions | none => []) ++
      match finalizer with | some ss => stmtsMention ss | none => []
  | .switch discriminant cases => discriminant.mentions ++ casesMention cases
  | .break label => label.toList
  | .continue label => label.toList
  | .labeled label body => label :: body.mentions
  | .empty => []
  | .typeAlias decl => decl.mentions
  | .interface decl => decl.mentions
  | .import decl => decl.specifiers.map ImportSpecifier.localName
  | .export declaration specifiers _ _ =>
    (match declaration with | some s => s.mentions | none => []) ++
      specifiers.map ExportSpecifier.localName
end

/-- Every name that the unit mentions. -/
def Program.mentions (p : Program) : List String := stmtsMention p.body

end TypeGuard
