import TypeGuard.Mention

/-!
# Occurrences of names

Every name that occurs in a unit: bindings, references, labels, locals of imports and exports, type
parameters, and the leading segments of type names in the annotations that are lowered. Each
occurrence tells whether the search for mentioned names overlooks it. It overlooks what stands in
the brackets of an access, type parameters with their bounds, the indexers of interfaces, and the
rest parameters of function types.
-/

namespace TypeGuard

structure Occurrence where
  name : String
  /-- Whether the search for mentioned names does not come by. -/
  overlooked : Bool

/-- An occurrence that the search comes by. -/
def Occurrence.seen (name : String) : Occurrence := ⟨name, false⟩

/-- Occurrences in a place that the search leaves out. -/
def overlook (os : List Occurrence) : List Occurrence :=
  os.map fun o => { o with overlooked := true }

mutual
/-- The names that occur in a type. -/
def StaticType.occurrences : StaticType → List Occurrence
  | .generic ref => ref.occurrences
  | .typeof name => name.leading.map .seen
  | .list elem => elem.occurrences
  | .nullable inner => inner.occurrences
  | .tuple elems => typesOccur elems
  | .union members => typesOccur members
  | .intersection members => typesOccur members
  | .object shape => shape.occurrences
  | .function shape => shape.occurrences
  | .primitive _ | .existential | .literal _ | .unsupported _ => []

def typesOccur : List StaticType → List Occurrence
  | [] => []
  | t :: ts => t.occurrences ++ typesOccur ts

def GenericRef.occurrences : GenericRef → List Occurrence
  | ⟨name, some args⟩ => name.leading.map .seen ++ typesOccur args
  | ⟨name, none⟩ => name.leading.map .seen

def ObjectShape.occurrences : ObjectShape → List Occurrence
  | ⟨properties, indexers, _⟩ => propertiesOccur properties ++ indexersOccur indexers

def propertiesOccur : List ObjectProperty → List Occurrence
  | [] => []
  | ⟨_, value, _⟩ :: ps => value.occurrences ++ propertiesOccur ps

def indexersOccur : List ObjectIndexer → List Occurrence
  | [] => []
  | ⟨_, key, value⟩ :: is => key.occurrences ++ value.occurrences ++ indexersOccur is

def FunctionShape.occurrences : FunctionShape → List Occurrence
  | ⟨params, rest, returnType⟩ =>
    functionParamsOccur params ++ overlook (restOccurrences rest) ++ returnType.occurrences

def functionParamsOccur : List FunctionTypeParam → List Occurrence
  | [] => []
  | ⟨_, type, _⟩ :: ps => type.occurrences ++ functionParamsOccur ps

def restOccurrences : Option FunctionTypeParam → List Occurrence
  | some ⟨_, type, _⟩ => type.occurrences
  | none => []
end

def optTypeOccurrences : Option StaticType → List Occurrence
  | some type => type.occurrences
  | none => []

def typeParamsOccur : List TypeParam → List Occurrence
  | [] => []
  | ⟨name, bound⟩ :: ps => .seen name :: (optTypeOccurrences bound ++ typeParamsOccur ps)

def TypeAlias.occurrences (d : TypeAlias) : List Occurrence :=
  .seen d.id :: (overlook (typeParamsOccur d.typeParams) ++ d.right.occurrences)

def InterfaceDecl.occurrences (d : InterfaceDecl) : List Occurrence :=
  .seen d.id :: (overlook (typeParamsOccur d.typeParams) ++
    d.parents.flatMap GenericRef.occurrences ++ propertiesOccur d.body.properties ++
    overlook (indexersOccur d.body.indexers))

mutual
def Expr.occurrences : Expr → List Occurrence
  | .ident name => [.seen name]
  | .this | .super | .null | .bool _ | .num _ | .str _ | .regex _ _ => []
  | .template _ exprs => exprsOccur exprs
  | .taggedTemplate tag _ exprs => tag.occurrences ++ exprsOccur exprs
  | .array elems => elemsOccur elems
  | .object props => objectPropsOccur props
  | .function func => func.occurrences
  | .class decl => decl.occurrences
  | .member obj _ => obj.occurrences
  | .index obj key => obj.occurrences ++ overlook key.occurrences
  | .call callee args => callee.occurrences ++ exprsOccur args
  | .new callee args => callee.occurrences ++ exprsOccur args
  | .unary _ arg => arg.occurrences
  | .update _ _ arg => arg.occurrences
  | .binary _ left right => left.occurrences ++ right.occurrences
  | .conditional test consequent alternate =>
    test.occurrences ++ consequent.occurrences ++ alternate.occurrences
  | .assign _ target value _ => target.occurrences ++ value.occurrences
  | .seq exprs => exprsOccur exprs
  | .spread arg => arg.occurrences
  | .await arg => arg.occurrences
  | .yield arg _ => optExprOccurrences arg
  | .paren inner => inner.occurrences
  | .cast inner type _ _ => inner.occurrences ++ type.occurrences

def exprsOccur : List Expr → List Occurrence
  | [] => []
  | e :: es => e.occurrences ++ exprsOccur es

def optExprOccurrences : Option Expr → List Occurrence
  | some e => e.occurrences
  | none => []

def elemsOccur : List (Option Expr) → List Occurrence
  | [] => []
  | some e :: es => e.occurrences ++ elemsOccur es
  | none :: es => elemsOccur es

def PropKey.occurrences : PropKey → List Occurrence
  | .computed e => e.occurrences
  | .ident _ | .str _ | .num _ => []

def objectPropsOccur : List ObjectProp → List Occurrence
  | [] => []
  | .keyValue key value _ :: ps => key.occurrences ++ value.occurrences ++ objectPropsOccur ps
  | .method key func :: ps => key.occurrences ++ func.occurrences ++ objectPropsOccur ps
  | .spread arg :: ps => arg.occurrences ++ objectPropsOccur ps

def AssignTarget.occurrences : AssignTarget → List Occurrence
  | .pattern target => target.occurrences
  | .expr target => target.occurrences

def Pattern.occurrences : Pattern → List Occurrence
  | .ident name => [.seen name]
  | .object props => patternPropsOccur props
  | .array elems => patternsOccur elems
  | .default left right => left.occurrences ++ right.occurrences
  | .rest inner => inner.occurrences

def patternsOccur : List (Option Pattern) → List Occurrence
  | [] => []
  | some p :: ps => p.occurrences ++ patternsOccur ps
  | none :: ps => patternsOccur ps

def patternPropsOccur : List PatternProp → List Occurrence
  | [] => []
  | .keyValue key value _ :: ps => key.occurrences ++ value.occurrences ++ patternPropsOccur ps
  | .rest inner :: ps => inner.occurrences ++ patternPropsOccur ps

def paramsOccur : List Param → List Occurrence
  | [] => []
  | ⟨pattern, type, _⟩ :: ps => pattern.occurrences ++ optTypeOccurrences type ++ paramsOccur ps

def FunctionBody.occurrences : FunctionBody → List Occurrence
  | .block stmts => stmtsOccur stmts
  | .expr value => value.occurrences

def Function.occurrences : Function → List Occurrence
  | ⟨id, params, body, returnType, typeParams, _, _, _, _⟩ =>
    id.toList.map .seen ++ overlook (typeParamsOccur typeParams) ++ paramsOccur params ++
      optTypeOccurrences returnType ++ body.occurrences

/-- The types of the properties of a class are not lowered. -/
def Class.occurrences : Class → List Occurrence
  | ⟨id, superClass, typeParams, body, _⟩ =>
    id.toList.map .seen ++ overlook (typeParamsOccur typeParams) ++
      optExprOccurrences superClass ++ membersOccur body

def membersOccur : List ClassMember → List Occurrence
  | [] => []
  | .method key _ _ func :: ms => key.occurrences ++ func.occurrences ++ membersOccur ms
  | .property key _ value _ :: ms => key.occurrences ++ optExprOccurrences value ++ membersOccur ms

def VarDecl.occurrences : VarDecl → List Occurrence
  | ⟨_, declarators, _⟩ => declaratorsOccur declarators

def declaratorsOccur : List Declarator → List Occurrence
  | [] => []
  | ⟨id, type, init, _⟩ :: ds =>
    id.occurrences ++ optTypeOccurrences type ++ optExprOccurrences init ++ declaratorsOccur ds

def ForInit.occurrences : ForInit → List Occurrence
  | .varDecl decl => decl.occurrences
  | .expr value => value.occurrences

def ForHead.occurrences : ForHead → List Occurrence
  | .varDecl decl => decl.occurrences
  | .target target => target.occurrences

def CatchClause.occurrences : CatchClause → List Occurrence
  | ⟨some param, body⟩ => param.occurrences ++ stmtsOccur body
  | ⟨none, body⟩ => stmtsOccur body

def casesOccur : List SwitchCase → List Occurrence
  | [] => []
  | ⟨test, stmts⟩ :: cs => optExprOccurrences test ++ stmtsOccur stmts ++ casesOccur cs

def stmtsOccur : List Stmt → List Occurrence
  | [] => []
  | s :: ss => s.occurrences ++ stmtsOccur ss

def Stmt.occurrences : Stmt → List Occurrence
  | .expr value => value.occurrences
  | .throw arg => arg.occurrences
  | .exportDefault value => value.occurrences
  | .varDecl decl => decl.occurrences
  | .function func => func.occurrences
  | .class decl => decl.occurrences
  | .ret arg => optExprOccurrences arg
  | .ifElse test consequent alternate =>
    test.occurrences ++ consequent.occurrences ++
      match alternate with | some s => s.occurrences | none => []
  | .block stmts => stmtsOccur stmts
  | .forLoop init test update body =>
    (match init with | some i => i.occurrences | none => []) ++ optExprOccurrences test ++
      optExprOccurrences update ++ body.occurrences
  | .forIn left right body => left.occurrences ++ right.occurrences ++ body.occurrences
  | .forOf left right body _ => left.occurrences ++ right.occurrences ++ body.occurrences
  | .while test body => test.occurrences ++ body.occurrences
  | .doWhile body test => test.occurrences ++ body.occurrences
  | .tryCatch stmts handler finalizer =>
    stmtsOccur stmts ++ (match handler with | some h => h.occurrences | none => []) ++
      match finalizer with | some ss => stmtsOccur ss | none => []
  | .switch discriminant cases => discriminant.occurrences ++ casesOccur cases
  | .break label => label.toList.map .seen
  | .continue label => label.toList.map .seen
  | .labeled label body => .seen label :: body.occurrences
  | .empty => []
  | .typeAlias decl => decl.occurrences
  | .interface decl => decl.occurrences
  | .import decl => decl.specifiers.map fun s => .seen s.localName
  | .export declaration specifiers _ _ =>
    (match declaration with | some s => s.occurrences | none => []) ++
      specifiers.map fun s => .seen s.localName
end

namespace Program

def occurrences (p : Program) : List Occurrence := stmtsOccur p.body

/-- Every name that occurs in the unit. -/
def names (p : Program) : List String := p.occurrences.map (·.name)

/-- The names with an occurrence that the search for mentioned names overlooks. -/
def overlooked (p : Program) : List String :=
  (p.occurrences.filter (·.overlooked)).map (·.name)

end Program

end TypeGuard
