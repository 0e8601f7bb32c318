import TypeGuard.Printing.Layout
import TypeGuard.StaticType
import TypeGuard.Text.Letter
import TypeGuard.Text.Quoted

/-!
# Printed types

The text of a static type as it stands in an annotation.
-/

namespace TypeGuard

open Text (quote isIdentifier)

/-- The text of a boolean literal. -/
def boolText (b : Bool) : String := if b then "true" else "false"

def Literal.text : Literal → String
  | .string value => quote value
  | .number text => text
  | .boolean value => boolText value

namespace StaticType

/-- The types that stand in parentheses before `[]`. -/
def wrapsInList : StaticType → Bool
  | .union _ | .intersection _ | .function _ | .nullable _ => true
  | _ => false

/-- The types that stand in parentheses after `?`. -/
def wrapsInNullable : StaticType → Bool
  | .union _ | .intersection _ | .function _ => true
  | _ => false

/-- The types that stand in parentheses as the member of a union. -/
def wrapsInUnion : StaticType → Bool
  | .function _ => true
  | _ => false

/-- The types that stand in parentheses as the member of an intersection. -/
def wrapsInIntersection : StaticType → Bool
  | .function _ | .union _ => true
  | _ => false

end StaticType

/-- The key of a property: bare where it is an identifier, quoted otherwise. -/
def propertyKeyText (key : String) : String := if isIdentifier key then key else quote key

mutual
/-- The text of a type. -/
def StaticType.text : StaticType → String
  | .primitive p => p.keyword
  | .existential => "*"
  | .typeof name => "typeof " ++ name.dotted
  | .list elem => parensIf elem.wrapsInList elem.text ++ "[]"
  | .tuple elems => "[" ++ commaSep (typeTexts elems) ++ "]"
  | .nullable inner => "?" ++ parensIf inner.wrapsInNullable inner.text
  | .union members => " | ".intercalate (memberTexts StaticType.wrapsInUnion members)
  | .intersection members =>
    " & ".intercalate (memberTexts StaticType.wrapsInIntersection members)
  | .object shape => shape.text
  | .function shape => shape.text
  | .generic ref => ref.text
  | .literal value => value.text
  | .unsupported kind => kind

def typeTexts : List StaticType → List String
  | [] => []
  | t :: ts => t.text :: typeTexts ts

/-- The texts of members, in parentheses where `wraps` asks for them. -/
def memberTexts (wraps : StaticType → Bool) : List StaticType → List String
  | [] => []
  | t :: ts => parensIf (wraps t) t.text :: memberTexts wraps ts

def GenericRef.text : GenericRef → String
  | ⟨name, none⟩ => name.dotted
  | ⟨name, some args⟩ => name.dotted ++ "<" ++ commaSep (typeTexts args) ++ ">"

def ObjectShape.text : ObjectShape → String
  | ⟨properties, indexers, exact⟩ =>
    let bar := if exact then "|" else ""
    let items := propertyTexts properties ++ indexerTexts indexers
    let inner := if items.isEmpty then "" else " " ++ commaSep items ++ " "
    "\x7b" ++ bar ++ inner ++ bar ++ "\x7d"

def propertyTexts : List ObjectProperty → List String
  | [] => []
  | ⟨key, value, optional⟩ :: ps =>
    (propertyKeyText key ++ (if optional then "?" else "") ++ ": " ++ value.text)
      :: propertyTexts ps

def indexerTexts : List ObjectIndexer → List String
  | [] => []
  | ⟨id, key, value⟩ :: is =>
    ("[" ++ (match id with | some id => id ++ ": " | none => "") ++ key.text ++ "]: " ++ value.text)
      :: indexerTexts is

def FunctionShape.text : FunctionShape → String
  | ⟨params, rest, returnType⟩ =>
    let last :=
      match rest with
      | some param => ["..." ++ param.text]
      | none => []
    "(" ++ commaSep (typeParamTexts params ++ last) ++ ") => " ++ returnType.text

def FunctionTypeParam.text : FunctionTypeParam → String
  | ⟨some name, type, optional⟩ => name ++ (if optional then "?" else "") ++ ": " ++ type.text
  | ⟨none, type, _⟩ => type.text

def typeParamTexts : List FunctionTypeParam → List String
  | [] => []
  | p :: ps => p.text :: typeParamTexts ps
end

def TypeParam.text (p : TypeParam) : String :=
  match p.bound with
  | some bound => p.name ++ ": " ++ bound.text
  | none => p.name

/-- The declared type parameters in angle brackets, nothing where there are none. -/
def declaredParamsText (params : List TypeParam) : String :=
  if params.isEmpty then "" else "<" ++ commaSep (params.map TypeParam.text) ++ ">"

/-- A colon and the type, nothing where there is none. -/
def ascription : Option StaticType → String
  | some type => ": " ++ type.text
  | none => ""

end TypeGuard
