import TypeGuard.Double
import TypeGuard.Double.Decimal
import TypeGuard.Text.Quoted

/-!
# JSON values

Values of the interchange format. Objects keep the order of their members, and a number is an
integer or a double. `Json.text` is the text on one line and `Json.prettyText` the indented one.
-/

namespace TypeGuard

inductive Json where
  | null
  | bool (value : Bool)
  | int (value : Int)
  | double (value : Double)
  | str (value : String)
  | arr (elems : List Json)
  | obj (members : List (String × Json))
  deriving Inhabited

namespace Json

/-- The letters of control characters in JSON text. -/
def controlLetter (c : Char) : Option Char :=
  if c = '\n' then some 'n'
  else if c = '\r' then some 'r'
  else if c = '\t' then some 't'
  else if c.toNat = 8 then some 'b'
  else if c.toNat = 12 then some 'f'
  else none

/-- A string as JSON text. -/
def quoted (s : String) : String := Text.quoteWith controlLetter s

mutual
/-- The text of a value without blanks. -/
def text : Json → String
  | null => "null"
  | bool b => if b then "true" else "false"
  | int i => toString i
  | double d => d.text
  | str s => quoted s
  | arr elems => "[" ++ ",".intercalate (elemTexts elems) ++ "]"
  | obj members => "\x7b" ++ ",".intercalate (memberTexts members) ++ "\x7d"

def elemTexts : List Json → List String
  | [] => []
  | j :: js => j.text :: elemTexts js

def memberTexts : List (String × Json) → List String
  | [] => []
  | (key, j) :: ms => (quoted key ++ ":" ++ j.text) :: memberTexts ms
end

/-- A line break and the indentation of the given level. -/
def freshLine (level : Nat) : String := "\n" ++ String.ofList (List.replicate (2 * level) ' ')

/-- Items on lines of their own between two brackets. -/
def prettyItems (level : Nat) (openText closeText : String) (items : List String) : String :=
  if items.isEmpty then openText ++ closeText
  else
    openText ++ ",".intercalate (items.map (freshLine (level + 1) ++ ·)) ++ freshLine level ++
      closeText

mutual
/-- The text of a value with every item on a line of its own, at a level of indentation. -/
def prettyAt (level : Nat) : Json → String
  | arr elems => prettyItems level "[" "]" (prettyElems (level + 1) elems)
  | obj members => prettyItems level "\x7b" "\x7d" (prettyMembers (level + 1) members)
  | j => j.text

def prettyElems (level : Nat) : List Json → List String
  | [] => []
  | j :: js => j.prettyAt level :: prettyElems level js

def prettyMembers (level : Nat) : List (String × Json) → List String
  | [] => []
  | (key, j) :: ms => (quoted key ++ ": " ++ j.prettyAt level) :: prettyMembers level ms
end

def prettyText (j : Json) : String := j.prettyAt 0

mutual
/-- How deeply arrays and objects nest. -/
def depth : Json → Nat
  | arr elems => elemsDepth elems + 1
  | obj members => membersDepth members + 1
  | _ => 0

def elemsDepth : List Json → Nat
  | [] => 0
  | j :: js => max j.depth (elemsDepth js)

def membersDepth : List (String × Json) → Nat
  | [] => 0
  | (_, j) :: ms => max j.depth (membersDepth ms)
end

end Json

end TypeGuard
