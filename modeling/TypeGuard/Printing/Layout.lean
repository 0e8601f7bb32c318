/-!
# Layouts

Two layouts of printed trees. The pretty layout puts every statement on a line of its own, indented
by two blanks a level; the concise layout keeps everything on one line, so that a label made from a
tree does not depend on how the source was laid out.
-/

namespace TypeGuard

inductive Layout where
  /-- One statement a line, at the given level of indentation. -/
  | pretty (level : Nat)
  | concise
  deriving DecidableEq, Repr, Inhabited

namespace Layout

/-- The layout of what stands one level further in. -/
def deeper : Layout → Layout
  | .pretty level => .pretty (level + 1)
  | .concise => .concise

/-- What stands before a line. -/
def indent : Layout → String
  | .pretty level => String.ofList (List.replicate (2 * level) ' ')
  | .concise => ""

/-- Texts on lines of their own, or each after a blank. -/
def lines (l : Layout) (texts : List String) : String :=
  match l with
  | .pretty _ => String.join (texts.map fun t => l.indent ++ t ++ "\n")
  | .concise => String.join (texts.map fun t => " " ++ t)

/-- What comes before the closing brace of a body that holds something. -/
def beforeClose : Layout → String
  | .concise => " "
  | l => l.indent

/-- What comes after the opening brace of a body that holds something. -/
def afterOpen : Layout → String
  | .pretty _ => "\n"
  | .concise => ""

/-- A body in braces; `texts` are its items in the layout one level further in. -/
def block (l : Layout) (texts : List String) : String :=
  if texts.isEmpty then "\x7b\x7d"
  else "\x7b" ++ l.afterOpen ++ l.deeper.lines texts ++ l.beforeClose ++ "\x7d"

end Layout

/-- Texts with commas between them. -/
def commaSep (texts : List String) : String := ", ".intercalate texts

/-- A list in braces with blanks inside, or an empty pair of braces. -/
def bracedList (texts : List String) : String :=
  if texts.isEmpty then "\x7b\x7d" else "\x7b " ++ commaSep texts ++ " \x7d"

def inParens (text : String) : String := "(" ++ text ++ ")"

def parensIf (wrap : Bool) (text : String) : String := if wrap then inParens text else text

end TypeGuard
