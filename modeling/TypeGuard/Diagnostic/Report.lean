import TypeGuard.Diagnostic

/-!
# Reports

The text of diagnostics for a terminal, plain or coloured. Places are byte offsets, since a unit
carries no text that would map them to lines.
-/

namespace TypeGuard

namespace Terminal

/-- The sequence that ends a style. -/
def reset : String := "\x1b[0m"

/-- Text in a style, given by the numbers of its codes. An end of style within the text is followed
by the style again. -/
def styled (codes : String) (text : String) : String :=
  let start := "\x1b[" ++ codes ++ "m"
  start ++ Text.replace reset (reset ++ start) text ++ reset

def cyan : String := "36"

def bold : String := "1"

def boldRed : String := "1;31"

def boldYellow : String := "1;33"

def boldBlue : String := "1;34"

def brightBlue : String := "94"

end Terminal

/-- The style of a category's label. -/
def Category.style : Category → String
  | error => Terminal.boldRed
  | warning => Terminal.boldYellow
  | suggestion => Terminal.boldBlue
  | message => Terminal.bold

namespace Diagnostic

/-- The greatest offset. -/
def maxOffset : Nat := UInt32.size - 1

/-- A place: the file and the byte range, its end left out where the range is empty. -/
def place (file : String) (start length : UInt32) : String :=
  let file := if file.isEmpty then "<input>" else file
  let stop := min (start.toNat + length.toNat) maxOffset
  file ++ "@" ++ toString start.toNat ++ if length = 0 then "" else ".." ++ toString stop

/-- Text in a style if there is to be colour. -/
def paint (color : Bool) (style text : String) : String :=
  if color then Terminal.styled style text else text

/-- A further place, on a line of its own. -/
def relatedLine (color : Bool) (r : RelatedInformation) : String :=
  "\n  " ++ paint color Terminal.cyan (place r.file r.start r.length) ++ ": " ++ r.message

/-- One diagnostic of a report. -/
def render (color : Bool) (d : Diagnostic) : String :=
  paint color Terminal.cyan (place d.file d.start d.length) ++ " - " ++
    paint color d.category.style d.category.label ++ " " ++
    paint color Terminal.brightBlue ("FC" ++ toString d.code.toNat) ++ ": " ++ d.message ++
    String.join (d.related.map (relatedLine color))

/-- The report of several diagnostics. -/
def report (color : Bool) (ds : List Diagnostic) : String :=
  "\n".intercalate (ds.map (render color))

end Diagnostic

end TypeGuard
