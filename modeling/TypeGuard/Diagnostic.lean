import TypeGuard.Span
import TypeGuard.Text.Replace

/-!
# Diagnostics

A diagnostic names a file, a byte range, a category, a code and a message. Registered codes have a
message template with numbered holes, which the arguments fill one after the other.
-/

namespace TypeGuard

/-- How serious a diagnostic is. -/
inductive Category where
  | warning
  | error
  | suggestion
  | message
  deriving DecidableEq, Repr, Inhabited

namespace Category

def label : Category → String
  | warning => "warning"
  | error => "error"
  | suggestion => "suggestion"
  | message => "message"

/-- The name of the category in structured output. -/
def tag : Category → String
  | warning => "Warning"
  | error => "Error"
  | suggestion => "Suggestion"
  | message => "Message"

end Category

/-- A further place that a diagnostic points to. -/
structure RelatedInformation where
  file : String
  start : UInt32
  length : UInt32
  message : String
  category : Category
  code : UInt32
  deriving DecidableEq, Repr, Inhabited

structure Diagnostic where
  file : String
  start : UInt32
  length : UInt32
  message : String
  category : Category
  code : UInt32
  related : List RelatedInformation
  deriving DecidableEq, Repr, Inhabited

namespace Diagnostic

/-! ### Registered codes -/

def codeListArity : UInt32 := 9001

def codeAmbiguousIndexer : UInt32 := 9002

def codeInvalidRefinement : UInt32 := 9003

def codeInvalidReify : UInt32 := 9004

def codeReservedTypeName : UInt32 := 9005

def codeUnsupportedType : UInt32 := 9006

def codeInvalidExact : UInt32 := 9007

def codeTooDeep : UInt32 := 9008

/-- The registered codes with their message templates. -/
def templates : List (UInt32 × String) :=
  [(codeListArity, "Unsupported \x7b0\x7d type annotation: incorrect number of type parameters " ++
      "(expected 1, got \x7b1\x7d)"),
    (codeAmbiguousIndexer, "Object type annotation declares \x7b0\x7d indexers, at most one " ++
      "indexer is supported"),
    (codeInvalidRefinement, "Invalid refinement definition, example: " ++
      "$Refinement<typeof predicate>"),
    (codeInvalidReify, "Invalid use of $Reify, example: const ReifiedMyType = " ++
      "((\x7b\x7d: any): $Reify<MyType>)"),
    (codeReservedTypeName, "\x7b0\x7d is a reserved interface name for flowcheck"),
    (codeUnsupportedType, "Unsupported type annotation: \x7b0\x7d"),
    (codeInvalidExact, "Invalid use of $Exact, example: $Exact<\x7b x: string \x7d>"),
    (codeTooDeep, "Type annotation is nested too deeply (limit \x7b0\x7d)")]

/-- The template of a registered code. -/
def template? (code : UInt32) : Option String := templates.lookup code

/-- The hole with the given number. -/
def hole (i : Nat) : String := "\x7b" ++ toString i ++ "\x7d"

/-- Fills the holes of a template: first every hole `0` with the first argument, then in the result
every hole `1` with the second, and so on. -/
def fillFrom (i : Nat) (text : String) : List String → String
  | [] => text
  | arg :: args => fillFrom (i + 1) (Text.replace (hole i) arg text) args

/-- The template with its holes filled by the arguments. -/
def fill (template : String) (args : List String) : String := fillFrom 0 template args

/-! ### Making diagnostics -/

/-- An error with the given message. -/
def ofMessage (file : String) (start length : UInt32) (message : String) (code : UInt32) :
    Diagnostic :=
  ⟨file, start, length, message, .error, code, []⟩

/-- The message of a code: its template filled, or the arguments alone where the code is not
registered. -/
def messageOfCode (code : UInt32) (args : List String) : String :=
  match template? code with
  | some template => fill template args
  | none => " ".intercalate args

/-- The error with a code and its arguments. -/
def ofCode (file : String) (start length : UInt32) (code : UInt32) (args : List String) :
    Diagnostic :=
  ofMessage file start length (messageOfCode code args) code

/-- The error with a code and its arguments at a span. -/
def atSpan (file : String) (span : Span) (code : UInt32) (args : List String) : Diagnostic :=
  ofCode file span.start span.length code args

/-- Adds a further place. -/
def withRelated (d : Diagnostic) (file : String) (start length : UInt32) (message : String) :
    Diagnostic :=
  { d with related := d.related ++ [⟨file, start, length, message, .message, 0⟩] }

/-- The diagnostic on one line. -/
def oneLine (d : Diagnostic) : String :=
  d.file ++ ":" ++ toString d.start.toNat ++ ": " ++ d.category.label ++ " FC" ++
    toString d.code.toNat ++ ": [flowcheck] " ++ d.message

end Diagnostic

end TypeGuard
