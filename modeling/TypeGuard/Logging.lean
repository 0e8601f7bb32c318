import TypeGuard.Text.Blank

/-!
# Logging

Which events of a run are logged and how. Logging stays off unless the environment or a flag asks
for it.
-/

namespace TypeGuard

inductive LogFormat where
  | text
  | tree
  | json
  deriving DecidableEq, Repr, Inhabited

namespace LogFormat

def name : LogFormat → String
  | text => "text"
  | tree => "tree"
  | json => "json"

def all : List LogFormat := [text, tree, json]

/-- The format with exactly the given name. -/
def ofName? (name : String) : Option LogFormat := all.find? (·.name == name)

/-- The format with a name in any case and with blanks around it; flat text where there is none. -/
def ofWord (word : String) : LogFormat := (ofName? (Text.keyword word)).getD text

end LogFormat

/-- How a run logs. -/
structure LogSettings where
  /-- The filter directives. -/
  directives : String
  format : LogFormat
  deriving DecidableEq, Repr, Inhabited

namespace LogSettings

/-- The components that a flag turns logging on for. -/
def components : List String :=
  ["flowcheck_cli", "flowcheck_emitter", "flowcheck_lowering", "flowcheck_ast"]

/-- The directives that log every component at a level. -/
def componentsAt (level : String) : String :=
  ",".intercalate (components.map fun c => c ++ "=" ++ level)

/-- The directives of a flag that was given a number of times. -/
def ofVerbosity? : Nat → Option String
  | 0 => none
  | 1 => some (componentsAt "debug")
  | _ => some (componentsAt "trace")

/-- The settings: the directives come from the first of two variables that is set, else from the
flag, and the format from the flag, else from a variable. -/
def resolve? (ownLog otherLog : Option String) (verbosity : Nat) (formatFlag : Option LogFormat)
    (formatVariable : Option String) : Option LogSettings :=
  ((ownLog.or otherLog).or (ofVerbosity? verbosity)).map fun directives =>
    ⟨directives, (formatFlag.or (formatVariable.map .ofWord)).getD .text⟩

end LogSettings

end TypeGuard
