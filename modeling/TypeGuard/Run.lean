import TypeGuard.Arguments
import TypeGuard.Config.Load
import TypeGuard.Diagnostic.Report
import TypeGuard.Instrumentation
import TypeGuard.Printing.Syntax
import TypeGuard.Wire.Syntax

/-!
# Runs

A run reads the options and the unit from files, instruments the unit, and prints it as a program
or as a tree.
-/

namespace TypeGuard

/-- Why a run came to nothing. -/
inductive RunError where
  | config (e : LoadError)
  | unreadable (path : String)
  | malformed (path : String)
  deriving DecidableEq, Repr, Inhabited

namespace RunError

def message : RunError → String
  | config e => e.message
  | unreadable path => "failed to read program: " ++ path
  | malformed path => "failed to parse program JSON: " ++ path

/-- What the message leaves out. -/
def detail? : RunError → Option String
  | config e => e.detail?
  | _ => none

end RunError

/-- The result of a run. -/
inductive Outcome where
  | output (text : String)
  /-- The unit has an error. -/
  | refused (d : Diagnostic)
  deriving Inhabited

namespace Program

/-- The unit that a text denotes. Members that no field is read from may denote nothing. -/
def ofText? (text : String) : Option Program :=
  (Json.scan text).bind (ofJsonWithin? Config.Reading.maxDepth)

/-- The unit with the file name where it has none. -/
def withFileName (p : Program) (name : String) : Program :=
  if p.fileName.isEmpty then { p with fileName := name } else p

end Program

namespace Arguments

/-- The path of the configuration: the given one, or that beside the input. -/
def configPath? (args : Arguments) (files : Files) : Option String :=
  args.config.or (Config.discover? files args.input)

/-- The options of a run. -/
def options (args : Arguments) (files : Files) : Except RunError Options :=
  match args.configPath? files with
  | none => .ok (.resolve none args.flags)
  | some path =>
    match Config.load files path with
    | .ok config => .ok (.resolve (some config) args.flags)
    | .error e => .error (.config e)

/-- The unit that is to be instrumented. One from the standard input gets no file name. -/
def program (args : Arguments) (files : Files) : Except RunError Program :=
  match files.read? args.input with
  | none => .error (.unreadable args.input)
  | some text =>
    match Program.ofText? text with
    | none => .error (.malformed args.input)
    | some p => .ok (if args.input = "-" then p else p.withFileName args.input)

/-- The text of the instrumented unit. -/
def render (args : Arguments) (p : Program) : String :=
  if args.emitAst then p.toJson.prettyText ++ "\n" else p.text

/-- A whole run. -/
def run (args : Arguments) (files : Files) : Except RunError Outcome := do
  let options ← args.options files
  let p ← args.program files
  match p.instrument options with
  | .ok p => return .output (args.render p)
  | .error d => return .refused d

end Arguments

end TypeGuard
