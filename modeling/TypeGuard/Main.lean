import TypeGuard.Run

/-!
# The command

Collects the files that a run can read, runs it, and writes its output.
-/

namespace TypeGuard.Main

/-- A file with its canonical path, if it can be read. -/
def readFile (path : String) : IO (Option (String × String)) := do
  try
    let canonical ← IO.FS.realPath path
    return some (canonical.toString, ← IO.FS.readFile path)
  catch _ => return none

/-- Files that were read: the path that each was read by, its canonical path and its text. -/
abbrev Collected := List (String × String × String)

/-- The collected files, where a path leads to what was read by it. -/
def filesOf (collected : Collected) : Files :=
  { resolve := fun path => (collected.lookup path).map (·.1),
    texts := collected.map fun (_, canonical, text) => (canonical, text) }

/-- Adds a configuration file and those that it extends. -/
partial def collect (collected : Collected) (path : String) : IO Collected := do
  match ← readFile path with
  | none => return collected
  | some (canonical, text) =>
    let known := collected.any fun (_, c, _) => c == canonical
    let collected := (path, canonical, text) :: collected
    if known then return collected
    match Config.ofText text with
    | .ok ⟨some base, _⟩ => collect collected (Config.basePath path base)
    | _ => return collected

/-- The path of the configuration file that a run may read. -/
def configPath? (args : Arguments) : Option String :=
  if args.config.isSome then args.config
  else if args.input = "-" then none
  else (Path.parent? args.input).map fun directory => Path.join directory Config.fileName

/-- The text of the unit. -/
def readProgram (input : String) : IO (Option (String × String)) := do
  if input = "-" then return some ("-", ← (← IO.getStdin).readToEnd)
  else readFile input

/-- The files that a run can read. -/
def collectAll (args : Arguments) : IO Files := do
  let configs ←
    match configPath? args with
    | some path => collect [] path
    | none => pure []
  match ← readProgram args.input with
  | some (canonical, text) => return filesOf (configs ++ [(args.input, canonical, text)])
  | none => return filesOf configs

/-- Writes the output of a run to its file, or to the standard output. -/
def write (args : Arguments) (text : String) : IO Unit := do
  match args.out with
  | some path => IO.FS.writeFile path text
  | none => IO.print text

end TypeGuard.Main

open TypeGuard

/-- Runs the command. -/
def main (argv : List String) : IO UInt32 := do
  match Arguments.ofList? argv with
  | none =>
    IO.eprintln "error: invalid arguments"
    return 2
  | some args =>
    match args.run (← Main.collectAll args) with
    | .ok (.output text) =>
      Main.write args text
      return 0
    | .ok (.refused d) =>
      IO.eprintln (Diagnostic.report (!args.noColor && (← (← IO.getStderr).isTty)) [d])
      return 1
    | .error e =>
      IO.eprintln ("Error: " ++ e.message)
      return 1
