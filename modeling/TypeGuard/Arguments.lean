import TypeGuard.Config
import TypeGuard.Logging

/-!
# Arguments

The arguments of a call: one input and options before or after it. A long option is written
`--name value` or `--name=value`, a short one `-n value`, `-nvalue` or `-n=value`, and short options
may share a hyphen. An argument `--` ends the options.
-/

namespace TypeGuard

/-- What a call asks for. -/
structure Arguments where
  input : String
  config : Option String
  /-- The file that the output is written to. -/
  out : Option String
  /-- Print the unit as a tree in JSON. -/
  emitAst : Bool
  flags : Flags
  noColor : Bool
  /-- How often more logging was asked for. -/
  verbosity : Nat
  logFormat : Option LogFormat
  deriving DecidableEq, Repr, Inhabited

namespace Arguments

/-- Options that stand alone. -/
inductive Switch where
  | emitAst
  | skipAsserts
  | skipHelpers
  | warnOnFailure
  | noColor
  | verbose
  deriving DecidableEq, Repr, Inhabited

/-- Options that take a value. -/
inductive Setter where
  | config
  | out
  | global
  | runtimeLibrary
  | logFormat
  deriving DecidableEq, Repr, Inhabited

inductive Opt where
  | switch (s : Switch)
  | setter (s : Setter)
  deriving DecidableEq, Repr, Inhabited

/-- The long names of the options. -/
def longNames : List (String × Opt) :=
  [("config", .setter .config), ("out", .setter .out), ("emitAst", .switch .emitAst),
    ("emit-ast", .switch .emitAst), ("skipAsserts", .switch .skipAsserts),
    ("skip-asserts", .switch .skipAsserts), ("skipHelpers", .switch .skipHelpers),
    ("skip-helpers", .switch .skipHelpers), ("warnOnFailure", .switch .warnOnFailure),
    ("warn-on-failure", .switch .warnOnFailure), ("global", .setter .global),
    ("runtimeLibrary", .setter .runtimeLibrary), ("runtime-library", .setter .runtimeLibrary),
    ("noColor", .switch .noColor), ("no-color", .switch .noColor),
    ("verbose", .switch .verbose), ("logFormat", .setter .logFormat),
    ("log-format", .setter .logFormat)]

/-- The letters of the options. -/
def shortNames : List (Char × Opt) :=
  [('c', .setter .config), ('o', .setter .out), ('g', .setter .global), ('v', .switch .verbose)]

/-! ### Given options -/

/-- The options and inputs given so far, in order. -/
structure Given where
  switches : List Switch
  settings : List (Setter × String)
  inputs : List String
  deriving Inhabited

namespace Given

def none : Given := ⟨[], [], []⟩

def addSwitch (g : Given) (s : Switch) : Given := { g with switches := g.switches ++ [s] }

def addSetting (g : Given) (s : Setter) (value : String) : Given :=
  { g with settings := g.settings ++ [(s, value)] }

def addInput (g : Given) (input : String) : Given := { g with inputs := g.inputs ++ [input] }

end Given

/-- What follows once options and inputs are read up to some place: further arguments, or the value
of an option. -/
inductive Expecting where
  | argument
  | value (s : Setter)
  deriving Inhabited

/-- The letters after a hyphen. An option that takes a value takes the rest of the letters, without
an equals sign in front, or the next argument where there are none. -/
def readLetters (g : Given) : List Char → Option (Given × Expecting)
  | [] => some (g, .argument)
  | c :: cs =>
    match shortNames.lookup c with
    | none => none
    | some (.switch s) => readLetters (g.addSwitch s) cs
    | some (.setter s) =>
      match cs with
      | [] => some (g, .value s)
      | '=' :: value => some (g.addSetting s (String.ofList value), .argument)
      | value => some (g.addSetting s (String.ofList value), .argument)

/-- An option by its long name, after the hyphens. -/
def readLong (g : Given) (cs : List Char) : Option (Given × Expecting) :=
  let name := String.ofList (cs.takeWhile (· ≠ '='))
  let value : Option String :=
    match cs.dropWhile (· ≠ '=') with
    | [] => none
    | _ :: value => some (String.ofList value)
  match longNames.lookup name, value with
  | some (.switch s), none => some (g.addSwitch s, .argument)
  | some (.setter s), none => some (g, .value s)
  | some (.setter s), some value => some (g.addSetting s value, .argument)
  | _, _ => none

/-- One argument before the end of the options. An argument that looks like an option is no
value. -/
def readArgument (g : Given) (expecting : Expecting) (arg : String) : Option (Given × Expecting) :=
  match arg.toList, expecting with
  | '-' :: '-' :: cs, .argument => readLong g cs
  | '-' :: c :: cs, .argument => readLetters g (c :: cs)
  | '-' :: _ :: _, .value _ => none
  | _, .argument => some (g.addInput arg, .argument)
  | _, .value s => some (g.addSetting s arg, .argument)

/-- The given options and inputs; none where the arguments make no sense. -/
def readAll (g : Given) (expecting : Expecting) : List String → Option Given
  | [] =>
    match expecting with
    | .argument => some g
    | .value _ => none
  | "--" :: args =>
    match expecting with
    | .argument => some (args.foldl Given.addInput g)
    | .value _ => none
  | arg :: args =>
    match readArgument g expecting arg with
    | some (g, expecting) => readAll g expecting args
    | none => none

/-! ### The call -/

namespace Given

/-- The values of an option. -/
def values (g : Given) (s : Setter) : List String :=
  (g.settings.filter (·.1 = s)).map (·.2)

/-- The value of an option that may be given once. -/
def value? (g : Given) (s : Setter) : Option (Option String) :=
  match g.values s with
  | [] => some Option.none
  | [value] => some (some value)
  | _ => Option.none

/-- The path of an option that may be given once. A path is not empty. -/
def path? (g : Given) (s : Setter) : Option (Option String) := do
  let path ← g.value? s
  if path = some "" then Option.none else return path

/-- Whether an option that may be given once was given. -/
def flag? (g : Given) (s : Switch) : Option Bool :=
  match g.switches.filter (· = s) with
  | [] => some false
  | [_] => some true
  | _ => Option.none

/-- The format of the log. -/
def logFormat? (g : Given) : Option (Option LogFormat) := do
  match ← g.value? .logFormat with
  | some name => (LogFormat.ofName? name).map some
  | Option.none => return Option.none

/-- The one input. -/
def input? (g : Given) : Option String :=
  match g.inputs with
  | [input] => if input = "" then Option.none else some input
  | _ => Option.none

end Given

/-- What a call with the given arguments asks for; nothing where the arguments are refused. -/
def ofList? (args : List String) : Option Arguments := do
  let g ← readAll .none .argument args
  return {
    input := ← g.input?
    config := ← g.path? .config
    out := ← g.path? .out
    emitAst := ← g.flag? .emitAst
    flags := {
      skipAsserts := ← g.flag? .skipAsserts
      skipHelpers := ← g.flag? .skipHelpers
      warnOnFailure := ← g.flag? .warnOnFailure
      globals := g.values .global
      runtimeLibrary := ← g.value? .runtimeLibrary }
    noColor := ← g.flag? .noColor
    verbosity := g.switches.count .verbose
    logFormat := ← g.logFormat? }

end Arguments

end TypeGuard
