import TypeGuard.Wire.Record

/-!
# Options

The settings of a run, and how they are written in JSON: with names in camel case, every one of
which may be left out. A list of names may hold objects, whose keys are taken unless they are
switched off.
-/

namespace TypeGuard

structure Options where
  /-- Emit neither the import nor the helpers. -/
  skipHelpers : Bool
  /-- Insert no assertion; type declarations are still lowered. -/
  skipAsserts : Bool
  /-- Failures are logged instead of thrown. -/
  warnOnFailure : Bool
  /-- Names that have no runtime shape. -/
  globals : List String
  /-- Further names that have no runtime shape. -/
  ambientTypes : List String
  /-- The module that the library is imported from. -/
  runtimeLibrary : String
  deriving DecidableEq, Repr, Inhabited

namespace Options

def default : Options := ⟨false, false, false, [], [], "tcomb"⟩

/-- The names of the settings, in order of declaration. -/
def fieldNames : List String :=
  ["skipHelpers", "skipAsserts", "warnOnFailure", "globals", "ambientTypes", "runtimeLibrary"]

/-- The keys of an object, without repetition, that are not switched off; of a repeated key the last
value counts. -/
def enabledNames (members : List (String × Json)) : List String :=
  let keys := members.foldl (fun ks (k, _) => if ks.contains k then ks else ks ++ [k]) []
  keys.filter fun k =>
    match members.reverse.lookup k with
    | some (.bool false) => false
    | _ => true

/-- The names that an entry of a list stands for. -/
def namesOfEntry? : Json → Option (List String)
  | .str name => some [name]
  | .obj members => some (enabledNames members)
  | _ => none

/-- A list of names. -/
def names? (j : Json) : Option (List String) := (Wire.elems? namesOfEntry? j).map List.flatten

/-- The options that a value denotes. -/
def ofJson? (j : Json) : Option Options := do
  let [skipHelpers, skipAsserts, warnOnFailure, globals, ambientTypes, runtimeLibrary] ←
    Wire.fields? fieldNames j | none
  return ⟨← Wire.flag skipHelpers, ← Wire.flag skipAsserts, ← Wire.flag warnOnFailure,
    ← Wire.defaulted default.globals names? globals,
    ← Wire.defaulted default.ambientTypes names? ambientTypes,
    ← Wire.defaulted default.runtimeLibrary Wire.string? runtimeLibrary⟩

def toJson (o : Options) : Json :=
  .obj [("skipHelpers", .bool o.skipHelpers), ("skipAsserts", .bool o.skipAsserts),
    ("warnOnFailure", .bool o.warnOnFailure), ("globals", Wire.ofStrings o.globals),
    ("ambientTypes", Wire.ofStrings o.ambientTypes), ("runtimeLibrary", .str o.runtimeLibrary)]

end Options

end TypeGuard
