import TypeGuard.Config
import TypeGuard.Config.Comment
import TypeGuard.Json.Reader
import TypeGuard.Text.Blank

/-!
# Reading configurations

A configuration text is JSON with comments. It is read front to back, and the first thing that is
wrong with it tells why it is no configuration. A truth value may also be written as a word in a
string. Like every record, the configuration and its settings may be written as an array of their
fields.
-/

namespace TypeGuard.Config

/-- Why a text is no configuration. -/
inductive Fault where
  | malformed
  /-- A truth value that is neither true nor false. -/
  | invalidBoolean (text : String)
  deriving DecidableEq, Repr, Inhabited

namespace Fault

def message (_ : Fault) : String := "failed to parse flowcheck JSON"

/-- What the message leaves out. -/
def detail? : Fault → Option String
  | malformed => none
  | invalidBoolean text =>
    some ("invalid boolean value: '" ++ text ++ "'. Expected true, false, 'true', or 'false'")

end Fault

/-- Reads something from the front of a text and leaves what follows it. -/
abbrev Reading (α : Type) := List Char → Except Fault (α × List Char)

/-- A field of a record `σ`: its name, and how its value is read into the record. -/
structure Field (σ : Type) where
  name : String
  read : σ → Reading σ

namespace Reading

variable {α σ : Type}

/-- How deeply arrays and objects may nest in a text. -/
def maxDepth : Nat := 127

/-- A value, decoded as soon as it is read. -/
def value (decode : Json → Except Fault α) : Reading α := fun cs =>
  match Json.readValue (2 * cs.length + 2) cs with
  | some (j, rest) => (decode j).map fun a => (a, rest)
  | none => .error .malformed

/-- A string and the colon after it. -/
def key : Reading String := fun cs =>
  match Json.skipBlanks cs with
  | '"' :: cs =>
    match Json.readString (cs.length + 1) (some []) cs with
    | some (some key, rest) =>
      match Json.skipBlanks rest with
      | ':' :: rest => .ok (key, rest)
      | _ => .error .malformed
    | _ => .error .malformed
  | _ => .error .malformed

/-- The members of an object up to its closing brace. A field must not occur twice; other members
are passed over. -/
def members (fields : List (Field σ)) : Nat → List String → σ → Reading σ
  | 0, _, _ => fun _ => .error .malformed
  | fuel + 1, seen, record => fun cs => do
    let (key, cs) ← key cs
    let (record, cs) ←
      match fields.find? (·.name == key) with
      | some field => if seen.contains key then .error .malformed else field.read record cs
      | none => value (fun _ => .ok record) cs
    match Json.skipBlanks cs with
    | ',' :: cs => members fields fuel (key :: seen) record cs
    | '\x7d' :: cs => .ok (record, cs)
    | _ => .error .malformed

/-- The elements of an array up to its closing bracket, as the fields in order. -/
def elems : List (Field σ) → σ → Reading σ
  | [], _ => fun _ => .error .malformed
  | field :: fields, record => fun cs => do
    let (record, cs) ← field.read record cs
    match Json.skipBlanks cs with
    | ',' :: cs => elems fields record cs
    | ']' :: cs => .ok (record, cs)
    | _ => .error .malformed

/-- A record, of which every field may be left out. -/
def record (fields : List (Field σ)) (start : σ) : Reading σ := fun cs =>
  match Json.skipBlanks cs with
  | '\x7b' :: cs =>
    match Json.skipBlanks cs with
    | '\x7d' :: cs => .ok (start, cs)
    | _ => members fields (cs.length + 1) [] start cs
  | '[' :: cs =>
    match Json.skipBlanks cs with
    | ']' :: cs => .ok (start, cs)
    | _ => elems fields start cs
  | _ => .error .malformed

/-- Something that may be `null`. -/
def nullable (read : Reading α) : Reading (Option α) := fun cs =>
  match Json.skipBlanks cs with
  | 'n' :: 'u' :: 'l' :: 'l' :: cs => .ok (none, cs)
  | _ => (read cs).map fun (a, rest) => (some a, rest)

end Reading

/-! ### Fields -/

/-- The truth value that a word stands for. -/
def truthOfWord? (word : String) : Option Bool :=
  if ["true", "1", "yes", "on"].contains word then some true
  else if ["false", "0", "no", "off"].contains word then some false
  else none

/-- A truth value, as such or as a word. -/
def truth : Json → Except Fault (Option Bool)
  | .null => .ok none
  | .bool b => .ok (some b)
  | .str s =>
    match truthOfWord? (Text.keyword s) with
    | some b => .ok (some b)
    | none => .error (.invalidBoolean s)
  | _ => .error .malformed

/-- A list of names, which stands within two brackets. -/
def names (j : Json) : Except Fault (Option (List String)) :=
  match Options.names? j with
  | some names =>
    if j.denotes && j.depth + 2 ≤ Reading.maxDepth then .ok (some names) else .error .malformed
  | none => .error .malformed

def string : Json → Except Fault (Option String)
  | .null => .ok none
  | .str s => .ok (some s)
  | _ => .error .malformed

/-- A field with a value that is decoded and put into the record. -/
def field {σ α : Type} (name : String) (decode : Json → Except Fault α) (put : σ → α → σ) :
    Field σ :=
  ⟨name, fun record cs => (Reading.value decode cs).map fun (a, rest) => (put record a, rest)⟩

/-- The fields of the settings, in order. -/
def settingsFields : List (Field Settings) :=
  [field "skipHelpers" truth fun s v => { s with skipHelpers := v },
    field "skipAsserts" truth fun s v => { s with skipAsserts := v },
    field "warnOnFailure" truth fun s v => { s with warnOnFailure := v },
    field "globals" names fun s v => { s with globals := v },
    field "ambientTypes" names fun s v => { s with ambientTypes := v },
    field "runtimeLibrary" string fun s v => { s with runtimeLibrary := v }]

/-- The fields of a configuration, in order. -/
def fields : List (Field Config) :=
  [field "extends" string fun c v => { c with base := v },
    ⟨"transform", fun c cs =>
      (Reading.nullable (Reading.record settingsFields .unset) cs).map fun (s, rest) =>
        ({ c with settings := s }, rest)⟩]

/-- The configuration that a text denotes. -/
def ofText (text : String) : Except Fault Config :=
  match Reading.record fields .empty (Comment.strip text).toList with
  | .ok (c, rest) => if (Json.skipBlanks rest).isEmpty then .ok c else .error .malformed
  | .error fault => .error fault

end TypeGuard.Config
