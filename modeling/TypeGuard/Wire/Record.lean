import TypeGuard.Json

/-!
# Records and variants in JSON

How trees are laid out as JSON values. A record is an object with a member for each field, or an
array of its fields in order of declaration. A variant is the string of its name where it carries
nothing, and otherwise an object whose only member has that name.

Readers take a number of brackets that may still be opened; each array and object that is entered
takes one. A reader that starts with the depth of its value never runs out.
-/

namespace TypeGuard.Wire

/-! ### Reading -/

/-- The member with the given key: `none` if there are several, `some none` if there is none. -/
def member? (key : String) (members : List (String × Json)) : Option (Option Json) :=
  match members.filter (·.1 == key) with
  | [] => some none
  | [(_, j)] => some (some j)
  | _ => none

/-- The fields of a record in order of declaration, `none` for one that is absent. -/
def fields? (names : List String) : Json → Option (List (Option Json))
  | .obj members => names.mapM fun name => member? name members
  | .arr elems =>
    if elems.length ≤ names.length then
      some (elems.map some ++ List.replicate (names.length - elems.length) none)
    else none
  | _ => none

variable {α : Type}

/-- A field that has to be present. -/
def required (read : Json → Option α) : Option Json → Option α
  | some j => read j
  | none => none

/-- A field that has the value `value` where it is absent. -/
def defaulted (value : α) (read : Json → Option α) : Option Json → Option α
  | some j => read j
  | none => some value

/-- A value that may be `null`. -/
def nullable (read : Json → Option α) : Json → Option (Option α)
  | .null => some none
  | j => (read j).map some

/-- A field that may be absent or `null`. -/
def omittable (read : Json → Option α) : Option Json → Option (Option α) :=
  defaulted none (nullable read)

def elems? (read : Json → Option α) : Json → Option (List α)
  | .arr elems => elems.mapM read
  | _ => none

def string? : Json → Option String
  | .str s => some s
  | _ => none

def bool? : Json → Option Bool
  | .bool b => some b
  | _ => none

/-- A field that is false where it is absent. -/
def flag (field : Option Json) : Option Bool := defaulted false bool? field

def uint32? : Json → Option UInt32
  | .int i => if 0 ≤ i ∧ i < UInt32.size then some (UInt32.ofNat i.toNat) else none
  | _ => none

/-- A list of strings, which opens one bracket. -/
def strings? : Nat → Json → Option (List String)
  | 0, _ => none
  | _ + 1, j => elems? string? j

/-- A variant that carries nothing. -/
def unit? (names : List (String × α)) : Nat → Json → Option α
  | _, .str name => names.lookup name
  | _ + 1, .obj [(name, .null)] => names.lookup name
  | _, _ => none

/-! ### Writing -/

/-- A variant that carries a value. -/
def variant (name : String) (payload : Json) : Json := .obj [(name, payload)]

def ofString? : Option String → Json
  | some s => .str s
  | none => .null

def ofStrings (ss : List String) : Json := .arr (ss.map .str)

def ofUInt32 (n : UInt32) : Json := .int n.toNat

end TypeGuard.Wire
