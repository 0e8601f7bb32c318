import TypeGuard.Combinator
import TypeGuard.Json
import TypeGuard.Limits

/-!
# Conformance

When a value passes a check. A model holds the named types and predicates that checks refer to.
`Model.check` evaluates a combinator on a value and reports the path to the first part that does not
fit. JSON has neither functions nor promises, so those checks reject every value; a missing property
counts as `null`.

The evaluation follows names, which may lead around in circles; a budget of nested checks bounds it,
and a check that runs out of it fails.
-/

namespace TypeGuard

/-- The named types and predicates that checks refer to, the latest definition of a name first. -/
structure Model where
  types : List (String × Combinator)
  predicates : List (String × (Json → Bool))

/-- What an assertion does with a value that fails. -/
inductive Policy where
  | throw
  /-- Passes the value on. -/
  | warn
  deriving DecidableEq, Repr, Inhabited

/-- A part of a value that does not fit: where it is, its text, and the name of the check. -/
structure Mismatch where
  path : List String
  actual : String
  expected : String
  deriving DecidableEq, Repr, Inhabited

/-- A value that failed a check under a label. -/
structure Failure where
  path : List String
  /-- The label and the path. -/
  location : String
  actual : String
  expected : String
  deriving DecidableEq, Repr, Inhabited

namespace Failure

def message (f : Failure) : String :=
  "Invalid value " ++ f.actual ++ " supplied to " ++ f.location ++ " (expected a " ++ f.expected ++
    ")"

/-- The path with dots between its segments. -/
def dotted (f : Failure) : String := ".".intercalate f.path

end Failure

namespace Json

/-- The number as a double. -/
def asDouble? : Json → Option Double
  | int i => some (.ofInt i)
  | double d => some d
  | _ => none

end Json

namespace Builtin

/-- Whether a value is of a builtin type. -/
def accepts : Builtin → Json → Bool
  | number, .int _ | number, .double _ => true
  | string, .str _ => true
  | boolean, .bool _ => true
  | nil, .null => true
  | any, _ => true
  | object, .obj _ => true
  | _, _ => false

end Builtin

namespace Literal

/-- Whether a value equals the literal. Numbers are compared as doubles. -/
def matchesValue : Literal → Json → Bool
  | number text, j =>
    match Double.ofText text, j.asDouble? with
    | some expected, some actual => actual.numEq expected
    | _, _ => false
  | boolean expected, .bool actual => actual == expected
  | string expected, .str actual => actual == expected
  | _, _ => false

end Literal

namespace Mismatch

/-- The value itself does not fit. -/
def here (c : Combinator) (v : Json) : Mismatch := ⟨[], v.text, c.displayName⟩

/-- The part under a segment does not fit. -/
def under (segment : String) (m : Mismatch) : Mismatch := { m with path := segment :: m.path }

/-- The failure of a labelled check. -/
def toFailure (label : String) (m : Mismatch) : Failure :=
  ⟨m.path, label ++ String.join (m.path.map fun s => "/" ++ s), m.actual, m.expected⟩

end Mismatch

namespace Model

/-- The model without definitions. -/
def empty : Model := ⟨[], []⟩

instance : Inhabited Model := ⟨empty⟩

/-- Defines a type; a later definition of a name counts. -/
def define (m : Model) (name : String) (c : Combinator) : Model :=
  { m with types := (name, c) :: m.types }

/-- Defines a predicate; a later definition of a name counts. -/
def definePredicate (m : Model) (name : String) (p : Json → Bool) : Model :=
  { m with predicates := (name, p) :: m.predicates }

def type? (m : Model) (name : String) : Option Combinator := m.types.lookup name

/-- Whether a predicate holds; an unknown one never does. -/
def holds (m : Model) (p : Predicate) (v : Json) : Bool :=
  match p with
  | .ref name => ((m.predicates.lookup name.dotted).map (· v)).getD false
  | .equals value => value.matchesValue v

/-! ### Evaluation -/

/-- How a part of a value is checked against a part of a combinator. -/
abbrev Sub := Combinator → Json → Except Mismatch Unit

/-- Elements from the position `i` on, each against the same check. -/
def checkElems (sub : Json → Except Mismatch Unit) (i : Nat) : List Json → Except Mismatch Unit
  | [] => .ok ()
  | v :: vs =>
    match sub v with
    | .ok () => checkElems sub (i + 1) vs
    | .error m => .error (m.under (toString i))

/-- Elements from the position `i` on, each against the check at its position. -/
def checkTuple (sub : Sub) (i : Nat) : List Combinator → List Json → Except Mismatch Unit
  | c :: cs, v :: vs =>
    match sub c v with
    | .ok () => checkTuple sub (i + 1) cs vs
    | .error m => .error (m.under (toString i))
  | _, _ => .ok ()

/-- Entries of an object, the key and then the value of each. -/
def checkEntries (key value : Json → Except Mismatch Unit) :
    List (String × Json) → Except Mismatch Unit
  | [] => .ok ()
  | (k, v) :: entries =>
    match key (.str k) with
    | .error m => .error (m.under k)
    | .ok () =>
      match value v with
      | .error m => .error (m.under k)
      | .ok () => checkEntries key value entries

/-- Properties that an object has to have; one that is missing counts as `null`. -/
def checkProps (sub : Sub) (members : List (String × Json)) :
    List (String × Combinator) → Except Mismatch Unit
  | [] => .ok ()
  | (key, c) :: props =>
    match sub c ((members.lookup key).getD .null) with
    | .error m => .error (m.under key)
    | .ok () => checkProps sub members props

/-- The first member that is not among the properties does not fit an exact object. -/
def checkExact (props : List (String × Combinator)) (members : List (String × Json)) :
    Except Mismatch Unit :=
  match members.find? fun (key, _) => !(props.any fun (k, _) => k == key) with
  | some (key, v) => .error ((Mismatch.here (.builtin .nil) v).under key)
  | none => .ok ()

/-- A value against every check of a list. -/
def checkAll (sub : Sub) (v : Json) : List Combinator → Except Mismatch Unit
  | [] => .ok ()
  | c :: cs =>
    match sub c v with
    | .ok () => checkAll sub v cs
    | .error m => .error m

/-- Whether a check succeeded. -/
def passes : Except Mismatch Unit → Bool
  | .ok () => true
  | .error _ => false

/-- Success, or a mismatch of the value as a whole. -/
def orHere (c : Combinator) (v : Json) (ok : Bool) : Except Mismatch Unit :=
  if ok then .ok () else .error (.here c v)

/-- One level of a check, its parts checked by `sub`. -/
def level (m : Model) (sub : Sub) (c : Combinator) (v : Json) : Except Mismatch Unit :=
  match c, v with
  | .builtin type, v => orHere c v (type.accepts v)
  | .ref name, v =>
    match m.type? name.dotted with
    | some target => sub target v
    | none => .error (.here c v)
  | .declare name, v =>
    match m.type? name with
    | some target => sub target v
    | none => .error (.here c v)
  | .list elem _, .arr items => checkElems (sub elem) 0 items
  | .maybe _ _, .null => .ok ()
  | .maybe inner _, v => sub inner v
  | .tuple elems _, .arr items =>
    if items.length = elems.length then checkTuple sub 0 elems items else .error (.here c v)
  | .union members _, v => orHere c v (members.any fun x => passes (sub x v))
  | .enum values _, .str s => orHere c v (values.contains s)
  | .dict key value _, .obj entries => checkEntries (sub key) (sub value) entries
  | .refinement base predicate _, v =>
    match sub base v with
    | .error e => .error e
    | .ok () => orHere c v (m.holds predicate v)
  | .interface props _ exact, .obj members =>
    match checkProps sub members props with
    | .error e => .error e
    | .ok () => if exact then checkExact props members else .ok ()
  | .props props, .obj members => checkProps sub members props
  | .intersection members _, v => checkAll sub v members
  | .extend members _, v => checkAll sub v (Combinator.informative members)
  | _, _ => .error (.here c v)

/-- A check that may nest `budget` checks. -/
def checkWithin (m : Model) : Nat → Combinator → Json → Except Mismatch Unit
  | 0, c, v => .error (.here c v)
  | budget + 1, c, v => m.level (m.checkWithin budget) c v

/-- The first part of a value that does not fit a check. -/
def check (m : Model) (c : Combinator) (v : Json) : Except Mismatch Unit :=
  m.checkWithin (Limits.typeDepth + 1) c v

/-- Whether a value passes a check. -/
def accepts (m : Model) (c : Combinator) (v : Json) : Bool := passes (m.check c v)

/-- A check under a label. -/
def validateAs (m : Model) (label : String) (c : Combinator) (v : Json) : Except Failure Unit :=
  match m.check c v with
  | .ok () => .ok ()
  | .error e => .error (e.toFailure label)

/-- A check under its own name. -/
def validate (m : Model) (c : Combinator) (v : Json) : Except Failure Unit :=
  m.validateAs c.displayName c v

/-- An assertion returns the value; under the policy to warn it does so even on a failure. -/
def assert (m : Model) (policy : Policy) (label : String) (c : Combinator) (v : Json) :
    Except Failure Json :=
  match m.validateAs label c v, policy with
  | .ok (), _ => .ok v
  | .error _, .warn => .ok v
  | .error f, .throw => .error f

end Model

end TypeGuard
