import TypeGuard.Combinator
import TypeGuard.Environment
import TypeGuard.Limits
import TypeGuard.Lowering.Error

/-!
# Lowering

Turns a static type into a runtime combinator under an environment. A refinement
`$Refinement<typeof p>` has no check of its own: it is lowered to a carrier and a predicate, an
intersection puts the predicates of its members on top of its other members, and elsewhere the
predicate is put on top of the carrier at once.

The recursion goes down to the parts of a type and from a type parameter to its bound, which may
mention the parameter again; a budget of levels bounds both.
-/

namespace TypeGuard

/-- What a reference to a named type means. -/
inductive ReferenceKind where
  | list
  | function
  | object
  | promise
  | exact
  /-- A global or pseudo-generic without runtime shape. -/
  | erased
  /-- A type parameter in scope, with its bound. -/
  | typeParam (bound : Option StaticType)
  | refinement (predicate : Predicate)
  | reify (target : TypeName)
  /-- Any other named type. -/
  | nominal

namespace GenericRef

/-- The predicate of a refinement. -/
def refinementPredicate (ref : GenericRef) : Except LoweringError Predicate :=
  match ref.args with
  | [.typeof name] => .ok (.ref name)
  | _ => .error .invalidRefinement

/-- The named type that is reified. -/
def reifyTarget (ref : GenericRef) : Except LoweringError TypeName :=
  match ref.args with
  | [.generic target] => .ok target.name
  | _ => .error .invalidReify

/-- The meaning of a special name that is neither erased nor a type parameter. -/
def classifyFree (ref : GenericRef) (name : String) : Except LoweringError ReferenceKind :=
  if name = "$Refinement" then ref.refinementPredicate.map .refinement
  else if name = "$Reify" then ref.reifyTarget.map .reify
  else .ok .nominal

/-- The meaning of an unqualified name. -/
def classifySimple (env : Environment) (ref : GenericRef) (name : String) :
    Except LoweringError ReferenceKind :=
  if name = "Array" then .ok .list
  else if name = "Function" then .ok .function
  else if name = "Object" then .ok .object
  else if name = "$Exact" then .ok .exact
  else if name = "Promise" then .ok .promise
  else if env.isErased name then .ok .erased
  else
    match env.param? name with
    | some bound => .ok (.typeParam bound)
    | none => ref.classifyFree name

/-- The meaning of a reference. Only unqualified names can be special. -/
def classify (env : Environment) (ref : GenericRef) : Except LoweringError ReferenceKind :=
  match ref.name.simple? with
  | some name => ref.classifySimple env name
  | none => .ok .nominal

end GenericRef

/-- A lowered type: a carrier, and the predicate that is still to be put on top of it. -/
structure Lowered where
  carrier : Combinator
  predicate : Option Predicate
  deriving Inhabited

namespace Lowered

def plain (c : Combinator) : Lowered := ⟨c, none⟩

/-- The predicate put on top of the carrier, under a name. -/
def close (l : Lowered) (name : Option String) : Combinator :=
  match l.predicate with
  | some predicate => .refinement l.carrier predicate name
  | none => l.carrier

end Lowered

namespace Primitive

/-- The check of a keyword type. -/
def builtin : Primitive → Builtin
  | number => .number
  | string => .string
  | boolean => .boolean
  | void | null => .nil
  | any | mixed => .any

end Primitive

namespace Lowering

/-- How a part of a type is lowered. -/
abbrev Sub := StaticType → Except LoweringError Lowered

/-- A part as a combinator of its own, which has no name. -/
def part (sub : Sub) (type : StaticType) : Except LoweringError Combinator :=
  (sub type).map (·.close none)

def parts (sub : Sub) (types : List StaticType) : Except LoweringError (List Combinator) :=
  types.mapM (part sub)

/-- A property, under `maybe` where it is optional. -/
def property (sub : Sub) (p : ObjectProperty) : Except LoweringError (String × Combinator) := do
  let c ← part sub p.value
  return (p.key, if p.optional then c.orNil else c)

/-- The properties of an object type. -/
def properties (sub : Sub) (ps : List ObjectProperty) :
    Except LoweringError (List (String × Combinator)) :=
  (ps.mapM (property sub)).map Combinator.propsOfList

/-- A union; one of string literals only is an enumeration. -/
def union (sub : Sub) (members : List StaticType) (name : Option String) :
    Except LoweringError Combinator :=
  match members.mapM StaticType.stringLiteral? with
  | some (s :: ss) => .ok (.enum (s :: ss) name)
  | _ => (parts sub members).map (.union · name)

/-- An object type: a dictionary where it has an indexer, an interface where it has none. -/
def object (sub : Sub) (shape : ObjectShape) (name : Option String) :
    Except LoweringError Combinator :=
  match shape.indexers with
  | [] => (properties sub shape.properties).map (.interface · name shape.exact)
  | [indexer] => do
    let key ← part sub indexer.key
    let value ← part sub indexer.value
    return .dict key value name
  | indexers => .error (.ambiguousIndexer indexers.length)

/-- Predicates put on top of a carrier, the first innermost; the outermost gets the name. -/
def stack (carrier : Combinator) (name : Option String) : List Predicate → Combinator
  | [] => carrier
  | [p] => .refinement carrier p name
  | p :: ps => stack (.refinement carrier p none) name ps

/-- The plain members of an intersection taken together. -/
def meet (name : Option String) : List Combinator → Combinator
  | [] => .any
  | [c] => c
  | cs => .intersection cs name

/-- An intersection: the predicates of its members on top of the plain members. -/
def intersection (sub : Sub) (members : List StaticType) (name : Option String) :
    Except LoweringError Combinator := do
  let lowered ← members.mapM sub
  let predicates := lowered.filterMap (·.predicate)
  let plain := (lowered.filter (·.predicate.isNone)).map (·.carrier)
  return stack (meet (if predicates.isEmpty then name else none) plain) name predicates

/-- A literal type. -/
def literal (value : Literal) (name : Option String) : Combinator :=
  match value with
  | .string s => .enum [s] name
  | .number _ => .refinement (.builtin .number) (.equals value) name
  | .boolean _ => .refinement (.builtin .boolean) (.equals value) name

/-- A reference to a named type. -/
def generic (env : Environment) (sub : Sub) (ref : GenericRef) (name : Option String) :
    Except LoweringError Lowered := do
  match ← ref.classify env with
  | .list =>
    match ref.args with
    | [elem] => return .plain (.list (← part sub elem) name)
    | args => .error (.arity "Array" args.length)
  | .function => return .plain (.builtin .function)
  | .object => return .plain (.builtin .object)
  | .promise => return .plain (.builtin .promise)
  | .exact =>
    match ref.args with
    | [.object shape] =>
      return .plain (.interface (← properties sub shape.properties) name true)
    | _ => .error .invalidExact
  | .erased | .reify _ | .typeParam none => return .plain .any
  | .typeParam (some bound) => sub bound
  | .refinement predicate => return ⟨.any, some predicate⟩
  | .nominal => return .plain (.ref ref.name)

/-- One level of a type, its parts lowered by `sub`. -/
def level (env : Environment) (sub : Sub) (name : Option String) :
    StaticType → Except LoweringError Lowered
  | .primitive p => .ok (.plain (.builtin p.builtin))
  | .existential | .typeof _ => .ok (.plain .any)
  | .function _ => .ok (.plain (.builtin .function))
  | .list elem => (part sub elem).map fun c => .plain (.list c name)
  | .nullable inner => (part sub inner).map fun c => .plain (.maybe c name)
  | .tuple elems => (parts sub elems).map fun cs => .plain (.tuple cs name)
  | .union members => (union sub members name).map .plain
  | .object shape => (object sub shape name).map .plain
  | .intersection members => (intersection sub members name).map .plain
  | .generic ref => generic env sub ref name
  | .literal value => .ok (.plain (literal value name))
  | .unsupported kind => .error (.unsupported kind)

/-- A type that may take up to `budget` levels. -/
def within (env : Environment) : Nat → Option String → StaticType → Except LoweringError Lowered
  | 0, _, _ => .error (.tooDeep Limits.typeDepth)
  | budget + 1, name, type => level env (within env budget none) name type

end Lowering

namespace StaticType

/-- The carrier and predicate of a type. -/
def lowerMarked (env : Environment) (name : Option String) (type : StaticType) :
    Except LoweringError Lowered :=
  Lowering.within env Limits.typeDepth name type

/-- The check of a type, under a name at its root. -/
def lower (env : Environment) (name : Option String) (type : StaticType) :
    Except LoweringError Combinator :=
  (type.lowerMarked env name).map (·.close name)

end StaticType

namespace ObjectShape

/-- The check of an object type. -/
def lower (env : Environment) (name : Option String) (shape : ObjectShape) :
    Except LoweringError Combinator :=
  Lowering.object (Lowering.within env Limits.typeDepth none) shape name

/-- The checks of the properties of an object type. -/
def lowerProperties (env : Environment) (shape : ObjectShape) :
    Except LoweringError (List (String × Combinator)) :=
  Lowering.properties (Lowering.within env Limits.typeDepth none) shape.properties

end ObjectShape

end TypeGuard
