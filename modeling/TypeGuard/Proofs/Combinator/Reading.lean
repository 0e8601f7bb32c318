import TypeGuard.Combinator.Expression
import TypeGuard.Destructuring
import TypeGuard.Proofs.Combinator.Nodes

/-!
# Reading combinators back

The expression that constructs a combinator tells which one it is: `Combinator.ofExpr?` reads the
combinator back from it, by the callee and the kinds of the arguments. Only a type that is referred
to as a member of the library is mistaken, for the builtin type. So different combinators have
different expressions, `Combinator.toExpr_inj`.
-/

namespace TypeGuard

/-! ### Reading -/

/-- The path that is written as a chain of accesses; `void 0` is the one without segments. -/
def TypeName.ofExpr? : Expr → Option TypeName
  | .ident name => some (simple name)
  | .member obj name => (ofExpr? obj).map fun n => ⟨n.parts ++ [name]⟩
  | .unary _ _ => some ⟨[]⟩
  | _ => none

/-- The literal that is written as an expression. -/
def Literal.ofExpr? : Expr → Option Literal
  | .str value => some (.string value)
  | .num text => some (.number text)
  | .bool value => some (.boolean value)
  | _ => none

/-- The predicate that is written as a path or as a function, which compares with a literal. -/
def Predicate.ofExpr? : Expr → Option Predicate
  | .function ⟨_, _, .block [.ret (some (.binary _ _ operand))], _, _, _, _, _, _⟩ =>
    (Literal.ofExpr? operand).map .equals
  | e => (TypeName.ofExpr? e).map .ref

namespace Combinator

/-- The name that is told by the last arguments of a constructor. -/
def nameOf : List Expr → Option String
  | [.str name] => some name
  | _ => none

/-- The name and the exactness that are told by the last arguments of an interface. -/
def optionsOf : List Expr → Option String × Bool
  | [.object [.keyValue _ (.str name) _, _]] => (some name, true)
  | [.object _] => (none, true)
  | args => (nameOf args, false)

/-- The strings of an array literal of strings. -/
def strings? : List (Option Expr) → Option (List String)
  | [] => some []
  | some (.str value) :: es => (strings? es).map (value :: ·)
  | _ => none

/-- What a path stands for: a member of the library is a builtin type. -/
def ofPath (library : String) (path : TypeName) : Combinator :=
  match path.parts with
  | [x, member] =>
    match Builtin.all.find? (·.libraryName == member) with
    | some type => if x = library then builtin type else ref path
    | none => ref path
  | _ => ref path

mutual
/-- The combinator that an expression constructs. -/
def ofExpr? (library : String) : Expr → Option Combinator
  | .call callee args =>
    match callee, args with
    | .member _ "list", elem :: rest => (ofExpr? library elem).map (list · (nameOf rest))
    | .member _ "maybe", inner :: rest => (ofExpr? library inner).map (maybe · (nameOf rest))
    | .member _ "tuple", .array elems :: rest =>
      (ofElems? library elems).map (tuple · (nameOf rest))
    | .member _ "union", .array elems :: rest =>
      (ofElems? library elems).map (union · (nameOf rest))
    | .member _ "intersection", .array elems :: rest =>
      (ofElems? library elems).map (intersection · (nameOf rest))
    | .member _ "of", .array values :: rest => (strings? values).map (enum · (nameOf rest))
    | .member _ "dict", key :: value :: rest => do
      return dict (← ofExpr? library key) (← ofExpr? library value) (nameOf rest)
    | .member _ "refinement", base :: predicate :: rest => do
      return refinement (← ofExpr? library base) (← Predicate.ofExpr? predicate) (nameOf rest)
    | .member _ "interface", .object ps :: rest => do
      return interface (← ofProps? library ps) (optionsOf rest).1 (optionsOf rest).2
    | .member _ "declare", [.str name] => some (declare name)
    -- of the constructors only the extend helper is no member, whatever it is called
    | .ident _, .array members :: rest =>
      (ofElems? library members).map (extend · (nameOf rest))
    | _, _ => none
  | .object ps => (ofProps? library ps).map props
  | e => (TypeName.ofExpr? e).map (ofPath library)

def ofElems? (library : String) : List (Option Expr) → Option (List Combinator)
  | [] => some []
  | some e :: es => do return (← ofExpr? library e) :: (← ofElems? library es)
  | none :: _ => none

def ofProps? (library : String) : List ObjectProp → Option (List (String × Combinator))
  | [] => some []
  | .keyValue key value _ :: ps => do
    return (← key.static?, ← ofExpr? library value) :: (← ofProps? library ps)
  | _ => none
end

end Combinator

/-! ### What is written is read back -/

theorem TypeName.ofExpr?_foldl (n : TypeName) (e : Expr) (h : ofExpr? e = some n)
    (segments : List String) :
    ofExpr? (segments.foldl .member e) = some ⟨n.parts ++ segments⟩ := by
  induction segments generalizing n e with
  | nil => simpa using h
  | cons s segments ih =>
    rw [List.foldl_cons, ih ⟨n.parts ++ [s]⟩ (.member e s) (by rw [ofExpr?, h]; rfl)]
    simp

theorem TypeName.ofExpr?_path (n : TypeName) : ofExpr? (.path n) = some n := by
  obtain ⟨parts⟩ := n
  cases parts with
  | nil => rfl
  | cons first segments => exact ofExpr?_foldl (simple first) (.ident first) rfl segments

/-- A path is written as `void 0`, as a name or as an access. -/
theorem Expr.path_cases (n : TypeName) :
    path n = void0 ∨ (∃ x, path n = ident x) ∨ ∃ obj x, path n = member obj x := by
  obtain ⟨parts⟩ := n
  cases parts with
  | nil => exact .inl rfl
  | cons first segments =>
    rcases List.eq_nil_or_concat segments with rfl | ⟨segments, last, rfl⟩
    · exact .inr (.inl ⟨first, rfl⟩)
    · exact .inr (.inr ⟨segments.foldl member (ident first), last, by simp [path]⟩)

theorem Predicate.ofExpr?_toExpr (p : Predicate) : ofExpr? p.toExpr = some p := by
  cases p with
  | ref n =>
    have hpath : ofExpr? (.path n) = (TypeName.ofExpr? (.path n)).map .ref := by
      obtain h | ⟨x, h⟩ | ⟨obj, x, h⟩ := Expr.path_cases n <;> rw [h] <;> rfl
    exact hpath.trans (by rw [TypeName.ofExpr?_path]; rfl)
  | equals value => cases value <;> rfl

namespace Combinator

@[simp] theorem nameOf_nameArg (name : Option String) : nameOf (nameArg name) = name := by
  cases name <;> rfl

@[simp] theorem optionsOf_interfaceArgs (name : Option String) (exact : Bool) :
    optionsOf (interfaceArgs name exact) = (name, exact) := by
  cases name <;> cases exact <;> rfl

theorem strings?_map (values : List String) :
    strings? ((values.map .str).map some) = some values := by
  induction values with
  | nil => rfl
  | cons value values ih => rw [List.map_cons, List.map_cons, strings?, ih, Option.map_some]

theorem static?_ofString (key : String) : (PropKey.ofString key).static? = some key := by
  unfold PropKey.ofString
  split <;> rfl

theorem ofPath_builtin (library : String) (type : Builtin) :
    ofPath library ⟨[library, type.libraryName]⟩ = builtin type := by
  have hfind : Builtin.all.find? (·.libraryName == type.libraryName) = some type := by
    cases type <;> rfl
  simp only [ofPath, hfind, if_true]

theorem ofPath_of_head? {library : String} {n : TypeName} (h : n.parts.head? ≠ some library) :
    ofPath library n = ref n := by
  obtain ⟨parts⟩ := n
  match parts with
  | [] | [_] | _ :: _ :: _ :: _ => rfl
  | [x, member] =>
    have hx : x ≠ library := by simpa using h
    simp only [ofPath, if_neg hx]
    split <;> rfl

theorem ofExpr?_path (library : String) (n : TypeName) :
    ofExpr? library (.path n) = some (ofPath library n) := by
  have hpath : ofExpr? library (.path n) = (TypeName.ofExpr? (.path n)).map (ofPath library) := by
    obtain h | ⟨x, h⟩ | ⟨obj, x, h⟩ := Expr.path_cases n <;> rw [h] <;> rfl
  rw [hpath, TypeName.ofExpr?_path]
  rfl

/-- Whether the root is no reference by way of the library. -/
def AvoidsAtRoot (library : String) (c : Combinator) : Prop :=
  ∀ n, c = ref n → n.parts.head? ≠ some library

variable {names : RuntimeNames}

mutual
/-- A combinator is read back from the expression that constructs it, if no type that it refers to
is a member of the library. -/
theorem ofExpr?_toExpr (c : Combinator) (h : c.Everywhere (AvoidsAtRoot names.library)) :
    ofExpr? names.library (c.toExpr names) = some c := by
  match c with
  | builtin type => exact congrArg some (ofPath_builtin names.library type)
  | ref n => rw [toExpr, ofExpr?_path, ofPath_of_head? (h.root n rfl)]
  | list inner name | maybe inner name =>
    have hinner := ofExpr?_toExpr inner (h.child List.mem_cons_self)
    rw [toExpr, RuntimeNames.construct, Expr.callMember, ofExpr?, hinner, Option.map_some,
      nameOf_nameArg]
  | tuple members name | union members name | intersection members name =>
    have hmembers := ofElems?_exprs members fun d hd => h.child hd
    rw [toExpr, RuntimeNames.construct, Expr.callMember, Expr.arrayOf, ofExpr?, hmembers,
      Option.map_some, nameOf_nameArg]
  | enum values name =>
    rw [toExpr, Expr.callMember, Expr.arrayOf, ofExpr?, strings?_map, Option.map_some,
      nameOf_nameArg]
  | dict key value name =>
    have hkey := ofExpr?_toExpr key (h.child List.mem_cons_self)
    have hvalue := ofExpr?_toExpr value (h.child (List.mem_cons_of_mem _ List.mem_cons_self))
    rw [toExpr, RuntimeNames.construct, Expr.callMember, ofExpr?, hkey, hvalue, nameOf_nameArg]
    rfl
  | refinement base predicate name =>
    have hbase := ofExpr?_toExpr base (h.child List.mem_cons_self)
    rw [toExpr, RuntimeNames.construct, Expr.callMember, ofExpr?, hbase,
      predicate.ofExpr?_toExpr, nameOf_nameArg]
    rfl
  | interface ps name exact =>
    have hps := ofProps?_propExprs ps fun d hd => h.child hd
    rw [toExpr, RuntimeNames.construct, Expr.callMember, ofExpr?, hps, optionsOf_interfaceArgs]
    rfl
  | declare name => rfl
  | extend members name =>
    have hmembers := ofElems?_exprs members fun d hd => h.child hd
    rw [toExpr, Expr.callName, Expr.arrayOf, ofExpr?, hmembers, Option.map_some, nameOf_nameArg]
  | props ps =>
    have hps := ofProps?_propExprs ps fun d hd => h.child hd
    rw [toExpr, ofExpr?, hps, Option.map_some]

theorem ofElems?_exprs (cs : List Combinator)
    (h : ∀ c ∈ cs, c.Everywhere (AvoidsAtRoot names.library)) :
    ofElems? names.library ((exprs names cs).map some) = some cs := by
  match cs with
  | [] => rfl
  | c :: cs =>
    have hc := ofExpr?_toExpr c (h c List.mem_cons_self)
    have hcs := ofElems?_exprs cs fun d hd => h d (List.mem_cons_of_mem _ hd)
    simp [exprs, ofElems?, hc, hcs]

theorem ofProps?_propExprs (ps : List (String × Combinator))
    (h : ∀ c ∈ ps.map (·.2), c.Everywhere (AvoidsAtRoot names.library)) :
    ofProps? names.library (propExprs names ps) = some ps := by
  match ps with
  | [] => rfl
  | (key, c) :: ps =>
    have hc := ofExpr?_toExpr c (h c List.mem_cons_self)
    have hps := ofProps?_propExprs ps fun d hd => h d (List.mem_cons_of_mem _ hd)
    simp [propExprs, ofProps?, static?_ofString, hc, hps]
end

/-- No type that is referred to is a member of the library. -/
def Avoids (c : Combinator) (library : String) : Prop :=
  ∀ n, c.Contains (ref n) → n.parts.head? ≠ some library

theorem avoids_iff {c : Combinator} {library : String} :
    c.Avoids library ↔ c.Everywhere (AvoidsAtRoot library) := by
  constructor
  · rintro h d hd n rfl
    exact h n hd
  · intro h n hn
    exact h _ hn n rfl

/-- Combinators have the same constructor expression only if they are equal, provided that no type
that they refer to is a member of the library. The extend helper and the predicates may have any
names: the helper is called, which no reference is, and a predicate has a place of its own. -/
theorem toExpr_inj {c d : Combinator} (names : RuntimeNames) (hc : c.Avoids names.library)
    (hd : d.Avoids names.library) : c.toExpr names = d.toExpr names ↔ c = d := by
  constructor
  · intro h
    have hreadc := ofExpr?_toExpr c (avoids_iff.mp hc)
    have hreadd := ofExpr?_toExpr d (avoids_iff.mp hd)
    rw [h] at hreadc
    exact Option.some.inj (hreadc.symm.trans hreadd)
  · rintro rfl
    rfl

/-- The checks of `type T = {| id: number, of: $Refinement<typeof p> & a.B |}`, and of the same type
without a name. -/
theorem namedShape_ne_unnamedShape :
    let names : RuntimeNames := ⟨"_t", "_extend"⟩
    let part : Combinator := .refinement (.ref ⟨["a", "B"]⟩) (.ref (.simple "p")) none
    let c := interface [("id", .builtin .number), ("of", part)] (some "T") true
    let d := interface [("id", .builtin .number), ("of", part)] none true
    c.Avoids names.library ∧ d.Avoids names.library ∧ c ≠ d ∧ c.toExpr names ≠ d.toExpr names := by
  intro names part c d
  have hnumber : (builtin .number).Everywhere (AvoidsAtRoot "_t") :=
    everywhere_iff.mpr ⟨nofun, nofun⟩
  have hpart : part.Everywhere (AvoidsAtRoot "_t") := by
    have hbase : (ref ⟨["a", "B"]⟩).Everywhere (AvoidsAtRoot "_t") :=
      everywhere_iff.mpr ⟨by rintro _ ⟨⟩; decide, nofun⟩
    exact everywhere_iff.mpr ⟨nofun, List.forall_mem_singleton.mpr hbase⟩
  have hshape (name : Option String) :
      (interface [("id", .builtin .number), ("of", part)] name true).Avoids "_t" := by
    refine avoids_iff.mpr (everywhere_iff.mpr ⟨nofun, ?_⟩)
    exact List.forall_mem_cons.mpr ⟨hnumber, List.forall_mem_singleton.mpr hpart⟩
  have hne : c ≠ d := by simp [c, d]
  exact ⟨hshape _, hshape _, hne, fun h => hne ((toExpr_inj names (hshape _) (hshape _)).mp h)⟩

/-- A type that is referred to as `_t.Number` has the expression of the builtin type. -/
example : (ref ⟨["_t", "Number"]⟩).toExpr ⟨"_t", "_extend"⟩ =
    (builtin .number).toExpr ⟨"_t", "_extend"⟩ := rfl

end Combinator

end TypeGuard
