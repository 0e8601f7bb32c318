import TypeGuard.Binding
import TypeGuard.Destructuring
import TypeGuard.Limits
import TypeGuard.Scope

/-!
# Lexical regions

The regions of a unit in which names are bound, read off the syntax: a block with all that is
declared in it, all cases of a `switch`, a function with its parameters and the names of its `var`,
a catch clause, the head of a loop, and the own name of a function or class expression. A visit
records these names one after the other, so a region also tells which of them it has recorded so
far. A stack of scopes follows a list of regions if it knows what was recorded and nothing that was
not declared.
-/

namespace TypeGuard

/-- A region, with the names that a visit has recorded for it so far. -/
structure Region where
  /-- The names bound in the region, each with the type that it is declared with. Only `let` and
  `const` declare types. -/
  declared : List (String × Option StaticType)
  recorded : List String

namespace Region

def Binds (r : Region) (name : String) : Prop := ∃ type, (name, type) ∈ r.declared

def record (r : Region) (names : List String) : Region := { r with recorded := r.recorded ++ names }

end Region

/-! ### Resolution -/

/-- The innermost of the regions that binds the name declares it with the type. -/
inductive ResolvesTo (name : String) (type : StaticType) : List Region → Prop where
  | here {r rs} : (name, some type) ∈ r.declared → ResolvesTo name type (r :: rs)
  | outer {r rs} : ¬ r.Binds name → ResolvesTo name type rs → ResolvesTo name type (r :: rs)

/-- One of the regions declares the name with the type, and none of those further in has recorded
the name so far: where they bind it, its declaration is still ahead. -/
inductive SeenAs (name : String) (type : StaticType) : List Region → Prop where
  | here {r rs} : (name, some type) ∈ r.declared → SeenAs name type (r :: rs)
  | outer {r rs} : name ∉ r.recorded → SeenAs name type rs → SeenAs name type (r :: rs)

/-- What a name is seen as is what it resolves to, unless a declaration of it is still ahead. -/
theorem SeenAs.resolvesTo {name : String} {type : StaticType} {rs : List Region}
    (h : SeenAs name type rs) (hrecorded : ∀ r ∈ rs, r.Binds name → name ∈ r.recorded) :
    ResolvesTo name type rs := by
  induction h with
  | here hdeclared => exact .here hdeclared
  | outer hname _ ih =>
    refine .outer (fun hbinds => ?_) (ih fun r hr => hrecorded r (List.mem_cons_of_mem _ hr))
    exact hname (hrecorded _ (List.mem_cons_self ..) hbinds)

/-- What a scope lookup tells of a name: it is seen as declared with the type, and resolves to that
declaration where every region that binds the name has recorded it. -/
structure FoundAs (name : String) (type : StaticType) (rs : List Region) : Prop where
  seenAs : SeenAs name type rs
  resolvesTo : (∀ r ∈ rs, r.Binds name → name ∈ r.recorded) → ResolvesTo name type rs

theorem SeenAs.foundAs {name : String} {type : StaticType} {rs : List Region}
    (h : SeenAs name type rs) : FoundAs name type rs := ⟨h, h.resolvesTo⟩

/-! ### Names of statements -/

/-- Names that are bound without a type. -/
def untypedNames (names : List String) : List (String × Option StaticType) := names.map (·, none)

/-- The names that a declarator binds, each with its part of the declared type. -/
def Declarator.typedNames (d : Declarator) : List (String × Option StaticType) :=
  d.id.boundNames.map fun name => (name, d.type.bind (d.id.leafType? · name))

theorem Declarator.mem_typedNames {d : Declarator} {name : String} {type leaf : StaticType}
    (hname : name ∈ d.id.boundNames) (htype : d.type = some type)
    (hleaf : d.id.leafType? type name = some leaf) : (name, some leaf) ∈ d.typedNames := by
  refine List.mem_map.mpr ⟨name, hname, ?_⟩
  rw [htype, Option.bind_some, hleaf]

/-- The names that `let` and `const` bind where they stand. -/
def VarDecl.lexicalNames (d : VarDecl) : List (String × Option StaticType) :=
  if d.kind = .var then [] else d.declarators.flatMap Declarator.typedNames

namespace ForInit

def lexicalNames : ForInit → List (String × Option StaticType)
  | varDecl decl => decl.lexicalNames
  | expr _ => []

/-- The names that the visit of the clause records. -/
def recordedNames : ForInit → List String
  | varDecl decl => decl.boundNames
  | expr _ => []

end ForInit

namespace ForHead

def lexicalNames : ForHead → List (String × Option StaticType)
  | varDecl decl => decl.lexicalNames
  | target _ => []

/-- The names that the visit of the head records. -/
def recordedNames : ForHead → List String
  | varDecl decl => decl.boundNames
  | target _ => []

end ForHead

namespace Stmt

/-- The names that a statement of a list binds in the region of the list. -/
def lexicalNames : Stmt → List (String × Option StaticType)
  | varDecl decl => decl.lexicalNames
  | function func => untypedNames func.id.toList
  | «class» decl => untypedNames decl.id.toList
  | ifElse _ consequent alternate =>
    consequent.lexicalNames ++ match alternate with | some s => s.lexicalNames | none => []
  | «while» _ body => body.lexicalNames
  | doWhile body _ => body.lexicalNames
  | labeled _ body => body.lexicalNames
  | «export» (some decl) _ _ _ => decl.lexicalNames
  | _ => []

theorem lexicalNames_ifElse (test : Expr) (consequent : Stmt) (alternate : Option Stmt) :
    (ifElse test consequent alternate).lexicalNames = consequent.lexicalNames ++
      match alternate with | some s => s.lexicalNames | none => [] := by
  cases alternate <;> rfl

/-- The names that the visit of a statement at a depth records for the region of its list. -/
def recordedNames (d : Nat) (s : Stmt) : List String :=
  if Limits.treeDepth ≤ d then []
  else
    match s with
    | varDecl decl => decl.boundNames
    | ifElse _ consequent alternate =>
      consequent.recordedNames (d + 1) ++
        match alternate with | some s => s.recordedNames (d + 1) | none => []
    | «while» _ body => body.recordedNames (d + 1)
    | doWhile body _ => body.recordedNames (d + 1)
    | labeled _ body => body.recordedNames (d + 1)
    | «export» (some decl) _ _ _ => decl.recordedNames (d + 1)
    | _ => []

end Stmt

/-- The names that a list of statements binds in its region. -/
def stmtsLexicalNames (stmts : List Stmt) : List (String × Option StaticType) :=
  stmts.flatMap Stmt.lexicalNames

/-- The names that the visit of a list of statements records. -/
def stmtsRecordedNames (d : Nat) (stmts : List Stmt) : List String :=
  declaredNames stmts ++ stmts.flatMap (Stmt.recordedNames d)

/-! ### Regions of the syntax -/

/-- The names that parameters bind. -/
def paramNames (params : List Param) : List String := params.flatMap (·.pattern.boundNames)

/-- The names that a function body binds beside the parameters. -/
def FunctionBody.bodyNames : FunctionBody → List (String × Option StaticType)
  | .block stmts => untypedNames (varNames stmts) ++ stmtsLexicalNames stmts
  | .expr _ => []

namespace Region

/-- A region without recorded names. -/
def fresh (declared : List (String × Option StaticType)) : Region := ⟨declared, []⟩

/-- The region of the own name of a function or class expression, which a visit never records. -/
def ownName (id : Option String) : Region := fresh (untypedNames id.toList)

/-- The region of the parameters of a function. -/
def ofParams (params : List Param) : Region := fresh (untypedNames (paramNames params))

/-- The region of the body of a function, in which the parameters have been recorded. -/
def ofBody (params : List Param) (body : FunctionBody) : Region :=
  ⟨untypedNames (paramNames params) ++ body.bodyNames, paramNames params⟩

/-- The region of the statements of a unit, in which the names of `var` have been recorded. -/
def ofUnit (stmts : List Stmt) : Region :=
  ⟨untypedNames (varNames stmts) ++ stmtsLexicalNames stmts, varNames stmts⟩

/-- The region of a block. -/
def ofBlock (stmts : List Stmt) : Region := fresh (stmtsLexicalNames stmts)

/-- The region of a catch clause with a parameter, which has been recorded. -/
def ofCatch (param : Pattern) (stmts : List Stmt) : Region :=
  ⟨untypedNames param.boundNames ++ stmtsLexicalNames stmts, param.boundNames⟩

/-- The one region of all cases of a `switch`. -/
def ofCases (cases : List SwitchCase) : Region :=
  fresh (cases.flatMap fun c => stmtsLexicalNames c.consequent)

/-- The region of a loop whose head binds names. -/
def ofLoop (head : List (String × Option StaticType)) (body : Stmt) : Region :=
  fresh (head ++ body.lexicalNames)

end Region

/-! ### Scopes that follow regions -/

namespace Scope

variable {scope : Scope} {name : String} {entry : ScopeEntry}

theorem get?_record (scope : Scope) (name : String) (entry : ScopeEntry) (x : String) :
    (scope.record name entry).get? x =
      if scope.contains x then scope.get? x
      else if x = name then some entry else none := by
  unfold record
  split
  · rename_i hname
    split
    · rfl
    · rename_i hx
      have hne : x ≠ name := by
        rintro rfl
        exact hx hname
      simpa [contains, hne] using hx
  · have happend : (⟨scope.entries ++ [(name, entry)]⟩ : Scope).get? x =
        (scope.get? x).or ([(name, entry)].lookup x) := List.lookup_append
    rw [happend]
    split
    · rename_i hx
      obtain ⟨found, hfound⟩ := Option.isSome_iff_exists.mp hx
      rw [hfound]
      rfl
    · rename_i hx
      have hnone : scope.get? x = none := by simpa [contains] using hx
      rw [hnone, Option.none_or]
      by_cases hname : x = name
      · simp [hname]
      · have hbeq : (x == name) = false := beq_eq_false_iff_ne.mpr hname
        simp [List.lookup_cons, hbeq, hname]

/-- The scope has the names that were recorded for a region, and the types of its entries are
declared in the region. -/
structure Fits (scope : Scope) (r : Region) : Prop where
  recorded : ∀ name ∈ r.recorded, scope.contains name = true
  declared : ∀ name binding type, scope.get? name = some (some binding) →
    binding.pattern.leafType? binding.type name = some type → (name, some type) ∈ r.declared

namespace Fits

variable {r : Region}

theorem empty (declared : List (String × Option StaticType)) :
    Scope.empty.Fits (.fresh declared) where
  recorded _ h := nomatch h
  declared _ _ _ h := nomatch h

/-- The region may declare more, and less of it may have been recorded. -/
theorem weaken {r' : Region} (h : scope.Fits r) (hrecorded : r'.recorded ⊆ r.recorded)
    (hdeclared : r.declared ⊆ r'.declared) : scope.Fits r' where
  recorded name hname := h.recorded name (hrecorded hname)
  declared name binding type hget htype := hdeclared (h.declared name binding type hget htype)

/-- Recording a name, with a type only if the region declares that. -/
theorem record (h : scope.Fits r) (hentry : ∀ binding type, entry = some binding →
      binding.pattern.leafType? binding.type name = some type → (name, some type) ∈ r.declared) :
    (scope.record name entry).Fits (r.record [name]) where
  recorded x hx := by
    have hfound : scope.contains x = true ∨ x = name := by
      rcases List.mem_append.mp hx with hx | hx
      · exact .inl (h.recorded x hx)
      · exact .inr (List.mem_singleton.mp hx)
    rw [contains, get?_record]
    split
    · assumption
    · rename_i hnot
      rw [if_pos (hfound.resolve_left hnot)]
      rfl
  declared x binding type hget htype := by
    rw [get?_record] at hget
    split at hget
    · exact h.declared x binding type hget htype
    · split at hget
      · rename_i hx
        subst hx
        cases hget
        exact hentry binding type rfl htype
      · cases hget

end Fits

end Scope

theorem Region.record_record (r : Region) (names further : List String) :
    (r.record names).record further = r.record (names ++ further) := by
  simp [record]

@[simp] theorem Region.record_nil (r : Region) : r.record [] = r := by simp [record]

namespace ScopeStack

variable {s : ScopeStack} {r : Region} {entry : ScopeEntry} {names : List String}

theorem fits_recordAll (h : s.innermost.Fits r) (hentry : ∀ name ∈ names, ∀ binding type,
      entry = some binding → binding.pattern.leafType? binding.type name = some type →
        (name, some type) ∈ r.declared) :
    (s.recordAll names entry).innermost.Fits (r.record names) := by
  induction names generalizing s r with
  | nil =>
    rw [Region.record_nil]
    exact h
  | cons name names ih =>
    have hfirst := hentry name (List.mem_cons_self ..)
    have hrest := fun x hx => hentry x (List.mem_cons_of_mem name hx)
    have hrecord : (s.record name entry).innermost.Fits (r.record [name]) := h.record hfirst
    have hnames := ih hrecord hrest
    rw [Region.record_record] at hnames
    exact hnames

end ScopeStack

/-- Scopes that follow regions, innermost first. A region for which nothing is ever recorded may be
without a scope. -/
inductive ScopesFollow : List Scope → List Region → Prop where
  | nil : ScopesFollow [] []
  | opened {scope scopes r rs} : scope.Fits r → ScopesFollow scopes rs →
      ScopesFollow (scope :: scopes) (r :: rs)
  | unopened {scopes r rs} : r.recorded = [] → ScopesFollow scopes rs →
      ScopesFollow scopes (r :: rs)

/-- A typed binding that a name resolves to in the scopes tells what the name is seen as in the
regions that they follow. -/
theorem ScopesFollow.seenAs {scopes : List Scope} {rs : List Region} (h : ScopesFollow scopes rs)
    {name : String} {binding : TypedBinding} {type : StaticType}
    (hfind : (scopes.findSome? fun scope => scope.get? name) = some (some binding))
    (htype : binding.pattern.leafType? binding.type name = some type) : SeenAs name type rs := by
  induction h with
  | nil => cases hfind
  | @opened scope scopes r rs hfits _ ih =>
    rw [List.findSome?_cons] at hfind
    cases hget : scope.get? name with
    | some entry =>
      rw [hget] at hfind
      cases hfind
      exact .here (hfits.declared name binding type hget htype)
    | none =>
      rw [hget] at hfind
      refine .outer (fun hrecorded => ?_) (ih hfind)
      have hcontains := hfits.recorded name hrecorded
      rw [Scope.contains, hget] at hcontains
      cases hcontains
  | unopened hrecorded _ ih =>
    refine .outer ?_ (ih hfind)
    rw [hrecorded]
    exact List.not_mem_nil

end TypeGuard
