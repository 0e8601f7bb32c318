import TypeGuard.Proofs.Printing.Spelling

/-!
# Reading expressions

A reader of token lists that goes by the precedences of the printer. An expression is read as far as
its tokens bind at least as tightly as its place asks for: first a name, a parenthesised expression,
a `new` or an operator with its operand, and then what extends it. The operands of a binary operator
group to the left; parentheses leave no trace in the tree.

The functions are bounded by a number that no list of at most half its length exhausts. What one
step of them does is said by `Operand`, `Extension` and `Arguments`.
-/

namespace TypeGuard

namespace Reader

/-- How tightly the token binds what stands before it; zero if it does not extend an expression. -/
def strength (token : String) : Nat :=
  if token ∈ [".", "["] then Precedence.call + 1
  else if token = "(" then Precedence.call
  else if token ∈ Operator.update then Precedence.unary
  else if token ∈ Operator.binary then Precedence.ofOperator token
  else if token = "?" then Precedence.conditional
  else 0

/-- No token extends an expression that is read in a place that asks for the precedence `level`. -/
def Stops (level : Nat) (tokens : List String) : Prop :=
  ∀ token ∈ tokens.head?, strength token < level

instance (level : Nat) (tokens : List String) : Decidable (Stops level tokens) :=
  inferInstanceAs (Decidable (∀ token ∈ tokens.head?, strength token < level))

/-- What comes after a token that has to come first. -/
def expect (token : String) : List String → Option (List String)
  | [] => none
  | t :: ts => if t = token then some ts else none

/-- The word at the beginning. -/
def word? : List String → Option (String × List String)
  | [] => none
  | t :: ts => if isWord t then some (t, ts) else none

mutual
/-- The expression at the beginning, read in a place that asks for the precedence `level`. -/
def expr? : Nat → Nat → List String → Option (Expr × List String)
  | n + 1, level, token :: ts =>
    if token = "(" then do
      let (e, ts) ← expr? n Precedence.sequence ts
      let ts ← expect ")" ts
      extend? n level e ts
    else if token = "new" then do
      -- the arguments of the callee are those of the `new`
      let (callee, ts) ← expr? n (Precedence.call + 1) ts
      let ts ← expect "(" ts
      let (args, ts) ← args? n ts
      extend? n level (.new callee args) ts
    else if token ∈ Operator.unary ∧ level ≤ Precedence.unary then do
      let (arg, ts) ← expr? n Precedence.unary ts
      extend? n level (.unary token arg) ts
    else if token ∈ Operator.update ∧ level ≤ Precedence.unary then do
      let (arg, ts) ← expr? n Precedence.unary ts
      extend? n level (.update token true arg) ts
    else if isName token then extend? n level (.ident token) ts
    else none
  | _, _, _ => none

/-- The arguments up to the parenthesis that closes them. -/
def args? : Nat → List String → Option (List Expr × List String)
  | n + 1, ts =>
    if ts.head? = some ")" then some ([], ts.tail)
    else do
      let (e, ts) ← expr? n Precedence.assignment ts
      if ts.head? = some "," then
        let (es, ts) ← args? n ts.tail
        return (e :: es, ts)
      else
        let ts ← expect ")" ts
        return ([e], ts)
  | _, _ => none

/-- What the expression `e` is extended to by the tokens after it. -/
def extend? : Nat → Nat → Expr → List String → Option (Expr × List String)
  | _ + 1, _, e, [] => some (e, [])
  | n + 1, level, e, token :: ts =>
    if strength token < level then some (e, token :: ts)
    else if token = "." then do
      let (name, ts) ← word? ts
      extend? n level (.member e name) ts
    else if token = "[" then do
      let (key, ts) ← expr? n Precedence.sequence ts
      let ts ← expect "]" ts
      extend? n level (.index e key) ts
    else if token = "(" then do
      let (args, ts) ← args? n ts
      extend? n level (.call e args) ts
    else if token ∈ Operator.update then
      if Stops Precedence.unary ts then extend? n level (.update token false e) ts else none
    else if token ∈ Operator.binary then do
      let (right, ts) ← expr? n (Precedence.ofOperator token + 1) ts
      extend? n level (.binary token e right) ts
    else if token = "?" then do
      let (consequent, ts) ← expr? n Precedence.assignment ts
      let ts ← expect ":" ts
      let (alternate, ts) ← expr? n Precedence.assignment ts
      extend? n level (.conditional e consequent alternate) ts
    else none
  | 0, _, _, _ => none
end

/-! ### The steps of the reader -/

/-- What an expression begins with, read from the tokens before those that are left. -/
inductive Operand (n level : Nat) : List String → Expr → List String → Prop
  | paren {ts e rest} (h : expr? n Precedence.sequence ts = some (e, ")" :: rest)) :
    Operand n level ("(" :: ts) e rest
  | new {ts callee after args rest}
      (hcallee : expr? n (Precedence.call + 1) ts = some (callee, "(" :: after))
      (hargs : args? n after = some (args, rest)) :
    Operand n level ("new" :: ts) (.new callee args) rest
  | unary {op ts arg rest} (hop : op ∈ Operator.unary) (hlevel : level ≤ Precedence.unary)
      (h : expr? n Precedence.unary ts = some (arg, rest)) :
    Operand n level (op :: ts) (.unary op arg) rest
  | update {op ts arg rest} (hop : op ∈ Operator.update) (hlevel : level ≤ Precedence.unary)
      (h : expr? n Precedence.unary ts = some (arg, rest)) :
    Operand n level (op :: ts) (.update op true arg) rest
  | name {name ts} (hname : isName name = true) :
    Operand n level (name :: ts) (.ident name) ts

/-- What the expression `e` is extended to, read from the tokens before those that are left. -/
inductive Extension (n level : Nat) (e : Expr) : List String → Expr → List String → Prop
  | member {name rest} (hlevel : level ≤ Precedence.call + 1) (hname : isWord name = true) :
    Extension n level e ("." :: name :: rest) (.member e name) rest
  | index {ts key rest} (hlevel : level ≤ Precedence.call + 1)
      (h : expr? n Precedence.sequence ts = some (key, "]" :: rest)) :
    Extension n level e ("[" :: ts) (.index e key) rest
  | call {ts args rest} (hlevel : level ≤ Precedence.call) (h : args? n ts = some (args, rest)) :
    Extension n level e ("(" :: ts) (.call e args) rest
  | update {op rest} (hop : op ∈ Operator.update) (hlevel : level ≤ Precedence.unary)
      (hrest : Stops Precedence.unary rest) :
    Extension n level e (op :: rest) (.update op false e) rest
  | binary {op ts right rest} (hop : op ∈ Operator.binary)
      (hlevel : level ≤ Precedence.ofOperator op)
      (h : expr? n (Precedence.ofOperator op + 1) ts = some (right, rest)) :
    Extension n level e (op :: ts) (.binary op e right) rest
  | conditional {ts consequent after alternate rest} (hlevel : level ≤ Precedence.conditional)
      (h : expr? n Precedence.assignment ts = some (consequent, ":" :: after))
      (halternate : expr? n Precedence.assignment after = some (alternate, rest)) :
    Extension n level e ("?" :: ts) (.conditional e consequent alternate) rest

/-- The arguments of a call, read from the tokens up to the parenthesis that closes them. -/
inductive Arguments (n : Nat) : List String → List Expr → List String → Prop
  | nil {rest} : Arguments n (")" :: rest) [] rest
  | single {ts e rest} (hts : ts.head? ≠ some ")")
      (h : expr? n Precedence.assignment ts = some (e, ")" :: rest)) :
    Arguments n ts [e] rest
  | cons {ts e after es rest} (hts : ts.head? ≠ some ")")
      (h : expr? n Precedence.assignment ts = some (e, "," :: after))
      (hes : args? n after = some (es, rest)) :
    Arguments n ts (e :: es) rest

section

variable {n level : Nat} {e e' : Expr} {ts rest : List String}

theorem strength_update : ∀ op ∈ Operator.update, strength op = Precedence.unary := by decide

theorem strength_binary : ∀ op ∈ Operator.binary, strength op = Precedence.ofOperator op := by
  decide

theorem Stops.mono {level' : Nat} (h : Stops level ts) (hle : level ≤ level') : Stops level' ts :=
  fun t ht => Nat.lt_of_lt_of_le (h t ht) hle

theorem Stops.nil : Stops level [] := nofun

theorem Stops.cons {token : String} (h : strength token < level) (ts : List String) :
    Stops level (token :: ts) := by
  intro t ht
  obtain rfl : token = t := Option.some.inj ht
  exact h

theorem expect_eq_some {token : String} (h : expect token ts = some rest) : ts = token :: rest := by
  cases ts with
  | nil => cases h
  | cons t ts =>
    rw [expect] at h
    split at h
    case isTrue ht => rw [ht, Option.some.inj h]
    case isFalse => cases h

theorem word?_eq_some {word : String} (h : word? ts = some (word, rest)) :
    ts = word :: rest ∧ isWord word = true := by
  cases ts with
  | nil => cases h
  | cons t ts =>
    rw [word?] at h
    split at h
    case isTrue hword =>
      cases h
      exact ⟨rfl, hword⟩
    case isFalse => cases h

/-- The reader goes on to extend the operand. -/
theorem Operand.expr?_eq (h : Operand n level ts e rest) :
    expr? (n + 1) level ts = extend? n level e rest := by
  cases h with
  | paren he => simp [expr?, he, expect]
  | new hcallee hargs => simp [expr?, hcallee, expect, hargs]
  | @unary op _ _ _ hop hlevel harg =>
    have hother : ∀ op ∈ Operator.unary, op ≠ "(" ∧ op ≠ "new" := by decide
    simp [expr?, hother op hop, hop, hlevel, harg]
  | @update op _ _ _ hop hlevel harg =>
    have hother : ∀ op ∈ Operator.update, op ≠ "(" ∧ op ≠ "new" ∧ op ∉ Operator.unary := by decide
    simp [expr?, hother op hop, hop, hlevel, harg]
  | @name name _ hname =>
    have hother : ∀ t ∈ "(" :: "new" :: Operator.unary ++ Operator.update, isName t = false := by
      decide
    have hne : name ∉ "(" :: "new" :: Operator.unary ++ Operator.update := by
      intro hmem
      rw [hother name hmem] at hname
      cases hname
    simp only [List.cons_append, List.mem_cons, List.mem_append, not_or] at hne
    simp [expr?, hne, hname]

/-- The tokens that no expression begins with, among those that statements are made of. -/
theorem expr?_eq_none {token : String} (h : token ∈ [")", "\x7b", "\x7d", "if", "else"]) :
    expr? n level (token :: ts) = none := by
  have hother : ∀ t ∈ [")", "\x7b", "\x7d", "if", "else"], t ≠ "(" ∧ t ≠ "new" ∧
      t ∉ Operator.unary ∧ t ∉ Operator.update ∧ isName t = false := by decide
  cases n with
  | zero => simp [expr?]
  | succ n => simp [expr?, hother token h]

theorem expr?_nil : expr? n level [] = none := by
  cases n <;> simp [expr?]

/-- What is read begins with an operand. -/
theorem exists_operand {result : Expr × List String} (h : expr? (n + 1) level ts = some result) :
    ∃ e rest, Operand n level ts e rest ∧ extend? n level e rest = some result := by
  cases ts with
  | nil => cases h
  | cons t ts =>
    rw [expr?] at h
    split at h
    case isTrue hparen =>
      simp only [Option.bind_eq_bind, Option.bind_eq_some_iff, Prod.exists] at h
      obtain ⟨e, remaining, he, after, hclose, h⟩ := h
      obtain rfl := expect_eq_some hclose
      exact ⟨e, after, hparen ▸ .paren he, h⟩
    case isFalse =>
    split at h
    case isTrue hnew =>
      simp only [Option.bind_eq_bind, Option.bind_eq_some_iff, Prod.exists] at h
      obtain ⟨callee, remaining, hcallee, opening, hopening, args, after, hargs, h⟩ := h
      obtain rfl := expect_eq_some hopening
      exact ⟨.new callee args, after, hnew ▸ .new hcallee hargs, h⟩
    case isFalse =>
    split at h
    case isTrue hop =>
      simp only [Option.bind_eq_bind, Option.bind_eq_some_iff, Prod.exists] at h
      obtain ⟨arg, after, harg, h⟩ := h
      exact ⟨.unary t arg, after, .unary hop.1 hop.2 harg, h⟩
    case isFalse =>
    split at h
    case isTrue hop =>
      simp only [Option.bind_eq_bind, Option.bind_eq_some_iff, Prod.exists] at h
      obtain ⟨arg, after, harg, h⟩ := h
      exact ⟨.update t true arg, after, .update hop.1 hop.2 harg, h⟩
    case isFalse =>
    split at h
    case isTrue hname => exact ⟨.ident t, ts, .name hname, h⟩
    case isFalse => cases h

theorem extend?_stop (h : Stops level rest) : extend? (n + 1) level e rest = some (e, rest) := by
  cases rest with
  | nil => rw [extend?]
  | cons t ts => rw [extend?, if_pos (h t rfl)]

/-- The reader goes on to extend what the expression is extended to. -/
theorem Extension.extend?_eq (h : Extension n level e ts e' rest) :
    extend? (n + 1) level e ts = extend? n level e' rest := by
  cases h with
  | member hlevel hname =>
    have hstrength : strength "." = Precedence.call + 1 := by decide
    simp [extend?, hstrength, Nat.not_lt.mpr hlevel, word?, hname]
  | index hlevel hkey =>
    have hstrength : strength "[" = Precedence.call + 1 := by decide
    simp [extend?, hstrength, Nat.not_lt.mpr hlevel, hkey, expect]
  | call hlevel hargs =>
    have hstrength : strength "(" = Precedence.call := by decide
    simp [extend?, hstrength, Nat.not_lt.mpr hlevel, hargs]
  | @update op _ hop hlevel hrest =>
    have hother : ∀ op ∈ Operator.update, op ≠ "." ∧ op ≠ "[" ∧ op ≠ "(" := by decide
    simp [extend?, strength_update op hop, Nat.not_lt.mpr hlevel, hother op hop, hop, hrest]
  | @binary op _ _ _ hop hlevel hright =>
    have hother : ∀ op ∈ Operator.binary,
        op ≠ "." ∧ op ≠ "[" ∧ op ≠ "(" ∧ op ∉ Operator.update := by decide
    simp [extend?, strength_binary op hop, Nat.not_lt.mpr hlevel, hother op hop, hop, hright]
  | conditional hlevel hconsequent halternate =>
    have hstrength : strength "?" = Precedence.conditional := by decide
    have hother : "?" ∉ Operator.update ∧ "?" ∉ Operator.binary := by decide
    simp [extend?, hstrength, Nat.not_lt.mpr hlevel, hother, hconsequent, expect, halternate]

/-- The reader stops after the expression or extends it. -/
theorem stops_or_exists_extension {result : Expr × List String}
    (h : extend? (n + 1) level e ts = some result) :
    (result = (e, ts) ∧ Stops level ts) ∨
      ∃ f rest, Extension n level e ts f rest ∧ extend? n level f rest = some result := by
  cases ts with
  | nil =>
    rw [extend?] at h
    exact .inl ⟨(Option.some.inj h).symm, .nil⟩
  | cons t ts =>
    rw [extend?] at h
    split at h
    case isTrue hstops => exact .inl ⟨(Option.some.inj h).symm, .cons hstops ts⟩
    case isFalse hlevel =>
    replace hlevel := Nat.not_lt.mp hlevel
    refine .inr ?_
    split at h
    case isTrue hdot =>
      simp only [Option.bind_eq_bind, Option.bind_eq_some_iff, Prod.exists] at h
      obtain ⟨name, after, hname, h⟩ := h
      obtain ⟨rfl, hword⟩ := word?_eq_some hname
      subst hdot
      exact ⟨.member e name, after, .member hlevel hword, h⟩
    case isFalse =>
    split at h
    case isTrue hbracket =>
      simp only [Option.bind_eq_bind, Option.bind_eq_some_iff, Prod.exists] at h
      obtain ⟨key, remaining, hkey, after, hclose, h⟩ := h
      obtain rfl := expect_eq_some hclose
      subst hbracket
      exact ⟨.index e key, after, .index hlevel hkey, h⟩
    case isFalse =>
    split at h
    case isTrue hparen =>
      simp only [Option.bind_eq_bind, Option.bind_eq_some_iff, Prod.exists] at h
      obtain ⟨args, after, hargs, h⟩ := h
      subst hparen
      exact ⟨.call e args, after, .call hlevel hargs, h⟩
    case isFalse =>
    split at h
    case isTrue hop =>
      rw [strength_update t hop] at hlevel
      split at h
      case isTrue hstops => exact ⟨.update t false e, ts, .update hop hlevel hstops, h⟩
      case isFalse => cases h
    case isFalse =>
    split at h
    case isTrue hop =>
      rw [strength_binary t hop] at hlevel
      simp only [Option.bind_eq_bind, Option.bind_eq_some_iff, Prod.exists] at h
      obtain ⟨right, after, hright, h⟩ := h
      exact ⟨.binary t e right, after, .binary hop hlevel hright, h⟩
    case isFalse =>
    split at h
    case isTrue hquestion =>
      simp only [Option.bind_eq_bind, Option.bind_eq_some_iff, Prod.exists] at h
      obtain ⟨consequent, remaining, hconsequent, middle, hcolon, h⟩ := h
      obtain ⟨alternate, after, halternate, h⟩ := h
      obtain rfl := expect_eq_some hcolon
      subst hquestion
      exact ⟨.conditional e consequent alternate, after,
        .conditional hlevel hconsequent halternate, h⟩
    case isFalse => cases h

theorem args?_eq_some {es : List Expr} :
    args? (n + 1) ts = some (es, rest) ↔ Arguments n ts es rest := by
  constructor
  · intro h
    rw [args?] at h
    split at h
    case isTrue hclose =>
      obtain ⟨after, rfl⟩ := List.head?_eq_some_iff.mp hclose
      cases h
      exact .nil
    case isFalse hts =>
    simp only [Option.bind_eq_bind, Option.bind_eq_some_iff, Prod.exists] at h
    obtain ⟨e, remaining, he, h⟩ := h
    split at h
    case isTrue hcomma =>
      simp only [Option.bind_eq_some_iff, Prod.exists] at h
      obtain ⟨es, after, hes, h⟩ := h
      obtain ⟨others, rfl⟩ := List.head?_eq_some_iff.mp hcomma
      cases h
      exact .cons hts he hes
    case isFalse =>
      simp only [Option.bind_eq_some_iff] at h
      obtain ⟨after, hclose, h⟩ := h
      obtain rfl := expect_eq_some hclose
      cases h
      exact .single hts he
  · intro h
    cases h with
    | nil => simp [args?]
    | single hts he => simp [args?, hts, he, expect]
    | cons hts he hes => simp [args?, hts, he, hes]

end

end Reader

/-- The expression that a text is read as, if it is one. -/
def Expr.read? (text : String) : Option Expr :=
  let ts := tokenize text.toList
  match Reader.expr? (2 * ts.length) Precedence.sequence ts with
  | some (e, []) => some e
  | _ => none

end TypeGuard
