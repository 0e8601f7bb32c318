import TypeGuard.Json

/-!
# Reading JSON text

A reader for JSON text. An integer that fits 64 bits, signed or unsigned, is read as an integer, and
every other number as a double. The reader takes fuel for its recursion; `Json.scan` starts it with
more than any text can use.

Parts of a well-formed text may denote nothing: a number that is too large, a string with one half
of a surrogate pair, and an object with such a string as a key. They are read as an infinity or a
NaN, which nothing else in a text is read as. `Json.scan` leaves them in the value, for those who
pass over parts of it, and `Json.ofText` refuses them.
-/

namespace TypeGuard.Json

def isBlank (c : Char) : Bool := c == ' ' || c == '\n' || c == '\t' || c == '\r'

def skipBlanks (cs : List Char) : List Char := cs.dropWhile isBlank

/-! ### Strings -/

def hexValue (c : Char) : Option Nat :=
  if '0' ≤ c ∧ c ≤ '9' then some (c.toNat - 48)
  else if 'a' ≤ c ∧ c ≤ 'f' then some (c.toNat - 87)
  else if 'A' ≤ c ∧ c ≤ 'F' then some (c.toNat - 55)
  else none

/-- Four hexadecimal digits. -/
def readHex4 : List Char → Option (Nat × List Char)
  | a :: b :: c :: d :: cs => do
    let a ← hexValue a
    let b ← hexValue b
    let c ← hexValue c
    let d ← hexValue d
    return (((a * 16 + b) * 16 + c) * 16 + d, cs)
  | _ => none

def isHighHalf (n : Nat) : Bool := 0xD800 ≤ n && n ≤ 0xDBFF

def isLowHalf (n : Nat) : Bool := 0xDC00 ≤ n && n ≤ 0xDFFF

/-- The character of a code escape, after its `u`: one code, or the high half of a surrogate pair
and the escape of a low half. A half on its own denotes no character. -/
def readCode (cs : List Char) : Option (Option Char × List Char) := do
  let (n, cs) ← readHex4 cs
  if isLowHalf n then return (none, cs)
  else if isHighHalf n then
    match cs with
    | '\\' :: 'u' :: low =>
      let (m, rest) ← readHex4 low
      if isLowHalf m then
        return (some (Char.ofNat (0x10000 + (n - 0xD800) * 0x400 + (m - 0xDC00))), rest)
      else return (none, cs)
    | _ => return (none, cs)
  else return (some (Char.ofNat n), cs)

/-- The character of an escape, after its backslash. -/
def readEscape : List Char → Option (Option Char × List Char)
  | '"' :: cs => some (some '"', cs)
  | '\\' :: cs => some (some '\\', cs)
  | '/' :: cs => some (some '/', cs)
  | 'b' :: cs => some (some (Char.ofNat 8), cs)
  | 'f' :: cs => some (some (Char.ofNat 12), cs)
  | 'n' :: cs => some (some '\n', cs)
  | 'r' :: cs => some (some '\r', cs)
  | 't' :: cs => some (some '\t', cs)
  | 'u' :: cs => readCode cs
  | _ => none

/-- One more part in front of others, which denotes something only together with all of them. -/
def prepend {α : Type} (first : Option α) (others : Option (List α)) : Option (List α) :=
  first.bind fun a => others.map (a :: ·)

/-- The rest of a string after its opening quote, and what follows it; `done` holds what was read,
last character first. -/
def readString : Nat → Option (List Char) → List Char → Option (Option String × List Char)
  | 0, _, _ => none
  | _ + 1, _, [] => none
  | fuel + 1, done, c :: cs =>
    if c = '"' then some (done.map fun ds => String.ofList ds.reverse, cs)
    else if c = '\\' then
      match readEscape cs with
      | some (d, cs) => readString fuel (prepend d done) cs
      | none => none
    else if c.toNat < 0x20 then none
    else readString fuel (prepend (some c) done) cs

/-! ### Numbers -/

def maxUInt64 : Nat := UInt64.size - 1

/-- The double `± f · 10 ^ e`, by rounding each product or quotient; infinite where it is too
large. -/
def scaleDecimal : Nat → Bool → Double → Int → Double
  | 0, neg, _, _ => .infinite neg
  | fuel + 1, neg, f, e =>
    if e.natAbs ≤ 308 then
      let power := Double.ofDecimal false 1 e.natAbs
      match if 0 ≤ e then f.mul power else f.div power with
      | .finite _ m x => .finite neg m x
      | _ => .infinite neg
    else if f.isZero then .finite neg 0 Double.minExponent
    else if 0 ≤ e then .infinite neg
    else scaleDecimal fuel neg (f.div (Double.ofDecimal false 1 308)) (e + 308)

/-- The double of a significand and a decimal exponent. An exponent below all doubles is not
followed step by step. -/
def doubleOfParts (neg : Bool) (significand : Nat) (e : Int) : Double :=
  scaleDecimal 8 neg (.ofNat significand) (max e (-2000))

/-- The exponent after its letter, for the significand and exponent read so far. -/
def readExponentPart (neg : Bool) (significand : Nat) (e : Int) (cs : List Char) :
    Option (Json × List Char) :=
  let (negExp, cs) :=
    match cs with
    | '+' :: cs => (false, cs)
    | '-' :: cs => (true, cs)
    | cs => (false, cs)
  let digits := cs.takeWhile Char.isDigit
  let rest := cs.dropWhile Char.isDigit
  if digits.isEmpty then none
  else
    let size := Double.natOfDigits digits
    if UInt32.size / 2 ≤ size then
      let tooLarge := significand != 0 && !negExp
      some (.double (if tooLarge then .infinite neg else .finite neg 0 Double.minExponent), rest)
    else
      let e := if negExp then e - size else e + size
      some (.double (doubleOfParts neg significand e), rest)

/-- Digits are added to the significand as long as 64 bits hold it. -/
def addDigits (significand : Nat) : List Char → Nat × Nat
  | [] => (significand, 0)
  | c :: cs =>
    let next := significand * 10 + Double.digitValue c
    if maxUInt64 < next then (significand, 0)
    else
      let (s, used) := addDigits next cs
      (s, used + 1)

/-- The fraction and the exponent of a number after the digits of its whole part, of which the
significand lacks `e`; `none` in the second component where neither was written. -/
def readFraction (neg : Bool) (significand : Nat) (e : Int) (cs : List Char) :
    Option (Option Json × List Char) :=
  match cs with
  | '.' :: cs =>
    let digits := cs.takeWhile Char.isDigit
    let rest := cs.dropWhile Char.isDigit
    if digits.isEmpty then none
    else
      let (significand, used) := addDigits significand digits
      let e := e - used
      match rest with
      | 'e' :: cs | 'E' :: cs =>
        (readExponentPart neg significand e cs).map fun (j, cs) => (some j, cs)
      | rest => some (some (.double (doubleOfParts neg significand e)), rest)
  | 'e' :: cs | 'E' :: cs =>
    (readExponentPart neg significand e cs).map fun (j, cs) => (some j, cs)
  | cs => some (none, cs)

/-- The value of a number without fraction and exponent. -/
def ofWhole (neg : Bool) (n : Nat) : Json :=
  if !neg && n ≤ maxUInt64 then .int n
  else if neg && n != 0 && n ≤ UInt64.size / 2 then .int (-n)
  else .double (doubleOfParts neg n 0)

/-- A number, after its sign. -/
def readNumber (neg : Bool) (cs : List Char) : Option (Json × List Char) :=
  let digits := cs.takeWhile Char.isDigit
  let rest := cs.dropWhile Char.isDigit
  match digits with
  | [] => none
  | '0' :: _ :: _ => none
  | digits =>
    let (significand, used) := addDigits 0 digits
    let dropped := digits.length - used
    match readFraction neg significand dropped rest with
    | none => none
    | some (some j, rest) => some (j, rest)
    | some (none, rest) =>
      some (if dropped = 0 then ofWhole neg significand
        else .double (doubleOfParts neg significand dropped), rest)

/-! ### Values -/

/-- Stands for a string or an object that denotes nothing. -/
def void : Json := .double .nan

mutual
/-- A value, and what follows it. -/
def readValue : Nat → List Char → Option (Json × List Char)
  | 0, _ => none
  | fuel + 1, cs =>
    match skipBlanks cs with
    | 'n' :: 'u' :: 'l' :: 'l' :: cs => some (null, cs)
    | 't' :: 'r' :: 'u' :: 'e' :: cs => some (bool true, cs)
    | 'f' :: 'a' :: 'l' :: 's' :: 'e' :: cs => some (bool false, cs)
    | '"' :: cs => (readString fuel (some []) cs).map fun (s, cs) => ((s.map str).getD void, cs)
    | '[' :: cs =>
      match skipBlanks cs with
      | ']' :: cs => some (arr [], cs)
      | cs => (readElems fuel cs).map fun (js, cs) => (arr js, cs)
    | '\x7b' :: cs =>
      match skipBlanks cs with
      | '\x7d' :: cs => some (obj [], cs)
      | cs => (readMembers fuel cs).map fun (ms, cs) => ((ms.map obj).getD void, cs)
    | '-' :: cs => readNumber true cs
    | cs => readNumber false cs

/-- The elements of an array up to its closing bracket. -/
def readElems : Nat → List Char → Option (List Json × List Char)
  | 0, _ => none
  | fuel + 1, cs =>
    match readValue fuel cs with
    | none => none
    | some (j, cs) =>
      match skipBlanks cs with
      | ']' :: cs => some ([j], cs)
      | ',' :: cs => (readElems fuel cs).map fun (js, cs) => (j :: js, cs)
      | _ => none

/-- The members of an object up to its closing brace. -/
def readMembers : Nat → List Char → Option (Option (List (String × Json)) × List Char)
  | 0, _ => none
  | fuel + 1, cs =>
    match skipBlanks cs with
    | '"' :: cs =>
      match readString fuel (some []) cs with
      | none => none
      | some (key, cs) =>
        match skipBlanks cs with
        | ':' :: cs =>
          match readValue fuel cs with
          | none => none
          | some (j, cs) =>
            let member := key.map fun k => (k, j)
            match skipBlanks cs with
            | '\x7d' :: cs => some (prepend member (some []), cs)
            | ',' :: cs => (readMembers fuel cs).map fun (ms, cs) => (prepend member ms, cs)
            | _ => none
        | _ => none
    | _ => none
end

/-- The value of a well-formed text, of which parts may denote nothing. -/
def scan (text : String) : Option Json :=
  let cs := text.toList
  match readValue (2 * cs.length + 2) cs with
  | some (j, rest) => if (skipBlanks rest).isEmpty then some j else none
  | none => none

mutual
/-- Whether every part of the value denotes something. -/
def denotes : Json → Bool
  | double (.finite _ _ _) => true
  | double _ => false
  | arr elems => elemsDenote elems
  | obj members => membersDenote members
  | _ => true

def elemsDenote : List Json → Bool
  | [] => true
  | j :: js => j.denotes && elemsDenote js

def membersDenote : List (String × Json) → Bool
  | [] => true
  | (_, j) :: ms => j.denotes && membersDenote ms
end

/-- The value that the whole text denotes. -/
def ofText (text : String) : Option Json := (scan text).filter denotes

end TypeGuard.Json
