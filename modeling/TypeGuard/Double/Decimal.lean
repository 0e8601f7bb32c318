import TypeGuard.Double

/-!
# Decimal text of doubles

Reading: a sign, digits with an optional point, and an optional exponent, or one of the names of
infinity and NaN. Writing: the fewest digits that read back as the same number, positional where the
point falls within the first sixteen digits or less than five places before them.
-/

namespace TypeGuard.Double

/-! ### Reading -/

def digitValue (c : Char) : Nat := c.toNat - 48

def natOfDigits (cs : List Char) : Nat := cs.foldl (fun n c => 10 * n + digitValue c) 0

/-- An exponent: nothing, or the letter `e`, a sign and at least one digit. -/
def readExponent : List Char → Option Int
  | [] => some 0
  | c :: cs =>
    if c = 'e' ∨ c = 'E' then
      let (neg, digits) :=
        match cs with
        | '-' :: ds => (true, ds)
        | '+' :: ds => (false, ds)
        | ds => (false, ds)
      if digits.isEmpty || !digits.all Char.isDigit then none
      else some (if neg then -(natOfDigits digits : Int) else natOfDigits digits)
    else none

/-- A number without its sign: digits with at most one point among them, at least one digit, and an
exponent. -/
def readUnsigned (neg : Bool) (cs : List Char) : Option Double :=
  let whole := cs.takeWhile Char.isDigit
  let (fraction, rest) :=
    match cs.dropWhile Char.isDigit with
    | '.' :: ds => (ds.takeWhile Char.isDigit, ds.dropWhile Char.isDigit)
    | ds => ([], ds)
  if whole.isEmpty && fraction.isEmpty then none
  else
    (readExponent rest).map fun e =>
      ofDecimal neg (natOfDigits (whole ++ fraction)) (e - fraction.length)

/-- The double that a text denotes. -/
def ofText (text : String) : Option Double :=
  let (neg, cs) :=
    match text.toList with
    | '-' :: cs => (true, cs)
    | '+' :: cs => (false, cs)
    | cs => (false, cs)
  let word := String.ofList (cs.map Char.toLower)
  if word = "inf" ∨ word = "infinity" then some (infinite neg)
  else if word = "nan" then some nan
  else readUnsigned neg cs

/-! ### Shortest digits -/

/-- The largest `e` with `10 ^ e ≤ num / den`, for positive operands. -/
def floorLog10 (num den : Nat) : Int :=
  let e : Int := (decimalLength num : Int) - (decimalLength den : Int)
  let (p, q) := decimalRatio den e
  if num * q < p then e - 1 else e

/-- Whether `d · 10 ^ e` rounds to `mantissa · 2 ^ exponent`. -/
def readsBack (mantissa : Nat) (exponent : Int) (d : Nat) (e : Int) : Bool :=
  let (num, den) := decimalRatio d e
  ofRatio false num den == finite false mantissa exponent

/-- Of the two neighbours of a number on the grid of multiples of `10 ^ e`, one that reads back as
the number; of two such, the nearer, and in a tie the even one. -/
def onGrid? (mantissa : Nat) (exponent : Int) (e : Int) : Option Nat :=
  let (num, den) := ratio mantissa exponent
  let (p, q) := decimalRatio 1 (-e)
  let (num, den) := (num * p, den * q)
  let low := num / den
  let nearest := roundDiv num den
  if readsBack mantissa exponent nearest e then some nearest
  else if readsBack mantissa exponent low e then some low
  else if readsBack mantissa exponent (low + 1) e then some (low + 1)
  else none

/-- The first grid, from coarse to fine, that holds a number which reads back. -/
def shortestFrom (mantissa : Nat) (exponent : Int) : Nat → Int → Nat × Int
  | 0, e => ((onGrid? mantissa exponent e).getD 0, e)
  | fuel + 1, e =>
    match onGrid? mantissa exponent e with
    | some d => (d, e)
    | none => shortestFrom mantissa exponent fuel (e - 1)

/-- Trailing zeros move from the digits into the exponent. -/
def trimZeros : Nat → Nat → Int → Nat × Int
  | 0, d, e => (d, e)
  | fuel + 1, d, e => if d != 0 && d % 10 == 0 then trimZeros fuel (d / 10) (e + 1) else (d, e)

/-- The fewest digits `d` and the exponent `e` such that `d · 10 ^ e` reads back as the number. -/
def shortest (mantissa : Nat) (exponent : Int) : Nat × Int :=
  let (num, den) := ratio mantissa exponent
  let (d, e) := shortestFrom mantissa exponent 17 (floorLog10 num den)
  trimZeros 20 d e

/-! ### Writing -/

def zeros (n : Nat) : String := String.ofList (List.replicate n '0')

/-- The text of `digits · 10 ^ e`. -/
def decimalText (digits : Nat) (e : Int) : String :=
  let ds := Nat.toDigits 10 digits
  let point := e + ds.length
  if 0 ≤ e ∧ point ≤ 16 then String.ofList ds ++ zeros e.toNat ++ ".0"
  else if 0 < point ∧ point ≤ 16 then
    String.ofList (ds.take point.toNat) ++ "." ++ String.ofList (ds.drop point.toNat)
  else if -5 < point ∧ point ≤ 0 then "0." ++ zeros (-point).toNat ++ String.ofList ds
  else
    let exponent := (if 0 < point then "e+" else "e") ++ toString (point - 1)
    match ds with
    | [d] => d.toString ++ exponent
    | d :: rest => d.toString ++ "." ++ String.ofList rest ++ exponent
    | [] => exponent

/-- The shortest text of a double. -/
def text : Double → String
  | finite neg m e =>
    (if neg then "-" else "") ++
      if m = 0 then "0.0"
      else
        let (d, k) := shortest m e
        decimalText d k
  | infinite neg => if neg then "-inf" else "inf"
  | nan => "nan"

end TypeGuard.Double
