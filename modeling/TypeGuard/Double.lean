/-!
# Double precision numbers

Binary floating point with 53 bits of precision, as exact integers: a finite number is
`± mantissa · 2 ^ exponent`. Every operation computes the exact result as a quotient of naturals and
rounds it once, to the nearest number and in a tie to the even one.
-/

namespace TypeGuard

/-- A double. The mantissa of a finite one is below `2 ^ 53`, and below `2 ^ 52` only where the
exponent is the least one. -/
inductive Double where
  | finite (neg : Bool) (mantissa : Nat) (exponent : Int)
  | infinite (neg : Bool)
  | nan
  deriving DecidableEq, Repr, Inhabited

namespace Double

def minExponent : Int := -1074

def maxExponent : Int := 971

/-- The quotient rounded to the nearest natural, in a tie to the even one. -/
def roundDiv (num den : Nat) : Nat :=
  let q := num / den
  let twice := 2 * (num % den)
  if den < twice ∨ (den = twice ∧ q % 2 = 1) then q + 1 else q

/-- `num / den / 2 ^ e` as a numerator and a denominator. -/
def scaled (num den : Nat) (e : Int) : Nat × Nat :=
  if 0 ≤ e then (num, den * Nat.pow 2 e.toNat) else (num * Nat.pow 2 (-e).toNat, den)

/-- The largest `e` with `2 ^ e ≤ num / den`, for positive operands. -/
def floorLog2 (num den : Nat) : Int :=
  let e : Int := (Nat.log2 num : Int) - (Nat.log2 den : Int)
  let (n, d) := scaled num den e
  if n < d then e - 1 else e

/-- The double nearest to `± num / den`. -/
def ofRatio (neg : Bool) (num den : Nat) : Double :=
  if num = 0 then finite neg 0 minExponent
  else
    let e := max (floorLog2 num den - 52) minExponent
    let (n, d) := scaled num den e
    let m := roundDiv n d
    let (m, e) := if m = Nat.pow 2 53 then (Nat.pow 2 52, e + 1) else (m, e)
    if maxExponent < e then infinite neg else finite neg m e

def ofNat (n : Nat) : Double := ofRatio false n 1

def ofInt (i : Int) : Double := ofRatio (i < 0) i.natAbs 1

/-- The number of decimal digits. -/
def decimalLength (n : Nat) : Nat := (Nat.toDigits 10 n).length

/-- `digits · 10 ^ e` as a numerator and a denominator. -/
def decimalRatio (digits : Nat) (e : Int) : Nat × Nat :=
  if 0 ≤ e then (digits * Nat.pow 10 e.toNat, 1) else (digits, Nat.pow 10 (-e).toNat)

/-- The double nearest to `± digits · 10 ^ e`. Exponents out of reach are not expanded. -/
def ofDecimal (neg : Bool) (digits : Nat) (e : Int) : Double :=
  let size := e + decimalLength digits
  if digits = 0 ∨ size < -400 then finite neg 0 minExponent
  else if 400 < size then infinite neg
  else
    let (num, den) := decimalRatio digits e
    ofRatio neg num den

/-- The absolute value of a finite number as a numerator and a denominator. -/
def ratio (mantissa : Nat) (e : Int) : Nat × Nat :=
  if 0 ≤ e then (mantissa * Nat.pow 2 e.toNat, 1) else (mantissa, Nat.pow 2 (-e).toNat)

/-- The product of finite numbers. -/
def mul : Double → Double → Double
  | finite n₁ m₁ e₁, finite n₂ m₂ e₂ =>
    let (a, b) := ratio m₁ e₁
    let (c, d) := ratio m₂ e₂
    ofRatio (n₁ != n₂) (a * c) (b * d)
  | _, _ => nan

/-- The quotient of finite numbers, the divisor not zero. -/
def div : Double → Double → Double
  | finite n₁ m₁ e₁, finite n₂ m₂ e₂ =>
    let (a, b) := ratio m₁ e₁
    let (c, d) := ratio m₂ e₂
    ofRatio (n₁ != n₂) (a * d) (b * c)
  | _, _ => nan

def isZero : Double → Bool
  | finite _ m _ => m == 0
  | _ => false

/-- Numeric equality: the two zeros are equal, and no number equals a NaN. -/
def numEq (a b : Double) : Bool :=
  if a = nan then false else a == b || (a.isZero && b.isZero)

/-- Whether the number is greater than zero. -/
def isPositive : Double → Bool
  | finite neg m _ => !neg && m != 0
  | infinite neg => !neg
  | nan => false

end Double

end TypeGuard
