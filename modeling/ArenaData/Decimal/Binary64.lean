/-!
# Binary64 numbers

A finite number of the binary64 format is a whole mantissa below 2^53 times a power of two whose
exponent lies between -1074 and 971; beyond the largest there are only the two infinities, and one
more value stands for no number at all. Numbers are kept in this form, so that rounding a decimal to
the format, comparing with zero and cutting to a whole number are exact arithmetic on naturals.
-/

namespace ArenaData

/-- A number of the binary64 format. -/
inductive Binary64 where
  /-- The number `mantissa * 2 ^ exponent`, or its negative; the sign is kept for zero too. -/
  | finite (negative : Bool) (mantissa : Nat) (exponent : Int)
  /-- Larger than every finite number, or smaller. -/
  | infinite (negative : Bool)
  /-- Not a number. -/
  | notANumber
  deriving DecidableEq, Repr, Inhabited

namespace Binary64

/-- The least exponent of the format. -/
def minExponent : Int := -1074

/-- The greatest exponent of the format. -/
def maxExponent : Int := 971

/-- A mantissa stays below this. -/
def mantissaBound : Nat := 0x20000000000000

/-- The quotient rounded to the nearest whole number, a half to the even one. -/
def divRound (num den : Nat) : Nat :=
  let q := num / den
  let twice := 2 * (num % den)
  if twice < den then q
  else if den < twice then q + 1
  else q + q % 2

/-- The quotient of `a` and `b`, each times a power of `base`: positive exponents go to the
numerator, negative ones to the denominator. -/
def scaled (base : Nat) (num den : Nat) (exponent : Int) : Nat × Nat :=
  if 0 ≤ exponent then (num * base.pow exponent.toNat, den)
  else (num, den * base.pow (-exponent).toNat)

/-- The greatest `e` with `2 ^ e ≤ num / den`, for a positive quotient. -/
def floorLog2 (num den : Nat) : Int :=
  let guess : Int := Nat.log2 num - Nat.log2 den
  let (n, d) := scaled 2 num den (-guess)
  if d ≤ n then guess else guess - 1

/-- The positive quotient rounded to the format. -/
def ofQuotient (negative : Bool) (num den : Nat) : Binary64 :=
  let exponent := max (floorLog2 num den - 52) minExponent
  let (n, d) := scaled 2 num den (-exponent)
  let mantissa := divRound n d
  let (mantissa, exponent) :=
    if mantissa < mantissaBound then (mantissa, exponent) else (mantissa / 2, exponent + 1)
  if exponent ≤ maxExponent then .finite negative mantissa exponent else .infinite negative

/-- The positive number `mantissa * 2 ^ exponent` rounded to the format. -/
def ofScaled (negative : Bool) (mantissa : Nat) (exponent : Int) : Binary64 :=
  let (num, den) := scaled 2 mantissa 1 exponent
  ofQuotient negative num den

/-- The number of decimal digits of `n`. -/
def digitCount (n : Nat) : Nat := (Nat.toDigits 10 n).length

/-- The decimal `coefficient * 10 ^ exponent` rounded to the format. A decimal of more than 310
places before the point is beyond the format, and one whose first 400 places after the point are
zeros rounds to zero, so the power of ten that has to be formed stays small. -/
def ofDecimal (negative : Bool) (coefficient : Nat) (exponent : Int) : Binary64 :=
  if coefficient = 0 then .finite negative 0 minExponent
  else
    let places : Int := digitCount coefficient + exponent
    if 310 < places then .infinite negative
    else if places < -400 then .finite negative 0 minExponent
    else
      let (num, den) := scaled 10 coefficient 1 exponent
      ofQuotient negative num den

/-- The number divided by `n`, rounded to the format. -/
def dividedBy (x : Binary64) (n : Nat) : Binary64 :=
  match x with
  | .finite _ 0 _ => x
  | .finite negative mantissa exponent =>
    let (num, den) := scaled 2 mantissa n exponent
    ofQuotient negative num den
  | x => x

/-- What is left of a finite number when a multiple of `n` is taken away so that the rest is not
negative, rounded to the format. The rest of a number just below a multiple may be rounded to `n`
itself. -/
def restBy? (x : Binary64) (n : Nat) : Option Binary64 :=
  match x with
  | .finite negative mantissa exponent =>
    let (num, den) := scaled 2 mantissa 1 exponent
    let rest := ((if negative then -(num : Int) else num) % (n * den : Nat)).toNat
    some (if rest = 0 then .finite false 0 minExponent else ofQuotient false rest den)
  | _ => none

/-- The number is finite. -/
def isFinite : Binary64 → Bool
  | .finite .. => true
  | .infinite _ | .notANumber => false

/-- The number is neither of the two zeros. -/
def isNonzero : Binary64 → Bool
  | .finite _ mantissa _ => mantissa != 0
  | .infinite _ | .notANumber => true

/-- The number without its fraction; what is not finite has no such part. -/
def truncate? : Binary64 → Option Int
  | .finite negative mantissa exponent =>
    let (num, den) := scaled 2 mantissa 1 exponent
    let size : Int := (num / den : Nat)
    some (if negative then -size else size)
  | .infinite _ | .notANumber => none

/-- The greatest whole number that is not above the number, if it is finite. -/
def floor? : Binary64 → Option Int
  | .finite negative mantissa exponent =>
    let (num, den) := scaled 2 mantissa 1 exponent
    some ((if negative then -(num : Int) else num) / den)
  | .infinite _ | .notANumber => none

/-- The whole number that the number is, if it is one. -/
def whole? (x : Binary64) : Option Int :=
  match x with
  | .finite negative mantissa exponent =>
    let (num, den) := scaled 2 mantissa 1 exponent
    let size : Int := (num / den : Nat)
    if num % den = 0 then some (if negative then -size else size) else none
  | _ => none

end Binary64

end ArenaData
