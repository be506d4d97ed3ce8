import ArenaData.Decimal.Binary64
import ArenaData.Text.Basic

/-!
# The shortest decimal

The text of a binary64 number has as few digits as a decimal needs to be rounded back to it, and of
the decimals of that length it is the nearest. The reals that round to `m * 2 ^ q` form an interval
whose ends are the midpoints to the two neighbours; for 1, 2, … 17 digits the two points of that
decimal grid beside the number are tried, and the first grid with a point in the interval wins.

A number whose first digit stands at 10^-4 or above, and below 10^16, is written positionally with
at least one digit after the point; any other takes an exponent of at least two digits.
-/

namespace ArenaData.Decimal

/-- A positive decimal `0.d₁d₂… * 10 ^ point`, given by the whole number `d₁d₂…`. -/
structure Digits where
  /-- The digits as one number. -/
  number : Nat
  /-- The place of the decimal point, counted from the front of the digits. -/
  point : Int
  deriving DecidableEq, Repr

/-- The rounding interval of a number: everything over one denominator. -/
structure Interval where
  /-- The lower end. -/
  low : Nat
  /-- The number itself. -/
  value : Nat
  /-- The upper end. -/
  high : Nat
  /-- What the three are divided by. -/
  den : Nat
  /-- The ends belong to the interval. -/
  closed : Bool

/-- The interval of the reals that round to `mantissa * 2 ^ exponent`. Below a power of two the
format is twice as fine, so there the lower end is half as far away. -/
def roundingInterval (mantissa : Nat) (exponent : Int) : Interval :=
  let below := if mantissa = 0x10000000000000 ∧ Binary64.minExponent < exponent then 1 else 2
  let (unit, den) := Binary64.scaled 2 1 1 (exponent - 2)
  { low := (4 * mantissa - below) * unit
    value := 4 * mantissa * unit
    high := (4 * mantissa + 2) * unit
    den := den
    closed := mantissa % 2 == 0 }

/-- The fraction `num / den` lies in the interval. -/
def Interval.contains (i : Interval) (num den : Nat) : Bool :=
  let point := num * i.den
  if i.closed then i.low * den ≤ point && point ≤ i.high * den
  else i.low * den < point && point < i.high * den

/-- The place of the first digit of a positive quotient: the least `p` with `num / den < 10 ^ p`. -/
def firstPlace (num den : Nat) : Int :=
  let guess : Int := Binary64.digitCount num - Binary64.digitCount den
  let (n, d) := Binary64.scaled 10 num den (-guess)
  if d ≤ n then guess + 1 else guess

/-- The point of the grid of `count` digits that lies in the interval, the nearer one if both
neighbours do and the even one of two that are equally near. -/
def onGrid (i : Interval) (point : Int) (count : Nat) : Option Nat :=
  let exponent := point - count
  let (num, den) := Binary64.scaled 10 i.value i.den (-exponent)
  let below := num / den
  let inside (candidate : Nat) : Bool :=
    let (n, d) := Binary64.scaled 10 candidate 1 exponent
    i.contains n d
  let nearest := Binary64.divRound num den
  if inside nearest then some nearest
  else if inside below then some below
  else if inside (below + 1) then some (below + 1)
  else none

/-- The first grid with a point in the interval, among those of `count` and more digits. -/
def firstGrid (i : Interval) (point : Int) : Nat → Nat → Option Digits
  | 0, _ => none
  | tries + 1, count =>
    match onGrid i point count with
    | some number => some ⟨number, point + (Binary64.digitCount number - count)⟩
    | none => firstGrid i point tries (count + 1)

/-- The shortest decimal that is rounded to `mantissa * 2 ^ exponent`, for a positive mantissa. -/
def shortest (mantissa : Nat) (exponent : Int) : Digits :=
  let i := roundingInterval mantissa exponent
  (firstGrid i (firstPlace i.value i.den) 17 1).getD ⟨i.value / i.den, 0⟩

/-- The digits without the zeros at their end, but never none at all. -/
def significant (t : Text) : Text :=
  match (t.reverse.dropWhile (· == '0')).reverse with
  | [] => ['0']
  | digits => digits

/-- Written with a point and no exponent. -/
def positional (digits : Text) (point : Int) : Text :=
  if point ≤ 0 then "0.".toList ++ List.replicate (-point).toNat '0' ++ digits
  else
    let whole := point.toNat
    if digits.length ≤ whole then
      digits ++ List.replicate (whole - digits.length) '0' ++ ".0".toList
    else digits.take whole ++ '.' :: digits.drop whole

/-- Written with one digit before the point and an exponent. -/
def scientific (digits : Text) (point : Int) : Text :=
  let exponent := point - 1
  let sign := if exponent < 0 then '-' else '+'
  let fraction := digits.drop 1
  digits.take 1 ++ (if fraction.isEmpty then [] else '.' :: fraction) ++
    'e' :: sign :: Text.padLeft '0' 2 (Text.ofNat exponent.natAbs)

/-- A positive decimal: positional while its first digit stands between the places of 10^-4 and
10^15. -/
def Digits.text (d : Digits) : Text :=
  let digits := significant (Text.ofNat d.number)
  if -4 < d.point ∧ d.point ≤ 16 then positional digits d.point else scientific digits d.point

end ArenaData.Decimal

namespace ArenaData

/-- The text of a number. -/
def Binary64.text : Binary64 → Text
  | .finite negative mantissa exponent =>
    let size :=
      if mantissa = 0 then "0.0".toList else (Decimal.shortest mantissa exponent).text
    if negative then '-' :: size else size
  | .infinite negative => (if negative then "-inf" else "inf").toList
  | .notANumber => "nan".toList

end ArenaData
