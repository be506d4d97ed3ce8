import ArenaData.Decimal.Estimate
import ArenaData.Json.Value
import ArenaData.Text.Digit

/-!
# Numerals

A JSON numeral has an optional minus sign, a whole part without leading zeros, an optional fraction
and an optional exponent. One without fraction and exponent is whole. How large a whole numeral may
be before it is taken for a binary64 number is up to the reader: documents are read with 64-bit
integers (`Numeral.bounded?`), and `Numeral.exact` keeps every integer.
-/

namespace ArenaData.Json

/-- A numeral: a decimal, and whether it was written as a whole number. -/
structure Numeral where
  /-- It starts with a minus sign. -/
  negative : Bool
  /-- All its digits before the exponent. -/
  digits : Text
  /-- The power of ten that the number of these digits is multiplied by. -/
  exponent : Int
  /-- The number of digits before its point. -/
  places : Nat
  /-- It has neither fraction nor exponent. -/
  whole : Bool
  deriving DecidableEq, Repr

/-- The number that a sequence of ASCII digits denotes. -/
def plainNumber (digits : Text) : Nat :=
  digits.foldl (fun n c => 10 * n + (c.toNat - 0x30)) 0

/-- A non-empty run of ASCII digits at the front, and what follows it. -/
def digits? (t : Text) : Option (Text × Text) :=
  let (digits, rest) := t.span isPlainDigit
  if digits.isEmpty then none else some (digits, rest)

/-- The fraction at the front, without its point; empty if there is none. -/
def fraction? : Text → Option (Text × Text)
  | '.' :: rest => digits? rest
  | rest => some ([], rest)

/-- The size of an exponent, as far as it matters: no text is so long that its digits could make up
for an exponent of more than twenty digits. -/
def exponentSize (digits : Text) : Nat :=
  let digits := digits.dropWhile (· == '0')
  if 20 < digits.length then Nat.pow 10 20 else plainNumber digits

/-- The exponent that makes up the whole rest; nothing inside if the rest is empty. -/
def exponent? : Text → Option (Option Int)
  | [] => some none
  | mark :: rest =>
    if mark = 'e' ∨ mark = 'E' then
      let (negative, rest) := match rest with
        | '-' :: rest => (true, rest)
        | '+' :: rest => (false, rest)
        | rest => (false, rest)
      match digits? rest with
      | some (digits, []) =>
        let size : Int := exponentSize digits
        some (some (if negative then -size else size))
      | _ => none
    else none

/-- The numeral that a text spells; nothing if it spells none. -/
def Numeral.ofText? (t : Text) : Option Numeral := do
  let (negative, t) := match t with
    | '-' :: rest => (true, rest)
    | rest => (false, rest)
  let (whole, t) ← digits? t
  if whole.length > 1 && whole.head? == some '0' then none
  let (fraction, t) ← fraction? t
  let exponent ← exponent? t
  pure {
    negative := negative
    digits := whole ++ fraction
    exponent := exponent.getD 0 - fraction.length
    places := whole.length
    whole := fraction.isEmpty && exponent.isNone }

namespace Numeral

/-- The whole number of a whole numeral. -/
def integer (n : Numeral) : Int :=
  let size : Int := plainNumber n.digits
  if n.negative then -size else size

/-- Its digits without the zeros in front. -/
def significant (n : Numeral) : Text := n.digits.dropWhile (· == '0')

/-- The number of significant digits that are looked at one by one to round a numeral. A number
halfway between two neighbours of the binary64 format has no more, so of the digits behind these it
only matters whether they are all zeros. -/
def decidingDigits : Nat := 768

/-- The numeral rounded to binary64, only its deciding digits counting, and a further digit `1` if
there is `more`. -/
def roundedBy (n : Numeral) (more : Bool) : Binary64 :=
  let digits := n.significant
  let kept := digits.take decidingDigits ++ if more then ['1'] else []
  Binary64.ofDecimal n.negative (plainNumber kept) (n.exponent + (digits.length - kept.length))

/-- The numeral rounded to binary64. -/
def rounded (n : Numeral) : Binary64 :=
  n.roundedBy ((n.significant.drop decidingDigits).any (· != '0'))

/-- The number of significant digits that fit in 64 bits, whatever they are. -/
def wordDigits : Nat := 19

/-- The estimate of a numeral of more significant digits than fit in 64 bits. -/
def estimate (n : Numeral) : Decimal.Estimate :=
  let (kept, rest) := n.significant.splitAt wordDigits
  let carry := if rest.head?.any ('5' ≤ ·) then 1 else 0
  Decimal.Estimate.ofDecimal (plainNumber kept + carry) (n.exponent + rest.length)

/-- The point of the numeral stands behind its deciding digits and one more, and before a further
digit. -/
def hasLatePoint (n : Numeral) : Bool :=
  decidingDigits + 1 < n.places && n.places < n.digits.length

/-- The numeral rounded as documents have it. Digits behind the deciding ones count as more than
zero even if they are all zeros, unless the numeral has only zeros behind the digits that fit in 64
bits. A numeral with a late point is rounded by its estimate, and up if that leaves two neighbours
open. -/
def roundedInDocument (n : Numeral) : Binary64 :=
  let digits := n.significant
  if (digits.drop wordDigits).all (· == '0') then n.rounded
  else
    let above := if n.hasLatePoint then n.estimate.upper? else none
    match above with
    | some (mantissa, exponent) => Binary64.ofScaled n.negative mantissa exponent
    | none => n.roundedBy (decidingDigits < digits.length)

/-- The least integer that a document keeps as one. -/
def minInteger : Int := -0x8000000000000000

/-- The greatest integer that a document keeps as one. It has twenty digits. -/
def maxInteger : Int := 0xFFFFFFFFFFFFFFFF

/-- The integer of a whole numeral, if 64 bits hold it, signed or not. -/
def integer64? (n : Numeral) : Option Int :=
  if n.whole && n.digits.length ≤ 20 && minInteger ≤ n.integer && n.integer ≤ maxInteger then
    some n.integer
  else none

/-- The value of a numeral in a document: an integer of 64 bits stays one; any other number is
rounded, and refused if it is too large for that. -/
def bounded? (n : Numeral) : Option Value :=
  match n.integer64? with
  | some integer => some (.int integer)
  | none => match n.roundedInDocument with
    | .infinite _ => none
    | x => some (.float x)

/-- The value of a numeral where integers may have any size. -/
def exact (n : Numeral) : Option Value :=
  some (if n.whole then .int n.integer else .float n.rounded)

end Numeral

end ArenaData.Json
