import ArenaData.Decimal.Binary64

/-!
# Estimates of decimals

The leading digits of a decimal and its power of ten, each kept in 64 bits, tell the decimal up to a
few units of the last bit. That settles to which binary64 number it is rounded, unless it lies so
close to the middle of two neighbours that the error reaches over it. Then the estimate leaves the
two open, and says which of them is the upper one.
-/

namespace ArenaData.Decimal

/-- A positive number `mantissa * 2 ^ exponent`, known up to its error. -/
structure Estimate where
  /-- The leading bits. -/
  mantissa : Nat
  /-- The power of two that they are multiplied by. -/
  exponent : Int
  /-- A bound on the error, in eighths of a unit of the mantissa. -/
  error : Nat
  deriving DecidableEq, Repr

namespace Estimate

/-- The number of bits of a mantissa. -/
def width : Nat := 64

/-- The same number with a mantissa of the full width. -/
def normalized (e : Estimate) : Estimate :=
  let shift := width - 1 - Nat.log2 e.mantissa
  ⟨e.mantissa <<< shift, e.exponent - shift, e.error <<< shift⟩

/-- A power of ten, half a unit of its mantissa off at most. -/
def powerOfTen (exponent : Int) : Estimate :=
  let (num, den) := Binary64.scaled 10 1 1 exponent
  let top := Binary64.floorLog2 num den
  let (n, d) := Binary64.scaled 2 num den (width - top)
  ⟨(n / d + 1) / 2, top + 1 - width, 4⟩

/-- The product of two estimates of full width, cut to this width again: half a unit comes to the
errors of both, and an eighth where the errors meet. -/
def times (a b : Estimate) : Estimate :=
  let product := a.mantissa * b.mantissa
  let rounding := product >>> (width - 1) % 2
  normalized ⟨product >>> width + rounding, a.exponent + b.exponent + width,
    a.error + b.error + 4 + (if a.error = 0 then 0 else 1)⟩

/-- The decimal `coefficient * 10 ^ exponent`, its coefficient positive, below `2 ^ 64`, and half a
unit off at most. -/
def ofDecimal (coefficient : Nat) (exponent : Int) : Estimate :=
  (normalized ⟨coefficient, 0, 4⟩).times (powerOfTen exponent)

/-- The number of bits of the mantissa that a binary64 number of this size keeps: fewer the closer
it is to zero. -/
def keptBits (e : Estimate) : Nat := min 53 (width + e.exponent - Binary64.minExponent).toNat

/-- The same number in fewer bits where so few are kept that the error would not fit beside what is
dropped. -/
def narrowed (e : Estimate) : Estimate :=
  let shift := width - e.keptBits - (width - 4)
  if shift = 0 then e else ⟨e.mantissa >>> shift, e.exponent + shift, e.error >>> shift + 9⟩

/-- The upper one of the two neighbours that the estimate leaves open, if it does, as a mantissa and
an exponent: what is dropped lies no further from a half than the error. -/
def upper? (e : Estimate) : Option (Nat × Int) :=
  let dropped := min (width - e.keptBits) (width - 4)
  let e := e.narrowed
  let rest := 8 * (e.mantissa % 1 <<< dropped)
  let half := 8 <<< (dropped - 1)
  if half < rest + e.error ∧ rest < half + e.error then
    some (e.mantissa >>> dropped + 1, e.exponent + dropped)
  else none

end Estimate

end ArenaData.Decimal
