import ArenaData.Fault

/-!
# Capacity

How much can be counted and kept. Numbers of items are kept in 64 bits with a sign, and memory has
an end. What goes beyond is a fault at once: nothing is made that will not fit.
-/

namespace ArenaData.Capacity

/-- Numbers of items stay below this, and not below its negative. -/
def countBound : Int := 0x8000000000000000

/-- The number of bytes that there is room for. -/
def room : Nat := 0x800000000

/-- Checks that a number of items can be kept. -/
def checkCount (count : Int) : Except Fault Unit :=
  if count < -countBound ∨ countBound ≤ count then .error (.countTooLarge count) else .ok ()

/-- Checks that there is room for items of `size` bytes each. -/
def checkRoom (count size : Nat) : Except Fault Unit :=
  if room < count * size then .error (.noRoom (count * size)) else .ok ()

end ArenaData.Capacity
