/-!
# Class flags

One number says which class it stands for and what the class can do: the five low bits are an id,
the next three say whether the class casts spells, strikes critically and is a thief. The number is
a byte in the class file, and any integer in the executable's tables, of which the same bits count.
-/

namespace ArenaData

/-- What a flag number says about a class. -/
structure ClassFlags where
  /-- The five low bits. -/
  id : Nat
  /-- Bit 5: the class casts spells. -/
  isSpellcaster : Bool
  /-- Bit 6: the class has critical hits. -/
  hasCriticalHit : Bool
  /-- Bit 7: the class is a thief. -/
  isThief : Bool
  deriving DecidableEq, Repr

namespace ClassFlags

/-- Bit `k` of an integer in two's complement. -/
def bit (n : Int) (k : Nat) : Bool := n >>> k % 2 == 1

/-- The flags of a number. -/
def ofInt (n : Int) : ClassFlags where
  id := (n % 32).toNat
  isSpellcaster := bit n 5
  hasCriticalHit := bit n 6
  isThief := bit n 7

/-- An id has five bits. -/
theorem id_ofInt_lt (n : Int) : (ofInt n).id < 32 := by
  simp only [ofInt]
  omega

end ClassFlags

end ArenaData
