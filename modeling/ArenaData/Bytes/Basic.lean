import ArenaData.Capacity

/-!
# Bytes

Files are sequences of bytes. Numbers in them are little-endian, and texts are Latin-1, which maps
every byte to one character, so that a text read from a file can be written back byte for byte.
-/

namespace ArenaData

/-- A sequence of bytes. -/
abbrev Bytes := List UInt8

namespace Bytes

/-- The number that the bytes denote, the least significant byte first. -/
def littleEndian : Bytes → Nat
  | [] => 0
  | b :: rest => b.toNat + 256 * littleEndian rest

/-- The two bytes of a 16-bit number, the least significant first. -/
def ofUInt16 (n : Nat) : Bytes := [UInt8.ofNat n, UInt8.ofNat (n / 256)]

/-- The text of the bytes, a character for each. -/
def latin1 (b : Bytes) : Text := b.map Char.ofUInt8

/-- The byte of each character; only the characters up to U+00FF have one. -/
def ofLatin1 (t : Text) : Except Fault Bytes :=
  match t.find? (0xFF < ·.toNat) with
  | some c => .error (.notLatin1 c)
  | none => .ok (t.map Char.toUInt8)

/-- The bytes up to the first zero byte. -/
def untilZero (b : Bytes) : Bytes := b.takeWhile (· != 0)

/-- Refuses a window of `size` bytes that starts before the data or ends behind it. A negative size
is taken as it is: only where the window would end counts. -/
def checkWindow (data : Bytes) (offset size : Int) (source : Text) : Except Fault Unit :=
  if offset < 0 ∨ data.length < offset + size then
    .error (Fault.outsideBuffer source size offset data.length).reported
  else .ok ()

/-- The bytes from `start` up to `stop`. A negative `stop` counts from the end of the data. -/
def slice (data : Bytes) (start stop : Int) : Bytes :=
  let stop := if stop < 0 then stop + data.length else stop
  (data.take stop.toNat).drop start.toNat

/-- A read of `size` bytes. -/
def read (data : Bytes) (offset size : Int) (source : Text) : Except Fault Bytes := do
  checkWindow data offset size source
  pure (slice data offset (offset + size))

/-- A read of a little-endian number of `size` bytes. -/
def readNumber (data : Bytes) (offset : Int) (size : Nat) (source : Text) : Except Fault Nat := do
  let bytes ← read data offset size source
  pure (littleEndian bytes)

/-- A read of the string up to the next zero byte, with the offset behind that byte. -/
def readString (data : Bytes) (offset : Int) (source : Text) : Except Fault (Text × Int) := do
  checkWindow data offset 0 source
  let rest := data.drop offset.toNat
  let string := untilZero rest
  if string.length < rest.length then pure (latin1 string, offset + string.length + 1)
  else throw (Fault.unterminated source offset).reported

/-- The first `count` bytes, all if the number is negative, and what is left behind them. -/
def split (data : Bytes) (count : Int) : Except Fault (Bytes × Bytes) := do
  Capacity.checkCount count
  pure (if count < 0 then (data, []) else data.splitAt count.toNat)

/-- Splitting loses nothing. -/
theorem append_of_split {data front rest : Bytes} {count : Int}
    (h : split data count = .ok (front, rest)) : front ++ rest = data := by
  simp only [split, Capacity.checkCount] at h
  split at h
  · cases h
  · by_cases hc : count < 0 <;> simp [bind, Except.bind, pure, Except.pure, hc] at h <;>
      obtain ⟨rfl, rfl⟩ := h <;> simp

/-- The bytes of a string with the zero byte that ends it. -/
def ofString (t : Text) : Except Fault Bytes := do
  let bytes ← ofLatin1 t
  pure (bytes ++ [0])

end Bytes

end ArenaData
