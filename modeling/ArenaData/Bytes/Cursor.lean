import ArenaData.Bytes.Basic

/-!
# Cursors

A cursor reads a buffer from front to back. Every operation answers with the cursor it leaves
behind; one that fails leaves the cursor where it was. A cursor may be set up anywhere, even outside
its buffer, where every read fails.
-/

namespace ArenaData

/-- A place in a buffer. -/
structure Cursor where
  /-- The buffer. -/
  data : Bytes
  /-- The offset of the next byte to be read. -/
  offset : Int
  /-- The name of the buffer in messages; it may be empty. -/
  source : Text

namespace Cursor

/-- The number of bytes from the cursor to the end of the buffer. -/
def remaining (c : Cursor) : Int := max (c.data.length - c.offset) 0

/-- No byte is left. -/
def atEnd (c : Cursor) : Bool := c.data.length ≤ c.offset

/-- Moves the cursor to an offset within the buffer or at its end. -/
def seek (c : Cursor) (offset : Int) : Except Fault Cursor := do
  Bytes.checkWindow c.data offset 0 c.source
  pure { c with offset := offset }

/-- Moves the cursor by `count` bytes, back if that is negative. -/
def skip (c : Cursor) (count : Int) : Except Fault Cursor := c.seek (c.offset + count)

/-- Reads a little-endian number of `size` bytes. -/
def number (c : Cursor) (size : Nat) : Except Fault (Nat × Cursor) := do
  let n ← Bytes.readNumber c.data c.offset size c.source
  pure (n, { c with offset := c.offset + size })

/-- Reads a number of one byte. -/
def u8 (c : Cursor) : Except Fault (Nat × Cursor) := c.number 1

/-- Reads a number of two bytes. -/
def u16 (c : Cursor) : Except Fault (Nat × Cursor) := c.number 2

/-- Reads a number of four bytes. -/
def u32 (c : Cursor) : Except Fault (Nat × Cursor) := c.number 4

/-- Reads `size` bytes; the offset moves by `size` whatever its sign. -/
def bytes (c : Cursor) (size : Int) : Except Fault (Bytes × Cursor) := do
  let bytes ← Bytes.read c.data c.offset size c.source
  pure (bytes, { c with offset := c.offset + size })

/-- Reads the string up to the next zero byte and passes that byte. -/
def string (c : Cursor) : Except Fault (Text × Cursor) := do
  let (text, offset) ← Bytes.readString c.data c.offset c.source
  pure (text, { c with offset := offset })

/-- The cursor in one line: the name and size of its buffer and its offset, which is shown like any
other number. -/
def shown (c : Cursor) : Except Fault String :=
  if Text.shows c.offset then
    .ok ("ByteCursor(name=" ++ c.source.quoted.string ++
      s!", offset={c.offset}, size={c.data.length})")
  else .error .tooManyDigits

end Cursor

end ArenaData
