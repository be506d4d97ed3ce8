import ArenaData.Bytes.Basic
import ArenaData.Triple

/-!
# Standard spells

The spell file holds 128 records of 85 bytes. A record is six triples of 16-bit parameters, three
single bytes, a 16-bit flag field, three triples of bytes, a 16-bit cost, and 33 bytes for the name,
which ends at the first zero byte in them.
-/

namespace ArenaData

/-- A spell of the game. -/
structure Spell where
  /-- The parameters of its effects. -/
  params : List (Triple UInt16)
  /-- What it may be cast at. -/
  targetType : UInt8
  /-- A byte without known meaning. -/
  unknown : UInt8
  /-- Its element. -/
  element : UInt8
  /-- Its flags. -/
  flags : UInt16
  /-- Its effects. -/
  effects : Triple UInt8
  /-- The kinds of its effects. -/
  subEffects : Triple UInt8
  /-- The attributes that its effects change. -/
  affectedAttributes : Triple UInt8
  /-- What it costs. -/
  cost : UInt16
  /-- The bytes of its name. -/
  nameBytes : Bytes
  deriving DecidableEq, Repr

namespace Spell

/-- The size of a record. -/
def recordSize : Nat := 85

/-- The number of records in the file. -/
def count : Nat := 128

/-- The number of parameter triples. -/
def paramCount : Nat := 6

/-- The offset of the name in a record. -/
def nameOffset : Nat := 52

/-- The name of the file. -/
def fileName : Text := "SPELLSG.65".toList

/-- The byte at an offset of a record. -/
def byteAt (record : Bytes) (offset : Nat) : UInt8 := (record[offset]?).getD 0

/-- The 16-bit number at an offset of a record. -/
def wordAt (record : Bytes) (offset : Nat) : UInt16 :=
  UInt16.ofNat (Bytes.littleEndian ((record.drop offset).take 2))

/-- The three bytes from an offset of a record on. -/
def bytesAt (record : Bytes) (offset : Nat) : Triple UInt8 :=
  ⟨byteAt record offset, byteAt record (offset + 1), byteAt record (offset + 2)⟩

/-- The three 16-bit numbers from an offset of a record on. -/
def wordsAt (record : Bytes) (offset : Nat) : Triple UInt16 :=
  ⟨wordAt record offset, wordAt record (offset + 2), wordAt record (offset + 4)⟩

/-- The spell of a record. -/
def ofRecord (record : Bytes) : Spell where
  params := (List.range paramCount).map fun i => wordsAt record (6 * i)
  targetType := byteAt record 36
  unknown := byteAt record 37
  element := byteAt record 38
  flags := wordAt record 39
  effects := bytesAt record 41
  subEffects := bytesAt record 44
  affectedAttributes := bytesAt record 47
  cost := wordAt record 50
  nameBytes := record.drop nameOffset

/-- The spell whose record starts at an offset. -/
def decodeAt (data : Bytes) (offset : Int) : Except Fault Spell := do
  let record ← Bytes.read data offset recordSize fileName
  pure (ofRecord record)

/-- The spells of a file; what comes behind them is passed over. -/
def decodeAll (data : Bytes) : Except Fault (List Spell) :=
  let length := data.length
  let expected := count * recordSize
  if length < expected then .error (.spellFileTooShort expected count length)
  else .ok ((List.range count).map fun i =>
    ofRecord ((data.drop (recordSize * i)).take recordSize))

/-- The name of a spell. -/
def name (s : Spell) : Text := Bytes.latin1 (Bytes.untilZero s.nameBytes)

end Spell

end ArenaData
