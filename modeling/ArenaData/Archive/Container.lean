import ArenaData.Bytes.Basic
import ArenaData.Files.Tree
import ArenaData.Keyed

/-!
# The container of the game

Most of the game's files are packed into one container. It starts with the number of its entries
(two bytes), ends with a footer of 18 bytes for each entry (12 for the name, filled up with zeros, 2
without meaning, 4 for the size), and holds the payloads in the order of the footer from the third
byte on. Where a payload starts is written nowhere: it is behind all payloads before it. Of several
entries with one name the first counts, but each takes its place.
-/

namespace ArenaData

/-- An entry of a container. -/
structure Entry where
  /-- Its name. -/
  name : Text
  /-- Where its payload starts. -/
  offset : Nat
  /-- The size of its payload. -/
  size : Nat
  /-- The two bytes without meaning. -/
  unused : Nat
  deriving DecidableEq, Repr

/-- The offset behind the payload. -/
def Entry.stop (e : Entry) : Nat := e.offset + e.size

/-- A container. -/
structure Container where
  /-- All its bytes. -/
  data : Bytes
  /-- What it is called in messages. -/
  label : Text
  /-- The entries in the order of the footer, repeated names included. -/
  footer : List Entry

namespace Container

/-- The size of the entry count at the front. -/
def headerSize : Nat := 2

/-- The size of the name in a footer entry. -/
def nameSize : Nat := 12

/-- The size of a footer entry. -/
def entrySize : Nat := 18

/-- The label of a container that is given none. -/
def defaultLabel : Text := "GLOBAL.BSA".toList

/-- The entry of a footer record whose payload starts at `offset`. -/
def entryOf (offset : Nat) (record : Bytes) : Entry where
  name := Bytes.latin1 (Bytes.untilZero (record.take nameSize))
  offset := offset
  size := Bytes.littleEndian ((record.drop (nameSize + 2)).take 4)
  unused := Bytes.littleEndian ((record.drop nameSize).take 2)

/-- The entries of `count` footer records, the first payload of which starts at `offset`. A payload
may not run into the footer, which starts at `footerStart`. -/
def entriesFrom (label : Text) (footerStart : Nat) :
    (count offset : Nat) → Bytes → Except Fault (List Entry)
  | 0, _, _ => .ok []
  | count + 1, offset, records =>
    let entry := entryOf offset (records.take entrySize)
    if footerStart < entry.stop then
      .error (.entryOverruns label entry.name entry.stop footerStart)
    else do
      let others ← entriesFrom label footerStart count entry.stop (records.drop entrySize)
      pure (entry :: others)

/-- The container in a sequence of bytes. -/
def ofBytes (data : Bytes) (label : Text) : Except Fault Container :=
  let length := data.length
  if length < headerSize then .error (.containerTooShort label)
  else
    let count := Bytes.littleEndian (data.take headerSize)
    if length < headerSize + count * entrySize then .error (.footerTooLong label count length)
    else do
      let footerStart := length - count * entrySize
      let footer ← entriesFrom label footerStart count headerSize (data.drop footerStart)
      pure ⟨data, label, footer⟩

/-- The container in a file. -/
def ofFile (tree : FileTree) (path : Path) : Except Fault Container := do
  match ← tree.content? path with
  | some data => ofBytes data path.text
  | none => .error (.resourceNotFound path.name path.parent.text)

/-- The entries that count: of several with one name the first. -/
def entries (c : Container) : List Entry := Keyed.firsts Entry.name c.footer

/-- The names of the entries. -/
def names (c : Container) : List Text := c.entries.map Entry.name

/-- The payload of an entry. -/
def payload (c : Container) (e : Entry) : Bytes := (c.data.drop e.offset).take e.size

/-- The payload under a name. -/
def find? (c : Container) (name : Text) : Option Bytes :=
  (c.footer.find? (·.name == name)).map c.payload

end Container

end ArenaData
