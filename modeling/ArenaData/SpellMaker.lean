import ArenaData.Capacity
import ArenaData.Text.Digit
import ArenaData.Text.Lines
import Std.Data.TreeMap

/-!
# Spell maker descriptions

What the spell maker tells about the effects of spells, by number. In the file a line that starts
with `#` and has an index behind it begins a description, which the next line that starts with `#`
puts into the slot of that index; such a line without room for an index ends the file. Empty lines
are skipped, and the lines of a description are put together as they are, so the line breaks of a
file with carriage returns stay visible as these.
-/

namespace ArenaData.SpellMaker

/-- The number of descriptions in the game. -/
def descriptionCount : Nat := 43

/-- The name of the file. -/
def fileName : Text := "SPELLMKR.TXT".toList

/-- The integer at the front of a text: blanks, a sign, and decimal digits of any script. -/
def parseIndex (t : Text) (source : Text) : Except Fault Int :=
  let (negative, rest) := match t.trimLeft with
    | '-' :: rest => (true, rest)
    | '+' :: rest => (false, rest)
    | rest => (false, rest)
  let digits := Text.digitRun rest
  if digits.isEmpty then .error (.badIndex source t)
  else if Text.maxDigits < digits.length then .error .indexTooLong
  else
    let size : Int := Text.numberOf digits
    .ok (if negative then -size else size)

/-- The description that is being read. -/
structure Entry where
  /-- Its index. -/
  index : Int
  /-- Its lines, the last one first. -/
  body : List Text

/-- What has been read. -/
structure Reading where
  /-- The descriptions that are complete, by index. -/
  slots : Std.TreeMap Nat Text
  /-- The description that is open, if there is one. -/
  entry : Option Entry

namespace Reading

/-- The descriptions once the open one is put into its slot, of which there are `count`. -/
def store (r : Reading) (count : Nat) : Except Fault (Std.TreeMap Nat Text) :=
  match r.entry with
  | none => .ok r.slots
  | some entry =>
    if 0 ≤ entry.index ∧ entry.index < count then
      .ok (r.slots.insert entry.index.toNat entry.body.reverse.flatten)
    else .error (.noSlot entry.index count)

/-- A line that is neither empty nor an index line. -/
def addLine (r : Reading) (line : Text) : Except Fault Reading :=
  match r.entry with
  | none => .error (.noIndexYet line)
  | some entry => .ok { r with entry := some { entry with body := line :: entry.body } }

/-- The descriptions after these lines. -/
def finish (r : Reading) (count : Nat) : List Text → Except Fault (Std.TreeMap Nat Text)
  | [] => .ok r.slots
  | [] :: rest => r.finish count rest
  | ('#' :: digits) :: rest => do
    let slots ← r.store count
    if digits.length < 2 then pure slots
    else
      let index ← parseIndex (digits.take 2) fileName
      finish ⟨slots, some ⟨index, []⟩⟩ count rest
  | line :: rest => do finish (← r.addLine line) count rest

end Reading

/-- The `count` descriptions of a file; one without an entry is empty. -/
def parse (t : Text) (count : Nat) : Except Fault (List Text) := do
  let slots ← Reading.finish ⟨∅, none⟩ count t.lines
  pure ((List.range count).map fun index => slots.getD index [])

/-- The number of bytes that each slot of a table takes. -/
def slotSize : Nat := 8

/-- The descriptions of a file in a table of `count` slots, which has to fit; a negative number
stands for none. -/
def table (t : Text) (count : Int) : Except Fault (List Text) := do
  Capacity.checkCount count
  Capacity.checkRoom count.toNat slotSize
  parse t count.toNat

end ArenaData.SpellMaker
