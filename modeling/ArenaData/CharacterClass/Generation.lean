import ArenaData.Bytes.Basic
import ArenaData.CharacterClass.Flags
import ArenaData.Triple

/-!
# The class file

The class file has a flag byte for each of the 18 classes, and 66 triples: the numbers of answers of
each category that lead the quiz to a class. What comes behind them is passed over.
-/

namespace ArenaData

/-- The content of the class file. -/
structure ClassGeneration where
  /-- The flags of the classes. -/
  classes : List ClassFlags
  /-- The answer counts. -/
  choices : List (Triple UInt8)
  deriving DecidableEq, Repr

namespace ClassGeneration

/-- The number of classes. -/
def classCount : Nat := 18

/-- The number of triples. -/
def choiceCount : Nat := 66

/-- The size of the layout. -/
def fileSize : Nat := classCount + 3 * choiceCount

/-- The content of a file. -/
def decode (data : Bytes) : Except Fault ClassGeneration :=
  let length := data.length
  if length < fileSize then .error (.classFileTooShort fileSize length)
  else .ok {
    classes := (data.take classCount).map fun b => ClassFlags.ofInt b.toNat
    choices := Triple.ofList ((data.take fileSize).drop classCount) }

end ClassGeneration

end ArenaData
