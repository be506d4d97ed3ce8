import ArenaData.Bytes.Basic
import ArenaData.Triple

/-!
# Dialogue

What the people in taverns and shops say is stored as blocks of strings without any structure but
their order. Each line of dialogue has three variants, of which one is said at random. A tavern
block has 16 exchanges about artifacts of five lines each, a shop block has 15 functions of five
lines each, one for each personality of the shopkeeper. What comes behind the last string is passed
over.
-/

namespace ArenaData

namespace StringBlock

/-- The first `count` strings of the bytes, which start at `offset` of their file. -/
def readFrom (source : Text) : (count offset : Nat) → Bytes → Except Fault (List Text)
  | 0, _, _ => .ok []
  | _ + 1, offset, [] => .error (.outOfStrings source offset)
  | count + 1, offset, data =>
    match data.span (· != 0) with
    | (_, []) => .error (.unterminated source offset)
    | (string, _ :: rest) => do
      let others ← readFrom source count (offset + string.length + 1) rest
      pure (Bytes.latin1 string :: others)

/-- The first `count` strings of a file. -/
def read (source : Text) (count : Nat) (data : Bytes) : Except Fault (List Text) :=
  readFrom source count 0 data

end StringBlock

/-- The three variants of a line of dialogue. -/
abbrev Variants := Triple Text

/-- What is said in a tavern about an artifact. -/
structure ArtifactTalk where
  /-- The offer. -/
  greetings : Variants
  /-- The price is accepted. -/
  barterSuccess : Variants
  /-- The player does not want to buy. -/
  offerRefused : Variants
  /-- The price is rejected for good. -/
  barterFailure : Variants
  /-- Another price is asked. -/
  counterOffer : Variants
  deriving DecidableEq, Repr

namespace ArtifactTalk

/-- The number of exchanges in a file. -/
def count : Nat := 16

/-- The number of strings in a file. -/
def stringCount : Nat := count * 5 * 3

/-- The lines in the order of the file. -/
def toList (t : ArtifactTalk) : List Variants :=
  [t.greetings, t.barterSuccess, t.offerRefused, t.barterFailure, t.counterOffer]

/-- Lines cut into exchanges. -/
def ofList : List Variants → List ArtifactTalk
  | a :: b :: c :: d :: e :: rest => ⟨a, b, c, d, e⟩ :: ofList rest
  | _ => []

/-- The exchanges of a file. -/
def decode (data : Bytes) (source : Text) : Except Fault (List ArtifactTalk) := do
  let strings ← StringBlock.read source stringCount data
  pure (ofList (Triple.ofList strings))

end ArtifactTalk

/-- What shopkeepers say: by function, then by personality. -/
abbrev TradeTalk := List (List Variants)

namespace TradeTalk

/-- The number of functions. -/
def functionCount : Nat := 15

/-- The number of strings in a file. -/
def stringCount : Nat := functionCount * 5 * 3

/-- Lines cut into functions. -/
def ofLines : List Variants → TradeTalk
  | a :: b :: c :: d :: e :: rest => [a, b, c, d, e] :: ofLines rest
  | _ => []

/-- The lines of a file. -/
def decode (data : Bytes) (source : Text) : Except Fault TradeTalk := do
  let strings ← StringBlock.read source stringCount data
  pure (ofLines (Triple.ofList strings))

end TradeTalk

end ArenaData
