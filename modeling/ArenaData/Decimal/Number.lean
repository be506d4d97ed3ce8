import ArenaData.Decimal.Shortest

/-!
# Numbers

A number as it is measured or read is whole, of any size, or a binary64 number. The two are kept
apart even where they are equal, so that large whole numbers lose nothing.
-/

namespace ArenaData

/-- A number. -/
inductive Number where
  /-- A whole number. -/
  | whole (n : Int)
  /-- A binary64 number. -/
  | real (x : Binary64)
  deriving DecidableEq, Repr, Inhabited

namespace Number

/-- The number without its fraction; one that is not finite counts as zero. -/
def truncated : Number → Int
  | whole n => n
  | real x => x.truncate?.getD 0

/-- The number is finite. -/
def isFinite : Number → Bool
  | whole _ => true
  | real x => x.isFinite

/-- The whole number that is equal to the number, if there is one. -/
def whole? : Number → Option Int
  | whole n => some n
  | real x => x.whole?

/-- The text of a number. -/
def text : Number → Text
  | whole n => Text.ofInt n
  | real x => x.text

end Number

end ArenaData
