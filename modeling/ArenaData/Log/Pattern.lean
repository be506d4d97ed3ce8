import ArenaData.Log.Calendar
import ArenaData.Text.Digit
import ArenaData.Text.Upper

/-!
# Patterns of times

A pattern says how a time is written. In its source a percent sign starts a directive, which ends at
its letter; all the rest is copied. Between the two may stand, in this order,

* flags: `_`, `-` and `0` say what a directive is filled up with, and the last of them counts; `^`
  asks for capitals and `#` for the other case;
* a width, which is the least number of characters;
* one of the modifiers `E` and `O`, for dates of another era and digits of another script. There are
  none of these, so a modifier changes nothing, but not every letter takes one.

A directive that means nothing stands for its own source.

The formatters take any source from whoever makes one. The program itself makes them with the two
patterns of the console and the log file only.
-/

namespace ArenaData.Log

/-- What a directive is filled up with. -/
inductive Fill where
  /-- Blanks, in numbers too. -/
  | blanks
  /-- Nothing where a number would have zeros. -/
  | bare
  /-- Zeros, in words too. -/
  | zeros
  deriving DecidableEq, Repr

/-- The modifiers of a directive. -/
inductive Modifier where
  /-- The date of another era. -/
  | era
  /-- The digits of another script. -/
  | digits
  deriving DecidableEq, Repr

/-- What the flag for the other case does to a word. -/
inductive OtherCase where
  /-- It changes nothing. -/
  | same
  /-- It asks for capitals. -/
  | capitals
  /-- It asks for small letters. -/
  | small
  /-- The letters are small with any flags. -/
  | alwaysSmall
  deriving DecidableEq, Repr

/-- A directive. -/
structure Directive where
  /-- How it is spelled, from the percent sign on. -/
  source : Text
  /-- What it is filled up with, if a flag says so. -/
  fill : Option Fill
  /-- Capitals are asked for. -/
  capitals : Bool
  /-- The other case is asked for. -/
  otherCase : Bool
  /-- The least number of characters. -/
  width : Nat
  /-- The modifier. -/
  modifier : Option Modifier
  /-- The letter, unless the pattern ends before it. -/
  letter : Option Char
  deriving DecidableEq, Repr

/-- What a directive stands for. -/
inductive Meaning where
  /-- A number, of at least so many digits, with blanks for the missing ones if `blank` is true. -/
  | number (n : Int) (digits : Nat) (blank : Bool)
  /-- A word, or several. -/
  | word (text : Text) (otherCase : OtherCase)
  /-- How far local time is ahead, as a sign and four digits. -/
  | offset
  deriving DecidableEq, Repr

namespace Modifier

/-- The letters that ask for an era. -/
def eraLetters : Text := "cCxXyYntRrTuPpsZz%".toList

/-- The letters that cannot ask for digits. -/
def digitlessLetters : Text := "aAcxXDFY".toList

/-- The letter takes the modifier. -/
def fits (letter : Char) : Modifier → Bool
  | .era => eraLetters.contains letter
  | .digits => !digitlessLetters.contains letter

end Modifier

namespace Moment

/-- A number of two digits. -/
def twoDigits (n : Int) : Option Meaning := some (.number n 2 false)

/-- Words of which the flags change no more than that they ask for capitals. -/
def words (text : Text) : Option Meaning := some (.word text .same)

/-- The time of day on a dial of twelve. -/
def dialClock (m : Moment) : Text :=
  two m.dialHour ++ ':' :: (two m.minute ++ ':' :: (two m.second ++ ' ' :: m.half))

/-- The date with the year in front. -/
def longDate (m : Moment) : Text :=
  Text.ofInt m.year ++ '-' :: (two m.month ++ '-' :: two m.day)

/-- The time in full, in words and numbers. -/
def fullText (m : Moment) : Text :=
  m.weekdayName.take 3 ++ ' ' :: (m.monthName.take 3 ++ ' ' :: (blankTwo m.day ++
    ' ' :: (m.clock ++ ' ' :: Text.ofInt m.year)))

/-- What a letter stands for. -/
def meaning? (m : Moment) (letter : Char) : Option Meaning :=
  match letter with
  | 'Y' => some (.number m.year 1 false)
  | 'C' => some (.number (m.year / 100) 1 false)
  | 'y' => twoDigits (m.year % 100)
  | 'G' => some (.number m.thursdayWeek.1 1 false)
  | 'g' => twoDigits (m.thursdayWeek.1 % 100)
  | 'm' => twoDigits m.month
  | 'd' => twoDigits m.day
  | 'e' => some (.number m.day 2 true)
  | 'j' => some (.number (m.yearDay + 1) 3 false)
  | 'H' => twoDigits m.hour
  | 'k' => some (.number m.hour 2 true)
  | 'I' => twoDigits m.dialHour
  | 'l' => some (.number m.dialHour 2 true)
  | 'M' => twoDigits m.minute
  | 'S' => twoDigits m.second
  | 'u' => some (.number ((m.weekday + 6) % 7 + 1) 1 false)
  | 'w' => some (.number m.weekday 1 false)
  | 'U' => twoDigits (m.week 0)
  | 'W' => twoDigits (m.week 1)
  | 'V' => twoDigits m.thursdayWeek.2
  | 'A' => some (.word m.weekdayName .capitals)
  | 'a' => some (.word (m.weekdayName.take 3) .capitals)
  | 'B' => some (.word m.monthName .capitals)
  | 'b' => some (.word (m.monthName.take 3) .capitals)
  | 'h' => some (.word (m.monthName.take 3) .capitals)
  | 'p' => some (.word m.half .small)
  | 'P' => some (.word m.half .alwaysSmall)
  | 'Z' => some (.word "UTC".toList .small)
  | 'z' => some .offset
  | 'D' => words m.shortDate
  | 'x' => words m.shortDate
  | 'F' => words m.longDate
  | 'T' => words m.clock
  | 'X' => words m.clock
  | 'R' => words (two m.hour ++ ':' :: two m.minute)
  | 'r' => words m.dialClock
  | 'c' => words m.fullText
  | 's' => words (Text.ofInt m.seconds)
  | 'n' => words ['\n']
  | 't' => words ['\t']
  | '%' => words ['%']
  | _ => none

end Moment

namespace Directive

/-- The flags. -/
def flags : Text := "_-0^#".toList

/-- What a flag fills up with. -/
def fillOf? : Char → Option Fill
  | '_' => some .blanks
  | '-' => some .bare
  | '0' => some .zeros
  | _ => none

/-- The modifier of a letter. -/
def modifierOf? : Char → Option Modifier
  | 'E' => some .era
  | 'O' => some .digits
  | _ => none

/-- The directive behind a percent sign, and the text behind it. No width is larger than `limit`. -/
def read (limit : Nat) (t : Text) : Directive × Text :=
  let (set, rest) := t.span flags.contains
  let (digits, rest) := rest.span isPlainDigit
  let modifier := rest.head?.bind modifierOf?
  let (letters, rest) := rest.splitAt (if modifier.isSome then 2 else 1)
  ({ source := '%' :: (set ++ digits ++ letters)
     fill := (set.filterMap fillOf?).getLast?
     capitals := set.contains '^'
     otherCase := set.contains '#'
     width := min limit (Text.numberOf (digits.map fun c => c.toNat - 0x30))
     modifier
     letter := if modifier.isSome then letters[1]? else letters[0]? }, rest)

/-- A text filled up to the width. -/
def padded (d : Directive) (t : Text) : Text :=
  Text.padLeft (if d.fill = some .zeros then '0' else ' ') d.width t

/-- A word in the case that the flags ask for. Small letters go before capitals. -/
def cased (d : Directive) (otherCase : OtherCase) (t : Text) : Text :=
  if otherCase = .alwaysSmall ∨ (otherCase = .small ∧ d.otherCase) then t.map Char.toLower
  else if d.capitals ∨ (otherCase = .capitals ∧ d.otherCase) then t.map capitalChar
  else t

/-- A number, filled up to the width if that is more than its digits. Zeros come behind the sign and
blanks before it. -/
def numberText (d : Directive) (n : Int) (digits : Nat) (blank : Bool) : Text :=
  match d.fill.getD (if blank then .blanks else .zeros) with
  | .bare => Text.padLeft ' ' d.width (Text.ofInt n)
  | .blanks => Text.padLeft ' ' (max digits d.width) (Text.ofInt n)
  | .zeros =>
    let sign := if n < 0 then ['-'] else []
    sign ++ Text.padLeft '0' (max digits d.width - sign.length) (Text.ofNat n.natAbs)

/-- What the flag for the other case does to the source of a directive that means nothing: it counts
for the names of months. -/
def sourceCase (d : Directive) : OtherCase :=
  if d.letter.any ['b', 'B', 'h'].contains then .capitals else .same

/-- What the directive stands for at a moment. -/
def meaning? (d : Directive) (m : Moment) : Option Meaning := do
  let letter ← d.letter
  guard (d.modifier.all (Modifier.fits letter))
  m.meaning? letter

/-- The directive as it is shown at a moment. -/
def text (d : Directive) (m : Moment) : Text :=
  match d.meaning? m with
  | some (.number n digits blank) => d.numberText n digits blank
  | some (.word t otherCase) => d.padded (d.cased otherCase t)
  | some .offset => d.padded ['+'] ++ d.numberText 0 4 false
  | none => d.padded (d.cased d.sourceCase d.source)

end Directive

/-- A part of a pattern. -/
inductive PatternPart where
  /-- A character that is copied. -/
  | plain (c : Char)
  /-- A directive. -/
  | directive (d : Directive)
  deriving DecidableEq, Repr

/-- A pattern of times. -/
abbrev Pattern := List PatternPart

namespace Pattern

/-- The pattern in a source with no width above `limit`; `fuel` bounds the number of its parts. -/
def parseFrom (limit : Nat) : (fuel : Nat) → Text → Pattern
  | fuel + 1, '%' :: rest =>
    let (d, rest) := Directive.read limit rest
    .directive d :: parseFrom limit fuel rest
  | fuel + 1, c :: rest => .plain c :: parseFrom limit fuel rest
  | _, _ => []

/-- The pattern in a source with no width above `limit`. -/
def ofText (limit : Nat) (source : Text) : Pattern := parseFrom limit source.length source

/-- A part of a pattern as it is shown at a moment. -/
def partText (m : Moment) : PatternPart → Text
  | .plain c => [c]
  | .directive d => d.text m

/-- The pattern as it is shown at a moment. -/
def text (p : Pattern) (m : Moment) : Text := p.flatMap (partText m)

/-- The room for a text by a pattern of `n` characters: 1024 characters, doubled until there are 256
for each character of the pattern. -/
def room (n : Nat) : Nat := 1024 <<< (Nat.log2 (n - 1) - 1)

end Pattern

/-- A moment as a source of a pattern says. A text that fills the room for it is given up. -/
def Moment.format (m : Moment) (source : Text) : Text :=
  let room := Pattern.room source.length
  let text := (Pattern.ofText room source).text m
  if text.length < room then text else []

end ArenaData.Log
