import ArenaData.Decimal.Number
import ArenaData.Fault
import ArenaData.Log.Pattern

/-!
# Times of log records

The time of a record is kept in milliseconds. What is shown is the second it falls into, by a
pattern, and the milliseconds where no pattern is given. Seconds are taken from the binary64 number
next to the time in seconds, and the milliseconds from what is left of the time by a thousand, so
the two agree except in the last places that the format has. Times too far from 1970 have no date,
and whole numbers beyond the format have no time in seconds at all.
-/

namespace ArenaData.Log

/-- A time in seconds. -/
def inSeconds : Number → Binary64
  | .whole n => Binary64.ofDecimal (n < 0) n.natAbs (-3)
  | .real x => x.dividedBy 1000

/-- The second that a time falls into; one that is not finite falls into the first of 1970. -/
def secondsOf (time : Number) : Int := (inSeconds time).floor?.getD 0

/-- What a time is past its last second, in milliseconds: a thousand if it is too close to the end
of the second to be told from it, and no number for a time that is not finite. -/
def restOfSecond : Number → Binary64
  | .whole n => Binary64.ofDecimal false (n % 1000).toNat 0
  | .real x => (x.restBy? 1000).getD .notANumber

/-- The milliseconds of a time within its second. -/
def millisecondsOf (time : Number) : Nat := ((restOfSecond time).truncate?.getD 0).toNat

/-- The pattern of a time that is given none. -/
def defaultPattern : Text := "%Y-%m-%d %H:%M:%S".toList

/-- The text of a time. Without a pattern the milliseconds are shown too. -/
def timeText (pattern : Text) (time : Number) : Text :=
  let moment := Moment.ofSeconds (secondsOf time)
  if pattern.isEmpty then
    moment.format defaultPattern ++ ',' :: Text.padLeft '0' 3 (Text.ofNat (millisecondsOf time))
  else moment.format pattern

/-- Numbers below this, and not below its negative, fit in 64 bits. -/
def wordBound : Int := 0x8000000000000000

/-- Numbers below this, and not below its negative, fit in 32 bits. -/
def halfWordBound : Int := 0x80000000

/-- The year from which dates count their years. -/
def baseYear : Int := 1900

/-- Checks that a number has a whole part. -/
def checkFinite : Number → Except Fault Unit
  | .whole _ => .ok ()
  | .real x => if (Number.real x).isFinite then .ok () else .error (.notFinite x)

/-- Checks that a time can be kept in seconds: a whole number lies within the format. -/
def checkInSeconds : Number → Except Fault Unit
  | .whole n => if (inSeconds (.whole n)).isFinite then .ok () else .error (.timeTooFar (.whole n))
  | .real _ => .ok ()

/-- Checks that a time can be shown by a pattern: it is finite, its seconds fit in 64 bits, its year
fits in 32 bits as it is and counted from `baseYear`, and the pattern has no zero character. -/
def checkTime (pattern : Text) (time : Number) : Except Fault Unit := do
  checkFinite time
  let seconds := secondsOf time
  let year := (Moment.ofSeconds seconds).year
  if seconds < -wordBound ∨ wordBound ≤ seconds then .error (.timeTooFar time)
  else if year - baseYear < -halfWordBound ∨ halfWordBound ≤ year - baseYear then
    .error (.noDate time)
  else if halfWordBound ≤ year then .error (.timeTooFar time)
  else if pattern.contains '\x00' then .error .zeroInPattern
  else .ok ()

end ArenaData.Log
