import ArenaData.Decimal.Shortest
import ArenaData.Json.Value
import ArenaData.Text.Quoted

/-!
# A JSON value in one line

Messages between programs hold a value in one line without blanks. Strings keep every character but
the double quote, the backslash and the controls below U+0020, and numbers that are not finite are
written as words. Each function puts the written form behind the string it is given.
-/

namespace ArenaData.Json

/-- A character of a string. -/
def pushChar (out : String) (c : Char) : String :=
  if c = '\x22' ∨ c = '\\' then (out.push '\\').push c
  else if c.toNat < 0x20 then (Text.hex 4 c.toNat).foldl String.push ((out.push '\\').push 'u')
  else out.push c

/-- A text as a string. -/
def pushText (out : String) (t : Text) : String := (t.foldl pushChar (out.push '\x22')).push '\x22'

/-- The written form of a number. -/
def numberText : Binary64 → String
  | .infinite negative => if negative then "-Infinity" else "Infinity"
  | .notANumber => "NaN"
  | x => x.text.string

namespace Value

mutual

/-- A value. -/
def push (out : String) : Value → String
  | null => out ++ "null"
  | bool b => out ++ (if b then "true" else "false")
  | int n => out ++ toString n
  | float x => out ++ numberText x
  | text t => pushText out t
  | list [] => out ++ "[]"
  | list (item :: rest) => (pushItems (push (out.push '[') item) rest).push ']'
  | object [] => out ++ "\x7b\x7d"
  | object ((key, value) :: rest) =>
    (pushFields (push ((pushText (out.push '\x7b') key).push ':') value) rest).push '\x7d'

/-- The items of a list behind the first one. -/
def pushItems (out : String) : List Value → String
  | [] => out
  | item :: rest => pushItems (push (out.push ',') item) rest

/-- The fields of an object behind the first one. -/
def pushFields (out : String) : List (Text × Value) → String
  | [] => out
  | (key, value) :: rest =>
    pushFields (push ((pushText (out.push ',') key).push ':') value) rest

end

/-- The value in one line. -/
def line (value : Value) : String := push "" value

end Value

end ArenaData.Json
