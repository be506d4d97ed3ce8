import ArenaData.Decimal.Shortest
import ArenaData.Json.Numeral
import ArenaData.Text.Quoted

/-!
# Writing a JSON value

A document is written with two spaces of indent for each level, one item or field to a line, and
empty containers in one piece. Strings keep every character but the double quote, the backslash and
the controls below U+0020. Only integers of 64 bits, signed or not, have a written form.
-/

namespace ArenaData.Json

/-- A character as it stands in a string. -/
def stringChar (c : Char) : Text :=
  if c = '\x22' ∨ c = '\\' then ['\\', c]
  else if c = '\x08' then ['\\', 'b']
  else if c = '\x0c' then ['\\', 'f']
  else if c = '\n' then ['\\', 'n']
  else if c = '\r' then ['\\', 'r']
  else if c = '\t' then ['\\', 't']
  else if c.toNat < 0x20 then '\\' :: 'u' :: Text.hex 4 c.toNat
  else [c]

/-- A text as a string. -/
def stringLiteral (t : Text) : Text := '\x22' :: (t.flatMap stringChar ++ ['\x22'])

/-- A line break followed by the indent of a level. -/
def lineBreak (level : Nat) : Text := '\n' :: List.replicate (2 * level) ' '

/-- The members of a container between its brackets, each on a line of its own. -/
def enclosed (opening closing : Char) (level : Nat) (members : List Text) : Text :=
  match members with
  | [] => [opening, closing]
  | members =>
    opening :: (lineBreak (level + 1) ++ Text.joinWith (',' :: lineBreak (level + 1)) members ++
      lineBreak level ++ [closing])

namespace Value

mutual

/-- The value has a written form. -/
def isWritable : Value → Bool
  | int n => Numeral.minInteger ≤ n && n ≤ Numeral.maxInteger
  | list items => allWritable items
  | object fields => fieldsWritable fields
  | _ => true

/-- Every item has a written form. -/
def allWritable : List Value → Bool
  | [] => true
  | item :: rest => item.isWritable && allWritable rest

/-- The value of every field has a written form. -/
def fieldsWritable : List (Text × Value) → Bool
  | [] => true
  | (_, value) :: rest => value.isWritable && fieldsWritable rest

end

mutual

/-- The written form of a value whose first line stands at an indent of `level`. -/
def written (level : Nat) : Value → Text
  | null => "null".toList
  | bool b => (if b then "true" else "false").toList
  | int n => Text.ofInt n
  | float x => x.text
  | text t => stringLiteral t
  | list items => enclosed '[' ']' level (writtenItems (level + 1) items)
  | object fields => enclosed '\x7b' '\x7d' level (writtenFields (level + 1) fields)

/-- The written forms of the items of a list. -/
def writtenItems (level : Nat) : List Value → List Text
  | [] => []
  | item :: rest => item.written level :: writtenItems level rest

/-- The written forms of the fields of an object. -/
def writtenFields (level : Nat) : List (Text × Value) → List Text
  | [] => []
  | (key, value) :: rest =>
    (stringLiteral key ++ ": ".toList ++ value.written level) :: writtenFields level rest

end

/-- The document of a value; nothing if it holds an integer of more than 64 bits. -/
def document? (value : Value) : Option Text :=
  if value.isWritable then some (value.written 0) else none

end Value

end ArenaData.Json
