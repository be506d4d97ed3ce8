import ArenaData.Decimal.Shortest
import ArenaData.Fault
import ArenaData.Json.Value

/-!
# Values in messages

A message shows a value in one line: texts in quotes, lists in brackets, objects in braces with
their keys in quotes, and the constants by the words `None`, `True` and `False`. Where a value
stands for a text of its own, as in a list of names, a text is taken as it is.

Showing a value takes a step inwards for each level. How many of them there are to take depends on
where the value is shown, so that number is left open. What keeps a value from being shown is found
in the order of its text: a level too deep, or an integer with too many digits.
-/

namespace ArenaData.Json.Value

mutual

/-- The value as it stands in a message. -/
def shown : Value → Text
  | null => "None".toList
  | bool b => (if b then "True" else "False").toList
  | int n => Text.ofInt n
  | float x => x.text
  | text t => t.quoted
  | list items => '[' :: (Text.joinWith ", ".toList (shownItems items) ++ [']'])
  | object fields => '\x7b' :: (Text.joinWith ", ".toList (shownFields fields) ++ ['\x7d'])

/-- The items of a list, one by one. -/
def shownItems : List Value → List Text
  | [] => []
  | item :: rest => item.shown :: shownItems rest

/-- The fields of an object, one by one. -/
def shownFields : List (Text × Value) → List Text
  | [] => []
  | (key, value) :: rest => (key.quoted ++ ": ".toList ++ value.shown) :: shownFields rest

end

mutual

/-- Checks that a value can be shown with so many steps inwards. -/
def checkShown : Value → (levels : Nat) → Except Fault Unit
  | _, 0 => .error .tooDeep
  | int n, _ + 1 => if Text.shows n then .ok () else .error .tooManyDigits
  | list items, levels + 1 => checkItems items levels
  | object fields, levels + 1 => checkFields fields levels
  | _, _ + 1 => .ok ()

/-- Checks that the items of a list can be shown. -/
def checkItems : List Value → (levels : Nat) → Except Fault Unit
  | [], _ => .ok ()
  | item :: rest, levels => do
    item.checkShown levels
    checkItems rest levels

/-- Checks that the fields of an object can be shown. -/
def checkFields : List (Text × Value) → (levels : Nat) → Except Fault Unit
  | [], _ => .ok ()
  | (_, value) :: rest, levels => do
    value.checkShown levels
    checkFields rest levels

end

/-- The value as it stands in a message, shown with so many steps inwards. -/
def shownWithin (levels : Nat) (value : Value) : Except Fault Text := do
  value.checkShown levels
  pure value.shown

/-- The value as a text of its own: a text is itself, any other value is shown. -/
def plain : Value → Text
  | text t => t
  | value => value.shown

/-- The same, shown with so many steps inwards. For a text none is taken. -/
def plainWithin (levels : Nat) : Value → Except Fault Text
  | text t => .ok t
  | value => value.shownWithin levels

end ArenaData.Json.Value
