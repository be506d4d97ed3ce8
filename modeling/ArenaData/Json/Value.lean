import ArenaData.Decimal.Binary64
import ArenaData.Text.Basic

/-!
# JSON values

Documents and settings hold values of any shape. An object keeps the order in which its keys first
came; a repeated key has the value given last. Whole numbers and binary64 numbers are different
values even where they are equal as numbers.
-/

namespace ArenaData.Json

/-- A JSON value. -/
inductive Value where
  /-- The absent value. -/
  | null
  /-- A truth value. -/
  | bool (b : Bool)
  /-- A whole number of any size. -/
  | int (n : Int)
  /-- A binary64 number. -/
  | float (x : Binary64)
  /-- A text. -/
  | text (t : Text)
  /-- A list of values. -/
  | list (items : List Value)
  /-- An object: its keys, each once, with their values. -/
  | object (fields : List (Text × Value))
  deriving Inhabited

/-- The fields with `key` set to `value`: in place if the key is there, else at the end. -/
def setField (key : Text) (value : Value) : List (Text × Value) → List (Text × Value)
  | [] => [(key, value)]
  | (k, v) :: rest => if k = key then (key, value) :: rest else (k, v) :: setField key value rest

namespace Value

/-- The value under a key; nothing if the value is no object or lacks the key. -/
def get? (key : Text) : Value → Option Value
  | object fields => fields.lookup key
  | _ => none

mutual

/-- How deeply a value is nested: 1 for one that holds no others. -/
def depth : Value → Nat
  | list items => itemsDepth items + 1
  | object fields => fieldsDepth fields + 1
  | _ => 1

/-- The greatest depth of the items of a list. -/
def itemsDepth : List Value → Nat
  | [] => 0
  | item :: rest => max item.depth (itemsDepth rest)

/-- The greatest depth of the values of an object. -/
def fieldsDepth : List (Text × Value) → Nat
  | [] => 0
  | (_, value) :: rest => max value.depth (fieldsDepth rest)

end

/-- A value counts as false if it is null, false, zero or empty. -/
def isTruthy : Value → Bool
  | null => false
  | bool b => b
  | int n => n != 0
  | float x => x.isNonzero
  | text t => !t.isEmpty
  | list items => !items.isEmpty
  | object fields => !fields.isEmpty

end Value

end ArenaData.Json
