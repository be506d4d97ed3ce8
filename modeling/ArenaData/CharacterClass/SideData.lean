import ArenaData.Json.Reader
import ArenaData.Json.Shown
import ArenaData.Json.Writer

/-!
# Class tables of the executable

Part of what makes up a character class is built into the game's executable. It is supplied as a
JSON document: an object of tables, most of them with one entry for each of the 18 classes, two of
them lists of any number of id lists. Reading checks the shape of every table; what the numbers mean
is checked where the classes are put together. A text table takes values of any kind and keeps their
texts; a number table takes integers only, and truth values are none. A value that is nested too
deeply, or holds an integer with too many digits, has no text, and no message can show it. How deep
that is depends on how many steps inwards there are to take where the document is read.
-/

namespace ArenaData

/-- The tables, each indexed by class. -/
structure SideData where
  /-- The names of the classes. -/
  classNames : List Text
  /-- The attributes that each class prefers. -/
  preferredAttributes : List Text
  /-- The armor tier of each class. -/
  allowedArmors : List Int
  /-- The index of each class into the shield lists; -1 stands for all shields. -/
  allowedShieldsIndices : List Int
  /-- The index of each class into the weapon lists; -1 stands for all weapons. -/
  allowedWeaponsIndices : List Int
  /-- The flag number of each class. -/
  classNumbersToIds : List Int
  /-- The experience that each class needs for its second level. -/
  initialExperienceCaps : List Int
  /-- The sides of the die for the health of each class. -/
  healthDice : List Int
  /-- What 200 is divided by for the lockpicking skill of each class. -/
  lockpickingDivisors : List Int
  /-- Lists of shield ids. -/
  allowedShieldsLists : List (List Int)
  /-- Lists of weapon ids. -/
  allowedWeaponsLists : List (List Int)
  deriving DecidableEq, Repr, Inhabited

namespace SideData

open Json (Value)

/-- The number of classes. -/
def classCount : Nat := 18

/-- The key of the object of tables. -/
def rootKey : Text := "char_classes".toList

/-- The items of a table. -/
def asList (value : Option Value) (column : String) : Except Fault (List Value) :=
  match value with
  | some (.list items) => .ok items
  | _ => .error (.notAList column)

/-- The items of a table that has one for each class. -/
def perClass (tables : Value) (column : String) : Except Fault (List Value) := do
  let items ← asList (tables.get? column.toList) column
  if items.length ≠ classCount then
    throw (.wrongCount column items.length classCount)
  pure items

/-- An integer of a table, read with so many steps inwards. -/
def asInt (levels : Nat) (column : String) : Value → Except Fault Int
  | .int n => .ok n
  | value => do throw (.notInteger (← value.shownWithin levels) column)

/-- A table of texts. -/
def textColumn (levels : Nat) (tables : Value) (column : String) : Except Fault (List Text) := do
  let items ← perClass tables column
  items.mapM (Value.plainWithin levels)

/-- A table of integers. -/
def intColumn (levels : Nat) (tables : Value) (column : String) : Except Fault (List Int) := do
  let items ← perClass tables column
  items.mapM (asInt levels column)

/-- A table of id lists. -/
def idLists (levels : Nat) (tables : Value) (column : String) : Except Fault (List (List Int)) :=
  match tables.get? column.toList with
  | some (.list lists) => lists.mapM fun item => do
    let ids ← asList (some item) column
    ids.mapM (asInt levels column)
  | _ => .error (.notListOfLists column)

/-- The tables of a document, read with so many steps inwards. -/
def ofValue (levels : Nat) (document : Value) : Except Fault SideData :=
  match document.get? rootKey with
  | some (.object fields) => do
    let tables := Value.object fields
    let classNames ← textColumn levels tables "class_names"
    let preferredAttributes ← textColumn levels tables "preferred_attributes"
    let allowedArmors ← intColumn levels tables "allowed_armors"
    let allowedShieldsIndices ← intColumn levels tables "allowed_shields_indices"
    let allowedWeaponsIndices ← intColumn levels tables "allowed_weapons_indices"
    let classNumbersToIds ← intColumn levels tables "class_numbers_to_ids"
    let initialExperienceCaps ← intColumn levels tables "initial_experience_caps"
    let healthDice ← intColumn levels tables "health_dice"
    let lockpickingDivisors ← intColumn levels tables "lockpicking_divisors"
    let allowedShieldsLists ← idLists levels tables "allowed_shields_lists"
    let allowedWeaponsLists ← idLists levels tables "allowed_weapons_lists"
    pure {
      classNames, preferredAttributes, allowedArmors, allowedShieldsIndices,
      allowedWeaponsIndices, classNumbersToIds, initialExperienceCaps, healthDice,
      lockpickingDivisors, allowedShieldsLists, allowedWeaponsLists }
  | _ => .error .noClassTables

/-- The tables of a document in bytes. -/
def ofBytes (levels : Nat) (bytes : List UInt8) : Except Fault SideData :=
  match Value.ofDocument? bytes with
  | some document => ofValue levels document
  | none => .error .invalidJson

/-- A list of texts as a value. -/
def textsValue (texts : List Text) : Value := .list (texts.map .text)

/-- A list of integers as a value. -/
def intsValue (ints : List Int) : Value := .list (ints.map .int)

/-- The tables by name, in the order of the document: texts, integers, id lists. -/
def fields (d : SideData) : List (Text × Value) := [
  ("class_names".toList, textsValue d.classNames),
  ("preferred_attributes".toList, textsValue d.preferredAttributes),
  ("allowed_armors".toList, intsValue d.allowedArmors),
  ("allowed_shields_indices".toList, intsValue d.allowedShieldsIndices),
  ("allowed_weapons_indices".toList, intsValue d.allowedWeaponsIndices),
  ("class_numbers_to_ids".toList, intsValue d.classNumbersToIds),
  ("initial_experience_caps".toList, intsValue d.initialExperienceCaps),
  ("health_dice".toList, intsValue d.healthDice),
  ("lockpicking_divisors".toList, intsValue d.lockpickingDivisors),
  ("allowed_shields_lists".toList, .list (d.allowedShieldsLists.map intsValue)),
  ("allowed_weapons_lists".toList, .list (d.allowedWeaponsLists.map intsValue))]

/-- The document of the tables. -/
def toValue (d : SideData) : Value := .object [(rootKey, .object d.fields)]

/-- The document of the tables in characters, to be stored as UTF-8. -/
def toDocument (d : SideData) : Except Fault Text :=
  match d.toValue.document? with
  | some t => .ok t
  | none => .error .unwritable

/-- The document of the tables in bytes. -/
def toBytes (d : SideData) : Except Fault (List UInt8) := do
  let t ← d.toDocument
  pure t.string.toUTF8.data.toList

end SideData

end ArenaData
