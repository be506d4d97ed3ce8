import ArenaData.AssetTable.Phase
import ArenaData.Decimal.Number
import ArenaData.Text.Blank
import ArenaData.Text.Quoted
import ArenaData.WorldMap.Rect

/-!
# Faults

Everything that can go wrong, by its cause. A fault carries what its message shows and nothing
else. `Fault.kind` sorts the causes into the families that callers tell apart: a caller that can do
without a resource looks for `resourceNotFound`, one that checks files for `malformedRecord`, and
so on.

A message is made before its fault is raised, and a number of too many digits cannot be shown. So
where a message shows a number that may be of any size, what is raised is `Fault.reported`. Numbers
that count what there is, such as the length of a buffer, never have so many digits, and neither has
an index that was read from two characters.
-/

namespace ArenaData

/-- The cause of a failure. -/
inductive Fault where
  /-- No resource of this name in the place searched. -/
  | resourceNotFound (name place : Text)
  /-- A read of `size` bytes at `offset` does not lie within the `length` bytes of a buffer. -/
  | outsideBuffer (source : Text) (size offset : Int) (length : Nat)
  /-- No zero byte ends the string at `offset`. -/
  | unterminated (source : Text) (offset : Int)
  /-- The character has no Latin-1 byte. -/
  | notLatin1 (c : Char)
  /-- The length of a chunk does not even cover its header. -/
  | chunkTooShort (source : Text) (index offset length : Nat)
  /-- A chunk ends behind the end of its file. -/
  | chunkPastEnd (source : Text) (index stop size : Nat)
  /-- A chunk has more strings than its count field can say. -/
  | chunkTooFull (index count : Nat)
  /-- A chunk has more bytes than its length field can say. -/
  | chunkTooLong (index length : Nat)
  /-- An answer of a question lacks the marker of its category. -/
  | noCategoryMarker (choice : Text)
  /-- The category marker is followed by an unknown letter. -/
  | unknownCategory (code : Char) (choice : Text)
  /-- The text does not start with an integer. -/
  | badIndex (source digits : Text)
  /-- The integer has more digits than are read. -/
  | indexTooLong
  /-- A description has an index that its table of `count` slots lacks. -/
  | noSlot (index : Int) (count : Nat)
  /-- A description comes before the first index. -/
  | noIndexYet (line : Text)
  /-- The class file is shorter than its fixed layout. -/
  | classFileTooShort (expected length : Nat)
  /-- The armor code is none of the four tiers. -/
  | badArmorCode (code : Int)
  /-- There is no shield list of this index. -/
  | badShieldIndex (index : Int)
  /-- A shield list holds an id that is no shield's. -/
  | badShieldId (id index : Int)
  /-- There is no weapon list of this index. -/
  | badWeaponIndex (index : Int)
  /-- A weapon list holds an id that is no weapon's. -/
  | badWeaponId (id index : Int)
  /-- The lockpicking divisor is not positive. -/
  | badLockpickingDivisor (divisor : Int)
  /-- The spell file is shorter than its fixed layout. -/
  | spellFileTooShort (expected count length : Nat)
  /-- A block of strings ends before all of its strings are read. -/
  | outOfStrings (source : Text) (offset : Nat)
  /-- The bytes are no JSON document. -/
  | invalidJson
  /-- The document lacks the object of class tables. -/
  | noClassTables
  /-- A table of the document is no list. -/
  | notAList (column : String)
  /-- A table of the document is no list of lists. -/
  | notListOfLists (column : String)
  /-- A table of the document has the wrong number of entries. -/
  | wrongCount (column : String) (count expected : Nat)
  /-- A table of the document holds something else than an integer. -/
  | notInteger (shown : Text) (column : String)
  /-- A value is nested too deeply to be shown. -/
  | tooDeep
  /-- A value holds an integer that documents cannot. -/
  | unwritable
  /-- The data of a mask does not fill its rectangle. -/
  | badMaskSize (rect : Rect) (expected : Int) (length : Nat)
  /-- The terrain data does not fill the map. -/
  | badTerrainSize (expected length : Nat)
  /-- The terrain byte stands for no climate. -/
  | badTerrain (index : Int)
  /-- The map has no such pixel. -/
  | offMap (x y : Int)
  /-- An image cannot have a negative side. -/
  | negativeImage
  /-- A side of an image does not fit in the numbers of images. -/
  | imageTooLarge
  /-- There is no room for a row of an image. -/
  | imageTooWide
  /-- The number of items does not fit in the numbers of items. -/
  | countTooLarge (count : Int)
  /-- There is no room for so many bytes. -/
  | noRoom (size : Nat)
  /-- A name rule picks from a chunk that does not exist. -/
  | noChunk (index : Int) (count : Nat)
  /-- A name rule picks from a chunk without strings. -/
  | emptyChunk (index : Int)
  /-- The value is no name rule. -/
  | badRule (shown : Text)
  /-- A table of name rules mentions a chunk that does not exist. -/
  | danglingRule (index : Int) (count : Nat)
  /-- There are no name rules for this race and sex. -/
  | noNameRules (race : Int) (male : Bool)
  /-- The container is too short for its record count. -/
  | containerTooShort (label : Text)
  /-- The container is too short for its footer. -/
  | footerTooLong (label : Text) (count size : Nat)
  /-- The payload of an entry runs into the footer. -/
  | entryOverruns (label name : Text) (stop footer : Nat)
  /-- No template text has this key. -/
  | noTemplate (key : Text)
  /-- There is no spell maker description of this index. -/
  | noDescription (index : Int) (count : Nat)
  /-- The loader has no table to show. -/
  | tableNotReady (phase : Phase)
  /-- A load was asked for while one is under way. -/
  | alreadyLoading
  /-- The process has no table yet. -/
  | noSharedTable
  /-- The settings do not say where the game is. -/
  | arenaPathUnset
  /-- The settings do not say where the executable data is. -/
  | exeDataPathUnset
  /-- The property of the settings cannot be set. -/
  | readOnly (property : String)
  /-- The property of the settings takes texts only. -/
  | notText (property : String)
  /-- The word names a logging constant that is no level. -/
  | notALevel (name : Text)
  /-- The word names a logging constant that cannot be a level at all. -/
  | neverALevel (name : Text)
  /-- The seconds or the year of a time do not fit in the numbers of the calendar. -/
  | timeTooFar (time : Number)
  /-- The year of a time lies beyond the years that dates are made for. -/
  | noDate (time : Number)
  /-- The number is not finite, so it has no whole part. -/
  | notFinite (x : Binary64)
  /-- A number has more digits than are shown. -/
  | tooManyDigits
  /-- A pattern of times has a zero character in it. -/
  | zeroInPattern
  /-- The source of a layout cannot be read on from here, or has no field. -/
  | badLayout (source : Text)
  /-- A field of a layout is to be shown as what it is not. -/
  | wrongConversion (source : Text)
  /-- The record has no field that a layout can show next. -/
  | noFieldLeft (source : Text)
  /-- A file or directory that is needed does not exist. -/
  | noDirectory (path : Text)
  /-- A file stands where a directory is needed. -/
  | notADirectory (path : Text)
  /-- A directory stands where a file is needed. -/
  | isADirectory (path : Text)
  /-- A file stands where a directory is to be made. -/
  | fileExists (path : Text)
  /-- A name on a path, or the path itself, is longer than the system takes. -/
  | nameTooLong (path : Text)
  /-- A path has a zero character in it. -/
  | zeroInPath (path : Text)

/-- The families of faults. -/
inductive Fault.Kind where
  /-- A named resource is absent. -/
  | resourceNotFound
  /-- Bytes, texts or documents do not match their format. -/
  | malformedRecord
  /-- A template key is unknown. -/
  | keyNotFound
  /-- A question carries no known category. -/
  | unrecognizedCategoryCode
  /-- A name rule, or a race and sex, is unknown. -/
  | unrecognizedRule
  /-- An index points outside its table. -/
  | indexOutOfRange
  /-- A table was asked for at the wrong time. -/
  | tableState
  /-- The settings are incomplete. -/
  | configuration
  /-- Coordinates lie off the map. -/
  | coordinates
  /-- A text has no encoding. -/
  | encoding
  /-- A value has no place where it was put. -/
  | wrongType
  /-- A value is out of the question where it was put. -/
  | badValue
  /-- A property cannot be set that way. -/
  | property
  /-- A file or directory to be used is absent. -/
  | missingFile
  /-- A file stands where a directory is needed. -/
  | notADirectory
  /-- A directory stands where a file is needed. -/
  | isADirectory
  /-- A file stands where a directory is to be made. -/
  | fileExists
  /-- A number is too large for where it was put. -/
  | overflow
  /-- The system cannot do what it was asked to. -/
  | system
  /-- Something is nested too deeply. -/
  | depth
  /-- There is not enough memory. -/
  | memory
  deriving DecidableEq, Repr

namespace Fault

/-- The family of a fault. -/
def kind : Fault → Kind
  | resourceNotFound .. => .resourceNotFound
  | noTemplate .. => .keyNotFound
  | noCategoryMarker .. | unknownCategory .. => .unrecognizedCategoryCode
  | badRule .. | noNameRules .. => .unrecognizedRule
  | noSlot .. | noDescription .. => .indexOutOfRange
  | tableNotReady .. | alreadyLoading | noSharedTable => .tableState
  | arenaPathUnset | exeDataPathUnset => .configuration
  | offMap .. => .coordinates
  | notLatin1 .. => .encoding
  | unwritable | neverALevel .. | wrongConversion .. | noFieldLeft .. => .wrongType
  | indexTooLong | negativeImage | notALevel .. | zeroInPattern | badLayout ..
  | tooManyDigits | zeroInPath .. => .badValue
  | readOnly .. | notText .. => .property
  | noDirectory .. => .missingFile
  | notADirectory .. => .notADirectory
  | isADirectory .. => .isADirectory
  | fileExists .. => .fileExists
  | timeTooFar .. | imageTooLarge | countTooLarge .. | notFinite (.infinite _) => .overflow
  | notFinite _ => .badValue
  | noDate .. | nameTooLong .. => .system
  | tooDeep => .depth
  | imageTooWide | noRoom .. => .memory
  | _ => .malformedRecord

/-- The name of a source followed by a colon; a source without a name is passed over. -/
def label (source : Text) : String := if source.isEmpty then "" else source.string ++ ": "

/-- The last index of a table of `count` entries. -/
def lastIndex (count : Nat) : Int := count - 1

/-- A rectangle in a message. -/
def rectText (r : Rect) : String :=
  s!"Rect(x={r.x}, y={r.y}, width={r.width}, height={r.height})"

/-- The start of every message on the executable's document. -/
def exeData : String := "Executable data: "

/-- The message of a fault. -/
def message : Fault → String
  | resourceNotFound name place =>
    let found := if place.isEmpty then "" else " (in " ++ place.string ++ ")"
    "Resource not found: " ++ name.string ++ found
  | outsideBuffer source size offset length =>
    label source ++ s!"read of {size} byte(s) at offset {offset} exceeds buffer of {length}"
  | unterminated source offset => label source ++ s!"unterminated string at offset {offset}"
  | notLatin1 c => "no Latin-1 byte for " ++ (Text.quoted [c]).string
  | chunkTooShort source index offset length =>
    source.string ++ s!": chunk {index} at offset {offset} has length {length}"
  | chunkPastEnd source index stop size =>
    source.string ++ s!": chunk {index} ends at {stop}, past end of file ({size})"
  | chunkTooFull index count => s!"Chunk {index} has {count} strings (max 255)"
  | chunkTooLong index length => s!"Chunk {index} is {length} bytes (max 65535)"
  | noCategoryMarker choice =>
    "No category marker '(5' in choice: " ++ choice.trim.quoted.string
  | unknownCategory code choice =>
    "Unknown category code " ++ (Text.quoted [code]).string ++ " in choice: " ++
      choice.trim.quoted.string
  | badIndex source digits => source.string ++ ": bad index " ++ digits.quoted.string
  | indexTooLong => "index with too many digits"
  | noSlot index count => s!"SPELLMKR.TXT: index {index} outside 0..{lastIndex count}"
  | noIndexYet line => "SPELLMKR.TXT: text before the first index: " ++ line.trim.quoted.string
  | classFileTooShort expected length =>
    s!"CLASSES.DAT: expected at least {expected} bytes, got {length}"
  | badArmorCode code => s!"Bad allowed armors value {code}"
  | badShieldIndex index => s!"Bad allowed shields index {index}"
  | badShieldId id index => s!"Bad shield id {id} in list {index}"
  | badWeaponIndex index => s!"Bad allowed weapons index {index}"
  | badWeaponId id index => s!"Bad weapon id {id} in list {index}"
  | badLockpickingDivisor divisor => s!"Bad lockpicking divisor {divisor}"
  | spellFileTooShort expected count length =>
    s!"SPELLSG.65: expected {expected} bytes for {count} spells, got {length}"
  | outOfStrings source offset => source.string ++ s!": ran out of strings at offset {offset}"
  | invalidJson => exeData ++ "invalid JSON"
  | noClassTables => exeData ++ "missing 'char_classes' object"
  | notAList column => exeData ++ s!"'{column}' must be a list"
  | notListOfLists column => exeData ++ s!"'{column}' must be a list of lists"
  | wrongCount column count expected =>
    exeData ++ s!"'{column}' has {count} entries, expected {expected}"
  | notInteger shown column => exeData ++ "non-integer " ++ shown.string ++ s!" in '{column}'"
  | tooDeep => "nested too deeply"
  | unwritable => "integer of more than 64 bits"
  | badMaskSize rect expected length =>
    "World map mask " ++ rectText rect ++ s!": expected {expected} bytes, got {length}"
  | badTerrainSize expected length =>
    s!"World map terrain: expected {expected} bytes, got {length}"
  | badTerrain index => s!"Bad terrain index {index}"
  | offMap x y => s!"Terrain coordinates out of bounds: ({x}, {y})"
  | negativeImage => "image with a negative side"
  | imageTooLarge => "image with too large a side"
  | imageTooWide => "image with too wide a row"
  | countTooLarge count => s!"too large a number of items: {count}"
  | noRoom size => s!"no room for {size} bytes"
  | noChunk index count => s!"Name chunk index {index} outside 0..{lastIndex count}"
  | emptyChunk index => s!"Name chunk {index} is empty"
  | badRule shown => "Bad rule " ++ shown.string
  | danglingRule index count =>
    s!"Name rules reference chunk {index}, but only {count} chunk(s) exist"
  | noNameRules race male =>
    let sex := if male then "male" else "female"
    s!"No name rules for race {race} ({sex})"
  | containerTooShort label => label.string ++ ": too short for a BSA header"
  | footerTooLong label count size =>
    label.string ++ s!": footer of {count} entries does not fit in {size} bytes"
  | entryOverruns label name stop footer =>
    label.string ++ ": entry " ++ name.string ++
      s!" overruns the footer (ends at {stop}, footer at {footer})"
  | noTemplate key => "Template key not found: " ++ key.quoted.string
  | noDescription index count =>
    s!"Spell maker description {index} outside 0..{lastIndex count}"
  | tableNotReady phase => s!"Asset table is not ready (state: {phase.name})"
  | alreadyLoading => "Asset table is already loading"
  | noSharedTable => "Assets not initialized. Call init_assets() at startup."
  | arenaPathUnset => "Arena path is not set"
  | exeDataPathUnset => "Executable data path is not set"
  | readOnly property => s!"property {property} cannot be set"
  | notText property => s!"property {property} takes a text"
  | notALevel name => "not a level: " ++ name.string
  | neverALevel name => "not a number or name of a level: " ++ name.string
  | timeTooFar time => "too far from 1970, in milliseconds: " ++ time.text.string
  | noDate time => "no date is made for these milliseconds: " ++ time.text.string
  | notFinite x => "no whole part: " ++ x.text.string
  | tooManyDigits => "a number with too many digits"
  | zeroInPattern => "a pattern with a zero character"
  | badLayout source => "no layout: " ++ source.string
  | wrongConversion source => "a text is shown as something else: " ++ source.string
  | noFieldLeft source => "no field is left: " ++ source.string
  | noDirectory path => "no such file or directory: " ++ path.string
  | notADirectory path => "not a directory: " ++ path.string
  | isADirectory path => "is a directory: " ++ path.string
  | fileExists path => "there is a file already: " ++ path.string
  | nameTooLong path => "too long a name: " ++ path.string
  | zeroInPath path => "a zero character in a path: " ++ path.string

/-- What was looked for on a path is not there; the path as such is in order, or nothing can ever be
there. -/
def isAbsence : Fault → Bool
  | noDirectory .. | notADirectory .. | zeroInPath .. => true
  | _ => false

/-- The numbers in the message of a fault that may be of any size. -/
def numbers : Fault → List Int
  | outsideBuffer _ size offset _ => [size, offset]
  | unterminated _ offset => [offset]
  | badArmorCode code => [code]
  | badShieldIndex index => [index]
  | badShieldId id index => [id, index]
  | badWeaponIndex index => [index]
  | badWeaponId id index => [id, index]
  | badLockpickingDivisor divisor => [divisor]
  | badMaskSize rect expected _ => [rect.x, rect.y, rect.width, rect.height, expected]
  | badTerrain index => [index]
  | offMap x y => [x, y]
  | noChunk index _ => [index]
  | danglingRule index _ => [index]
  | noNameRules race _ => [race]
  | noDescription index _ => [index]
  | _ => []

/-- Every number in the message of a fault can be shown. -/
def hasMessage (fault : Fault) : Bool := fault.numbers.all Text.shows

/-- The fault that is raised for a fault: itself, if its message can be made. -/
def reported (fault : Fault) : Fault := if fault.hasMessage then fault else tooManyDigits

end Fault

end ArenaData
