import ArenaData.Json.Token

/-!
# Reading a JSON value

The tokens of a JSON text drive a machine with a stack: the containers that are open, the innermost
first, and what may come next. A text is a value if the machine ends with one complete value and no
open container. Containers may be nested 1024 deep, which is also the bound on the stack. What a
numeral or a word means is up to the dialect.
-/

namespace ArenaData.Json

/-- What numerals and words mean. -/
structure Dialect where
  /-- The value of a numeral. -/
  number? : Numeral → Option Value
  /-- The value of a word. -/
  word? : Text → Option Value

/-- The words of all dialects. -/
def constants : List (Text × Value) := [
  ("null".toList, .null), ("true".toList, .bool true), ("false".toList, .bool false)]

/-- The words for numbers that are not finite. -/
def numberWords : List (Text × Value) := [
  ("Infinity".toList, .float (.infinite false)), ("-Infinity".toList, .float (.infinite true)),
  ("NaN".toList, .float .notANumber)]

namespace Dialect

/-- The dialect of documents: integers of 64 bits, and no numbers that are not finite. -/
def document : Dialect := ⟨Numeral.bounded?, fun letters => constants.lookup letters⟩

/-- The dialect that loses nothing: integers of any size, and words for all numbers. -/
def exact : Dialect := ⟨Numeral.exact, fun letters => (constants ++ numberWords).lookup letters⟩

end Dialect

/-- A container that is open. -/
inductive Frame where
  /-- A list, with its items so far in reverse. -/
  | list (items : List Value)
  /-- An object, with its fields so far and the key whose value is being read. -/
  | object (fields : List (Text × Value)) (key : Text)

/-- What may come next. -/
inductive Expected where
  /-- A value. -/
  | value
  /-- A value, or the end of the list just opened. -/
  | firstItem
  /-- A key. -/
  | key
  /-- A key, or the end of the object just opened. -/
  | firstKey
  /-- The colon behind a key. -/
  | colon
  /-- A comma, or the end of the innermost container. -/
  | next
  /-- Nothing: this is the value. -/
  | nothing (value : Value)

/-- The state of the machine. -/
structure Stack where
  /-- The open containers, the innermost first. -/
  frames : List Frame
  /-- What may come next. -/
  expected : Expected

namespace Stack

/-- The number of containers that may be open at once. -/
def depthLimit : Nat := 1024

/-- The machine before the first token. -/
def start : Stack := ⟨[], .value⟩

/-- A complete value goes into the innermost container, or is the result if none is open. -/
def put (value : Value) : List Frame → Stack
  | [] => ⟨[], .nothing value⟩
  | .list items :: rest => ⟨.list (value :: items) :: rest, .next⟩
  | .object fields key :: rest => ⟨.object (setField key value fields) key :: rest, .next⟩

/-- A container is opened, unless that is one too many. -/
def push? (frame : Frame) (expected : Expected) (frames : List Frame) : Option Stack :=
  if frames.length < depthLimit then some ⟨frame :: frames, expected⟩ else none

/-- A token where a value may start. -/
def beginValue? (dialect : Dialect) (frames : List Frame) : Token → Option Stack
  | .openList => push? (.list []) .firstItem frames
  | .openObject => push? (.object [] []) .firstKey frames
  | .text t => some (put (.text t) frames)
  | .numeral n => (dialect.number? n).map (put · frames)
  | .word letters => (dialect.word? letters).map (put · frames)
  | _ => none

/-- The key of the next field of the innermost container. -/
def beginField? (key : Text) : List Frame → Option Stack
  | .object fields _ :: rest => some ⟨.object fields key :: rest, .colon⟩
  | _ => none

/-- The innermost container ends at a token of its kind. -/
def close? : List Frame → Token → Option Stack
  | .list items :: rest, .closeList => some (put (.list items.reverse) rest)
  | .object fields _ :: rest, .closeObject => some (put (.object fields) rest)
  | _, _ => none

/-- One token. -/
def step? (dialect : Dialect) (s : Stack) (token : Token) : Option Stack :=
  match s.expected, token with
  | .value, token => beginValue? dialect s.frames token
  | .firstItem, .closeList => close? s.frames .closeList
  | .firstItem, token => beginValue? dialect s.frames token
  | .key, .text key => beginField? key s.frames
  | .firstKey, .text key => beginField? key s.frames
  | .firstKey, .closeObject => close? s.frames .closeObject
  | .colon, .colon => some ⟨s.frames, .value⟩
  | .next, .comma => match s.frames with
    | .list _ :: _ => some ⟨s.frames, .value⟩
    | .object _ _ :: _ => some ⟨s.frames, .key⟩
    | [] => none
  | .next, token => close? s.frames token
  | _, _ => none

/-- The value read, if it is complete. -/
def result? (s : Stack) : Option Value :=
  match s.expected with
  | .nothing value => some value
  | _ => none

end Stack

/-- The value that a text spells in a dialect. -/
def Value.ofText? (dialect : Dialect) (t : Text) : Option Value := do
  let tokens ← tokens? t
  let last ← tokens.foldlM (Stack.step? dialect) Stack.start
  last.result?

/-- The value of a document: UTF-8 bytes, and integers of 64 bits. -/
def Value.ofDocument? (bytes : List UInt8) : Option Value := do
  let t ← bytes.toByteArray.utf8Decode?
  Value.ofText? Dialect.document t.toList

end ArenaData.Json
