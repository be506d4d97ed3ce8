import ArenaData.Capacity
import ArenaData.Log.Record
import ArenaData.Text.Digit
import ArenaData.Text.Word

/-!
# Layouts of log lines

A layout is a line with fields in it. In its source a field is a percent sign, the name of the field
in round brackets, and a conversion, which ends at its letter; two percent signs stand for one.
Before the letter may stand, in this order,

* flags, of which `-` puts the padding on the right;
* the width that the field is padded to;
* a point and the number of characters that are shown at most;
* one of the size letters `h`, `l` and `L`, which changes nothing.

The letter `s` shows the field as it is, `r` and `a` in quotes, and `c` if it is one character. All
fields are texts, so the letters for numbers are wrong for them. A conversion without a name shows
the record as a whole, and only the first field can be one. A source is read from the left, and what
is wrong with it shows when that place is reached; but a source in which nothing looks like a field
is refused at once.

The formatters take any source from whoever makes one. The program itself makes them with the layout
of the console only.
-/

namespace ArenaData.Log

/-- The fields of a log line. -/
inductive Field where
  /-- The time. -/
  | time
  /-- The name of the level. -/
  | level
  /-- The name of the logger. -/
  | logger
  /-- What is said. -/
  | message
  deriving DecidableEq, Repr

/-- The forms in which a field is shown. -/
inductive Form where
  /-- As it is. -/
  | plain
  /-- In quotes. -/
  | quoted
  /-- In quotes and in ASCII. -/
  | quotedAscii
  /-- As the one character that it is. -/
  | character
  deriving DecidableEq, Repr

/-- How a field is shown. -/
structure Conversion where
  /-- The form. -/
  form : Form
  /-- The padding is on the right. -/
  left : Bool
  /-- The width that the field is padded to. -/
  width : Nat
  /-- The number of characters that are shown, if there is a limit. -/
  most : Option Nat
  deriving DecidableEq, Repr

/-- A part of a layout. -/
inductive Piece where
  /-- A text that stands in every line. -/
  | fixed (text : Text)
  /-- A field. -/
  | field (f : Field) (conversion : Conversion)
  /-- The record as a whole. -/
  | record (conversion : Conversion)
  deriving DecidableEq, Repr

/-- A layout. -/
structure Layout where
  /-- The parts, up to the end of the source or to what is wrong with it. -/
  pieces : List Piece
  /-- What is wrong with the source. -/
  flaw : Option Fault
  /-- The source asks for the time. -/
  timed : Bool

namespace Conversion

/-- A field as it is. -/
def unchanged : Conversion := ⟨.plain, false, 0, none⟩

/-- The flags. -/
def flags : Text := "-+ #0".toList

/-- The letters of sizes. -/
def sizes : Text := "hlL".toList

/-- The letters of conversions to numbers. -/
def numberLetters : Text := "diouxXeEfFgG".toList

/-- No width is larger. -/
def maxWidth : Nat := 0x7FFFFFFFFFFFFFFF

/-- No number of characters to be shown is larger. -/
def maxMost : Nat := 0x7FFFFFFF

/-- The number in front of a text, and the text behind it. A star takes the number from a field, and
none holds a number. -/
def readNumber (limit : Nat) (t : Text) : Except Fault (Nat × Text) :=
  let (digits, rest) := t.span isPlainDigit
  let n := Text.numberOf (digits.map fun c => c.toNat - 0x30)
  if t.head? = some '*' then .error (.wrongConversion t)
  else if limit < n then .error (.badLayout t)
  else .ok (n, rest)

/-- The form that a letter asks for. -/
def formOf (letter : Char) : Except Fault Form :=
  match letter with
  | 's' => .ok .plain
  | 'r' => .ok .quoted
  | 'a' => .ok .quotedAscii
  | 'c' => .ok .character
  | _ => .error (if numberLetters.contains letter then .wrongConversion [letter]
      else .badLayout [letter])

/-- The letter of the conversion in front of a text, the conversion but for the form that the letter
asks for, and the text behind it. -/
def read (t : Text) : Except Fault (Char × Conversion × Text) := do
  let (set, rest) := t.span flags.contains
  let (width, rest) ← readNumber maxWidth rest
  let (most, rest) ← match rest with
    | '.' :: rest => do
      let (most, rest) ← readNumber maxMost rest
      pure (some most, rest)
    | rest => pure (none, rest)
  let rest := if rest.head?.any sizes.contains then rest.drop 1 else rest
  match rest with
  | [] => .error (.badLayout t)
  | letter :: rest => pure (letter, ⟨.plain, set.contains '-', width, most⟩, rest)

/-- A text cut to the number of characters that are shown. -/
def cut (c : Conversion) (t : Text) : Text :=
  match c.most with
  | some most => t.take most
  | none => t

/-- A text padded to the width. -/
def pad (c : Conversion) (t : Text) : Text :=
  if c.left then Text.padRight ' ' c.width t else Text.padLeft ' ' c.width t

/-- A field as it is shown. -/
def apply (c : Conversion) (t : Text) : Text :=
  c.pad <| match c.form with
    | .plain => c.cut t
    | .quoted => c.cut t.quoted
    | .quotedAscii => c.cut t.quotedAscii
    | .character => t

/-- The record as a whole, `t` being its text. -/
def applyWhole (c : Conversion) (t : Text) : Text :=
  c.pad (c.cut (if c.form = .quotedAscii then t.ascii else t))

/-- There is no room for the width. -/
def widthFault? (c : Conversion) : Option Fault :=
  if Capacity.room < c.width then some (.noRoom c.width) else none

/-- What is wrong with showing a text: a text that is to be a character is something else, or there
is no room for the width. -/
def fault? (c : Conversion) (t : Text) : Option Fault :=
  if c.form = .character ∧ t.length ≠ 1 then some (.wrongConversion t) else c.widthFault?

end Conversion

namespace Layout

/-- The field of a name. -/
def field? (name : Text) : Option Field :=
  if name = "asctime".toList then some .time
  else if name = "levelname".toList then some .level
  else if name = "name".toList then some .logger
  else if name = "message".toList then some .message
  else none

/-- The field between brackets in front of a text, and the text behind it. -/
def readField (t : Text) : Except Fault (Field × Text) :=
  let (name, rest) := t.span (· != ')')
  match field? name, rest with
  | some f, _ :: rest => .ok (f, rest)
  | _, _ => .error (.badLayout t)

/-- What stands behind a percent sign, and the text behind that. A conversion without a name takes
the next field, and there never is one; but before the first field it takes the record as a
whole. -/
def readPiece (first : Bool) (t : Text) : Except Fault (Piece × Text) :=
  match t with
  | '(' :: rest => do
    let (f, rest) ← readField rest
    let (letter, conversion, rest) ← Conversion.read rest
    let form ← Conversion.formOf letter
    pure (.field f { conversion with form }, rest)
  | t => do
    let (letter, conversion, rest) ← Conversion.read t
    if !first then .error (.noFieldLeft t)
    else match ← Conversion.formOf letter with
      | .character => .error (.wrongConversion t)
      | form => pure (.record { conversion with form }, rest)

/-- The parts with another one in front of them. -/
def cons (piece : Piece) (parts : List Piece × Option Fault) : List Piece × Option Fault :=
  (piece :: parts.1, parts.2)

/-- The parts in a source, and what is wrong with it behind them; `first` is true before the first
field, and `fuel` bounds the number of parts. -/
def parseFrom : (fuel : Nat) → (first : Bool) → Text → List Piece × Option Fault
  | 0, _, _ => ([], none)
  | _ + 1, _, [] => ([], none)
  | fuel + 1, first, '%' :: '%' :: rest => cons (.fixed ['%']) (parseFrom fuel first rest)
  | fuel + 1, first, '%' :: rest =>
    match readPiece first rest with
    | .ok (piece, rest) => cons piece (parseFrom fuel false rest)
    | .error fault => ([], some fault)
  | fuel + 1, first, rest =>
    let (text, rest) := rest.span (· != '%')
    cons (.fixed text) (parseFrom fuel first rest)

/-- The text without the number or star in front of it. The digits of any script make up a number
here. -/
def dropNumber (t : Text) : Text :=
  if t.head? = some '*' then t.drop 1 else t.dropWhile fun c => (digitValue? c).isSome

/-- The letters that end what looks like a field. -/
def endings : Text := "diouxefgcrsa%".toList

/-- Two further forms of the letter `i`, and one of the letter `s`. -/
def furtherEndings : Text := ['\u0130', '\u0131', '\u017f']

/-- The character ends what looks like a field, in any case and form. -/
def isEnding (c : Char) : Bool := endings.contains c.toLower || furtherEndings.contains c

/-- The text starts with what looks like a field, whatever its name. Sizes do not count. -/
def startsWithField (t : Text) : Bool :=
  match t with
  | '%' :: '(' :: rest =>
    let (name, rest) := rest.span isWordChar
    match rest with
    | ')' :: rest =>
      let rest := dropNumber (rest.dropWhile Conversion.flags.contains)
      let (cut, rest) := match rest with
        | '.' :: rest => (decide ((dropNumber rest).length < rest.length), dropNumber rest)
        | rest => (true, rest)
      !name.isEmpty && cut && rest.head?.any isEnding
    | _ => false
  | _ => false

/-- The layout of the message alone. -/
def messageOnly : Layout := ⟨[.field .message .unchanged], none, false⟩

/-- The start of the field of the time in a source. -/
def timeMark : Text := "%(asctime)".toList

/-- The source asks for the time. A percent sign before the field does not count. -/
def asksForTime (source : Text) : Bool := source.anyEnd timeMark.isPrefixOf

/-- The layout in a source. The empty source stands for the message alone. -/
def ofText (source : Text) : Except Fault Layout :=
  if source.isEmpty then .ok messageOnly
  else if source.anyEnd startsWithField then
    let (pieces, flaw) := parseFrom source.length true source
    .ok ⟨pieces, flaw, asksForTime source⟩
  else .error (.badLayout source)

/-- A field of a record, the time as `pattern` says. -/
def fieldText (pattern : Text) (r : Record) : Field → Text
  | .time => timeText pattern r.created
  | .level => r.levelName
  | .logger => r.logger
  | .message => r.message

/-- An exception as a value: what it is, the exception itself, and no place where it was raised. -/
def raisedText (raised : Option Raised) : Text :=
  match raised with
  | none => "None".toList
  | some raised =>
    "(<class ".toList ++ raised.kind.quoted ++ ">, ".toList ++ raised.call ++ ", None)".toList

/-- What is shown where nothing is said. -/
def orNone (t : Option Text) : Text := t.getD "None".toList

/-- The fields of a record by name, as they are before any part of the line is shown. -/
def namedFields (pattern : Text) (timed : Bool) (r : Record) : List (String × Text) := [
  ("name", r.logger.quoted),
  ("msg", r.message.quoted),
  ("args", if r.origin.hasArguments then "()".toList else orNone none),
  ("levelname", r.levelName.quoted),
  ("levelno", r.level.text),
  ("pathname", r.origin.path.quoted),
  ("filename", r.origin.fileName.quoted),
  ("module", r.origin.moduleName.quoted),
  ("exc_info", raisedText r.raised),
  ("exc_text", orNone none),
  ("stack_info", orNone none),
  ("lineno", r.line.text),
  ("funcName", orNone (r.origin.function.map Text.quoted)),
  ("created", (inSeconds r.created).text),
  ("msecs", (restOfSecond r.created).text),
  ("relativeCreated", r.elapsed.text),
  ("thread", orNone (r.origin.thread.map Text.ofNat)),
  ("threadName", orNone (r.origin.threadName.map Text.quoted)),
  ("processName", orNone (r.origin.processName.map Text.quoted)),
  ("process", orNone (r.origin.process.map Text.ofNat)),
  ("message", r.message.quoted)] ++
    if timed then [("asctime", (timeText pattern r.created).quoted)] else []

/-- The record as a whole. -/
def wholeText (pattern : Text) (timed : Bool) (r : Record) : Text :=
  let fields := (namedFields pattern timed r).map fun (name, text) =>
    Text.quoted name.toList ++ ": ".toList ++ text
  '\x7b' :: (Text.joinWith ", ".toList fields ++ ['\x7d'])

/-- A part of the line of a record. -/
def pieceText (pattern : Text) (timed : Bool) (r : Record) : Piece → Text
  | .fixed text => text
  | .field f conversion => conversion.apply (fieldText pattern r f)
  | .record conversion => conversion.applyWhole (wholeText pattern timed r)

/-- What is wrong with showing a part of the line of a record. -/
def pieceFault? (pattern : Text) (r : Record) : Piece → Option Fault
  | .fixed _ => none
  | .record conversion => conversion.widthFault?
  | .field f conversion => conversion.fault? (fieldText pattern r f)

/-- The line of a record. -/
def line (layout : Layout) (pattern : Text) (r : Record) : Text :=
  layout.pieces.flatMap (pieceText pattern layout.timed r)

/-- What is wrong with the line of a record, looked at from the left. -/
def fault? (layout : Layout) (pattern : Text) (r : Record) : Option Fault :=
  (layout.pieces.findSome? (pieceFault? pattern r)).or layout.flaw

end Layout

end ArenaData.Log
