import ArenaData.Log.Layout

/-!
# Formats of log records

A record is shown on the console in a line by a layout, with the name of the level in color if that
is wanted, and in the log file in a row of six fields with semicolons between them. In a row the
quotes of the message are doubled, so a reader that takes a quoted field to end at the first quote
that stands alone finds the message as it was.
-/

namespace ArenaData.Log

/-- The layout of the console. -/
def consoleLayout : Layout where
  pieces := [
    .field .time .unchanged, .fixed " : ".toList,
    .field .level { Conversion.unchanged with left := true, width := 8 }, .fixed " : ".toList,
    .field .logger .unchanged, .fixed " : ".toList, .field .message .unchanged]
  flaw := none
  timed := true

/-- The source of the layout of the console. -/
def consoleSource : Text := "%(asctime)s : %(levelname)-8s : %(name)s : %(message)s".toList

/-- The source spells the layout. -/
theorem ofText_consoleSource : Layout.ofText consoleSource = .ok consoleLayout := by rfl

/-- The pattern of the time on the console. -/
def consolePattern : Text := "%H:%M:%S".toList

/-- The pattern of the time in the log file. -/
def filePattern : Text := "%Y-%m-%d %H:%M:%S".toList

/-- The line of a record, with its exception on lines of its own. -/
def plain (layout : Layout) (pattern : Text) (r : Record) : Text :=
  let line := layout.line pattern r
  match r.raised with
  | none => line
  | some raised => (if line.getLast? = some '\n' then line else line ++ ['\n']) ++ raised.shown

/-- The escape character, which starts a color code. -/
def escapeCode (code : String) : Text := '\x1b' :: code.toList

/-- The color codes of the levels. -/
def colors : List (Text × Text) := [
  ("DEBUG".toList, escapeCode "[36m"), ("INFO".toList, escapeCode "[32m"),
  ("WARNING".toList, escapeCode "[33m"), ("ERROR".toList, escapeCode "[31m"),
  ("CRITICAL".toList, escapeCode "[35m")]

/-- The code that ends a color. -/
def resetCode : Text := escapeCode "[0m"

/-- A line with the first occurrence of the name of a level in color. -/
def inColor (level line : Text) : Text :=
  match colors.lookup level with
  | none => line
  | some color => Text.replaceFirst level (color ++ level ++ resetCode) line

/-- A text with its double quotes doubled. -/
def doubleQuotes (t : Text) : Text :=
  t.flatMap fun c => if c = Text.doubleQuote then [c, c] else [c]

/-- A text between double quotes. -/
def enquote (t : Text) : Text := Text.doubleQuote :: (t ++ [Text.doubleQuote])

/-- What a row says: the message, and the exception below it. -/
def rowMessage (r : Record) : Text :=
  match r.raised with
  | none => r.message
  | some raised => r.message ++ '\n' :: raised.shown

/-- The row of a record in the log file. -/
def row (pattern : Text) (r : Record) : Text :=
  Text.joinWith [';'] [
    enquote (timeText pattern r.created),
    Text.padRight ' ' 8 r.levelName,
    enquote (Text.ofInt r.elapsed.truncated ++ " ms".toList),
    enquote r.logger,
    enquote r.line.text,
    enquote (doubleQuotes (rowMessage r))]

/-- The line of a record by the source of a layout, without color; or the fault that keeps it from
being shown. The time is checked where the source asks for it, before any field is shown, but that
it can be kept at all is checked first. -/
def plainLineOf (source pattern : Text) (r : Record) : Except Fault Text := do
  checkInSeconds r.created
  let layout ← Layout.ofText source
  if layout.timed then checkTime pattern r.created
  match layout.fault? pattern r with
  | some fault => .error fault
  | none => pure (plain layout pattern r)

/-- The same line in color. -/
def lineOf (source pattern : Text) (r : Record) : Except Fault Text :=
  (plainLineOf source pattern r).map (inColor r.levelName)

/-- The row of a record, if its time and its milliseconds can be shown. -/
def rowOf (pattern : Text) (r : Record) : Except Fault Text := do
  checkInSeconds r.created
  checkTime pattern r.created
  checkFinite r.elapsed
  pure (row pattern r)

end ArenaData.Log
