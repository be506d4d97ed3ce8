import ArenaData.Fault
import ArenaData.Text.Upper

/-!
# Log levels

A level is a number; six whole ones have names. A word from the settings names a level by its
capitals, with two further words for levels that have other names too; any other word means `INFO`.
Two words name logging constants that are no levels, and are refused.
-/

namespace ArenaData.Log

/-- The level for what helps in finding mistakes. -/
def debug : Int := 10

/-- The level for what is worth knowing. -/
def info : Int := 20

/-- The level for what may go wrong. -/
def warning : Int := 30

/-- The level for what went wrong. -/
def error : Int := 40

/-- The level for what ends the program. -/
def critical : Int := 50

/-- The level of what has none. -/
def notSet : Int := 0

/-- The levels with names. -/
def levelNames : List (Int × Text) := [
  (critical, "CRITICAL".toList), (error, "ERROR".toList), (warning, "WARNING".toList),
  (info, "INFO".toList), (debug, "DEBUG".toList), (notSet, "NOTSET".toList)]

/-- The name of a level. -/
def levelName (level : Number) : Text :=
  match level.whole?.bind fun n => levelNames.lookup n with
  | some name => name
  | none => "Level ".toList ++ level.text

/-- The words that name a level. -/
def levelWords : List (Text × Int) := [
  ("DEBUG".toList, debug), ("INFO".toList, info), ("WARN".toList, warning),
  ("WARNING".toList, warning), ("ERROR".toList, error), ("CRITICAL".toList, critical),
  ("FATAL".toList, critical), ("NOTSET".toList, notSet)]

/-- The level that a word of the settings means. -/
def levelOf (word : Text) : Except Fault Int :=
  let capitals := word.upper
  match levelWords.lookup capitals with
  | some level => .ok level
  | none =>
    if capitals = "BASIC_FORMAT".toList then .error (.notALevel capitals)
    else if capitals = "_STYLES".toList then .error (.neverALevel capitals)
    else .ok info

/-- The names that the settings take for the level of the console. -/
def settableLevels : List Text := [
  "DEBUG".toList, "INFO".toList, "WARNING".toList, "ERROR".toList, "CRITICAL".toList]

end ArenaData.Log
