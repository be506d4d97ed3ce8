import ArenaData.Log.Level
import ArenaData.Log.Time
import ArenaData.Text.Quoted

/-!
# Log records

What a program has to say at some time, where in the program, and the exception that went with it,
if there is one.
-/

namespace ArenaData.Log

/-- Where a record comes from. -/
structure Origin where
  /-- The file of the program. -/
  path : Text
  /-- The function, if that is said. -/
  function : Option Text
  /-- The message came with a list of things to put into it, though there are none. -/
  hasArguments : Bool
  /-- The number of the thread, if that is said. -/
  thread : Option Nat
  /-- The name of the thread, if that is said. -/
  threadName : Option Text
  /-- The number of the process, if that is said. -/
  process : Option Nat
  /-- The name of the process, if that is said. -/
  processName : Option Text
  deriving DecidableEq, Repr

namespace Origin

/-- A record that does not say where it comes from. -/
def unknown : Origin :=
  ⟨"(unknown file)".toList, some "(unknown function)".toList, true, none, none, none, none⟩

/-- The name of the file. -/
def fileName (o : Origin) : Text := (o.path.reverse.takeWhile (· != '/')).reverse

/-- The name of the file up to its last point. Points that a name starts with do not count. -/
def moduleName (o : Origin) : Text :=
  let stem := ((o.fileName.reverse.dropWhile (· != '.')).drop 1).reverse
  if stem.all (· == '.') then o.fileName else stem

end Origin

/-- An exception as the log shows it: what kind it is, and its text unless that is empty. -/
structure Raised where
  /-- The full name of its kind. -/
  kind : Text
  /-- Its text. -/
  text : Text
  /-- What it was made from, if that is anything. -/
  cause : Option Text
  deriving DecidableEq, Repr

namespace Raised

/-- The families of faults that the package has names for. -/
def packageKinds : List Text := [
  "AssetError".toList, "ResourceNotFound".toList, "MalformedRecord".toList, "KeyNotFound".toList,
  "UnrecognizedCategoryCode".toList, "UnrecognizedRule".toList, "IndexOutOfRange".toList,
  "AssetTableStateError".toList]

/-- The full name of a kind: those of the package are named with it. -/
def fullName (kind : Text) : Text :=
  if packageKinds.contains kind then "arena_assets.errors.".toList ++ kind
  else if kind = "ConfigError".toList then "arena_assets.settings.types.".toList ++ kind
  else kind

/-- What an exception of a kind is made from: the two kinds that make up a sentence do so. -/
def sentence (kind text : Text) : Text :=
  if kind = "KeyNotFound".toList then (Fault.noTemplate text).message.toList
  else if kind = "ResourceNotFound".toList then (Fault.resourceNotFound text []).message.toList
  else text

/-- The text of an exception that was made from `text`: keys are quoted. -/
def wording (kind text : Text) : Text := if kind = "KeyError".toList then text.quoted else text

/-- The exception of a kind raised with a text, or without one. -/
def ofText (kind : Text) (text : Option Text) : Raised :=
  let cause := text.map (sentence kind)
  ⟨fullName kind, (cause.map (wording kind)).getD [], cause⟩

/-- The name of its kind, without that of the package. -/
def name (r : Raised) : Text := (r.kind.reverse.takeWhile (· != '.')).reverse

/-- The exception as it is made. -/
def call (r : Raised) : Text := r.name ++ '(' :: ((r.cause.elim [] Text.quoted) ++ [')'])

/-- The exception in the log. -/
def shown (r : Raised) : Text := if r.text.isEmpty then r.kind else r.kind ++ ": ".toList ++ r.text

end Raised

/-- A log record. -/
structure Record where
  /-- The name of the logger. -/
  logger : Text
  /-- The level. -/
  level : Number
  /-- The name of the level. A program may have given its levels names of their own. -/
  levelName : Text := Log.levelName level
  /-- The line of the program. -/
  line : Number
  /-- What is said. -/
  message : Text
  /-- The time, in milliseconds since the start of 1970. -/
  created : Number
  /-- The milliseconds since the start of the program. -/
  elapsed : Number
  /-- The exception that goes with it. -/
  raised : Option Raised
  /-- Where it comes from. -/
  origin : Origin := .unknown
  deriving DecidableEq, Repr

end ArenaData.Log
