import ArenaData.Files.Tree
import ArenaData.Json.Shown
import ArenaData.Log.Level
import ArenaData.Settings.Store

/-!
# Settings

Where the game is and how to log, for one profile. A property reads its value from the store each
time, so what has been set through any other settings of the same profile and file is seen. A value
that is absent or null gives the default; a text property takes the text of any value, and a truth
property understands words for yes.

Two properties depend on others: the place of the container, and that of the executable's data as
long as it is not set, both lie in the game directory.
-/

namespace ArenaData

open Json (Value)

/-- The settings of a profile. -/
structure Settings where
  /-- The name of the profile. -/
  profile : Text
  /-- The settings file, if the settings have one of their own. -/
  file : Option Text
  deriving DecidableEq, Repr

/-- The properties of settings. -/
inductive Property where
  /-- The game directory. -/
  | arenaPath
  /-- The name of the container in it. -/
  | archiveName
  /-- The file of the executable's data. -/
  | exeDataPath
  /-- The file of the container. -/
  | archivePath
  /-- Log to the console. -/
  | consoleLogging
  /-- The least level that the console shows. -/
  | consoleLogLevel
  /-- Color the level on the console. -/
  | consoleUseColors
  /-- Log to a file. -/
  | fileLogging
  /-- The log file, from the working directory. -/
  | logFilePath
  /-- The log file, from the root. -/
  | logFileAbsolutePath
  /-- The version of the settings. -/
  | version
  /-- The settings file. -/
  | settingsFile
  deriving DecidableEq, Repr

namespace Property

/-- The name of a property. -/
def name : Property → String
  | arenaPath => "arena_path"
  | archiveName => "archive_name"
  | exeDataPath => "exe_data_path"
  | archivePath => "archive_path"
  | consoleLogging => "console_logging"
  | consoleLogLevel => "console_log_level"
  | consoleUseColors => "console_use_colors"
  | fileLogging => "file_logging"
  | logFilePath => "log_file_path"
  | logFileAbsolutePath => "log_file_absolute_path"
  | version => "version"
  | settingsFile => "settings_file"

/-- All properties. -/
def all : List Property := [
  arenaPath, archiveName, exeDataPath, archivePath, consoleLogging, consoleLogLevel,
  consoleUseColors, fileLogging, logFilePath, logFileAbsolutePath, version, settingsFile]

/-- The property of a name. -/
def ofName? (word : Text) : Option Property := all.find? (·.name.toList == word)

/-- The names of the groups of properties. -/
def groups : List String := ["paths", "logging"]

/-- The name of the group of a property, if it is in one. -/
def group? : Property → Option String
  | arenaPath | archiveName | exeDataPath | archivePath => some "paths"
  | consoleLogging | consoleLogLevel | consoleUseColors | fileLogging | logFilePath
  | logFileAbsolutePath => some "logging"
  | version | settingsFile => none

/-- The name of a property behind that of its group. -/
def groupedName (p : Property) : Option Text :=
  p.group?.map fun group => group.toList ++ '.' :: p.name.toList

/-- The property of a name, with or without its group. -/
def ofAnyName? (word : Text) : Option Property :=
  all.find? fun p => p.name.toList == word || p.groupedName == some word

end Property

namespace Settings

/-- The version of settings that are made now. -/
def currentVersion : Text := "1.0".toList

/-- The name of the container where none is set. -/
def defaultArchiveName : Text := "GLOBAL.BSA".toList

/-- The name of the file of the executable's data in the game directory. -/
def defaultExeDataName : Text := "exe_data.json".toList

/-- The log file, from the working directory. -/
def logFile : Path := ⟨.here, ["logs".toList, "arena_assets.csv".toList]⟩

/-- The settings file of settings that have none of their own. -/
def defaultFile : Text := "arena_assets/arena_assets".toList

/-- A key of the profile in the store. -/
def key (s : Settings) (name : Text) : Text := s.profile ++ '/' :: name

/-- The value of the profile under a name. -/
def value? (s : Settings) (store : Store) (name : Text) : Option Value := store.get? (s.key name)

/-- The store with a value of the profile under a name. -/
def setValue (s : Settings) (store : Store) (name : Text) (value : Value) : Store :=
  store.set (s.key name) value

/-- The text under a name. -/
def text (s : Settings) (store : Store) (name : String) (default : Text) : Text :=
  match s.value? store name.toList with
  | none | some .null => default
  | some value => value.plain

/-- The words for yes; the case of their letters does not matter, and no letter beyond ASCII has one
of these as its small form. -/
def meansYes (word : Text) : Bool :=
  let small := word.map Char.toLower
  small = "true".toList || small = "1".toList || small = "yes".toList

/-- The truth value under a name. -/
def flag (s : Settings) (store : Store) (name : String) (default : Bool) : Bool :=
  match s.value? store name.toList with
  | none | some .null => default
  | some (.text word) => meansYes word
  | some value => value.isTruthy

/-- The path under a name; an empty text is none. -/
def path? (s : Settings) (store : Store) (name : String) : Option Path :=
  let text := s.text store name []
  if text.isEmpty then none else some (Path.ofText text)

/-- The game directory. -/
def arenaPath (s : Settings) (store : Store) : Option Path := s.path? store "paths/arena"

/-- The name of the container. -/
def archiveName (s : Settings) (store : Store) : Text :=
  let name := s.text store "paths/archive_name" defaultArchiveName
  if name.isEmpty then defaultArchiveName else name

/-- The file of the container. -/
def archivePath (s : Settings) (store : Store) : Option Path :=
  (s.arenaPath store).map (·.child (s.archiveName store))

/-- The file of the executable's data. -/
def exeDataPath (s : Settings) (store : Store) : Option Path :=
  match s.path? store "paths/exe_data" with
  | some path => some path
  | none => (s.arenaPath store).map (·.child defaultExeDataName)

/-- Log to the console. -/
def consoleLogging (s : Settings) (store : Store) : Bool :=
  s.flag store "logging/console_enabled" true

/-- The word for the least level that the console shows. -/
def consoleLogLevel (s : Settings) (store : Store) : Text :=
  s.text store "logging/console_level" "INFO".toList

/-- Color the level on the console. -/
def consoleUseColors (s : Settings) (store : Store) : Bool :=
  s.flag store "logging/console_use_colors" true

/-- Log to a file. -/
def fileLogging (s : Settings) (store : Store) : Bool := s.flag store "logging/file_enabled" false

/-- The version of the settings. -/
def version (s : Settings) (store : Store) : Text := s.text store "app/version" currentVersion

/-- The log file, from the root. -/
def absoluteLogFile (tree : FileTree) : Path := ⟨.root, tree.workPlace ++ logFile.parts⟩

/-- A path as a value. -/
def pathValue : Option Path → Value
  | some path => .text path.text
  | none => .null

/-- The value of a property. -/
def get (s : Settings) (tree : FileTree) (store : Store) : Property → Value
  | .arenaPath => pathValue (s.arenaPath store)
  | .archiveName => .text (s.archiveName store)
  | .exeDataPath => pathValue (s.exeDataPath store)
  | .archivePath => pathValue (s.archivePath store)
  | .consoleLogging => .bool (s.consoleLogging store)
  | .consoleLogLevel => .text (s.consoleLogLevel store)
  | .consoleUseColors => .bool (s.consoleUseColors store)
  | .fileLogging => .bool (s.fileLogging store)
  | .logFilePath => .text logFile.text
  | .logFileAbsolutePath => .text (absoluteLogFile tree).text
  | .version => .text (s.version store)
  | .settingsFile => .text (s.file.getD defaultFile)

/-- What is stored for a path: its spelling, and the empty text for a value that counts as false.
The value is a path or null, and a text stands for the path that it spells. No path counts as false,
that of the empty text included, which is spelled `.`. -/
def storedPath : Value → Value
  | .text t => .text (Path.ofText t).text
  | value => if value.isTruthy then .text value.plain else .text []

/-- The word is the name of a level that the settings take, in any case. -/
def isLevel (word : Text) : Bool := Log.settableLevels.contains word.upper

/-- The store after a value has been given to a property. An unknown level is passed over, and so is
a value for the file of the container or the settings file, which follow from other things. -/
def assign (s : Settings) (store : Store) (property : Property) (value : Value) :
    Except Fault Store :=
  let put (name : String) (value : Value) : Except Fault Store :=
    .ok (s.setValue store name.toList value)
  match property with
  | .arenaPath => put "paths/arena" (storedPath value)
  | .exeDataPath => put "paths/exe_data" (storedPath value)
  | .archiveName =>
    put "paths/archive_name" (if value.isTruthy then value else .text defaultArchiveName)
  | .consoleLogging => put "logging/console_enabled" value
  | .consoleUseColors => put "logging/console_use_colors" value
  | .fileLogging => put "logging/file_enabled" value
  | .consoleLogLevel => match value with
    | .text word =>
      if isLevel word then put "logging/console_level" (.text word.upper) else .ok store
    | _ => .error (.notText property.name)
  | .archivePath | .settingsFile => .ok store
  | .logFilePath | .logFileAbsolutePath | .version => .error (.readOnly property.name)

/-- The store once settings have been set up on it: it holds a version. -/
def setUp (s : Settings) (store : Store) : Store :=
  match s.value? store "app/version".toList with
  | some _ => store
  | none => s.setValue store "app/version".toList (.text currentVersion)

end Settings

end ArenaData
