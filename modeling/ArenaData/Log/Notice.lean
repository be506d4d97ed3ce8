import ArenaData.Files.Path
import ArenaData.Log.Record

/-!
# Notices

What the program says about its own work: when settings are made, changed and validated, when
logging is set up, and step by step while a table is loaded. Each notice has a level, a text, and
the part of the program that gives it.
-/

namespace ArenaData.Log

/-- What the program says about its work. -/
inductive Notice where
  /-- Settings have been made. -/
  | settingsMade (profile stored : Text)
  /-- A word for the level of the console has been passed over, and the level stays. -/
  | unknownLevel (word current : Text)
  /-- A validation has found what makes a load impossible. -/
  | settingsError (message : String)
  /-- Logging has been set up. -/
  | loggingReady
  /-- The console gets what has this level or a higher one. -/
  | consoleLogging (level : Text) (colors : Bool)
  /-- The log file gets everything. -/
  | fileLogging (file : Path)
  /-- The game directory has been opened. -/
  | folderOpened (root : Path)
  /-- The container has been opened. -/
  | containerOpened (label : Text) (entries : Nat)
  /-- The game directory has no container. -/
  | noContainer (name : Text) (root : Path)
  /-- The executable's data is going to be read. -/
  | sideDataFound (file : Path)
  /-- A load starts. -/
  | loadStarted (archive : Text)
  /-- A resource has been read. -/
  | resourceRead (name : Text) (size : Nat)
  /-- A resource is going to be decoded. -/
  | decoding (name : Text) (size : Nat)
  /-- A load has failed. -/
  | loadFailed (fault : Fault)
  /-- A load is done. -/
  | loadDone (templates questions dungeons chunks : Nat)

namespace Notice

/-- The level of a notice. -/
def level : Notice → Int
  | unknownLevel .. | noContainer .. => warning
  | loggingReady | containerOpened .. | sideDataFound .. | loadStarted .. | loadDone .. => info
  | loadFailed .. => error
  | _ => debug

/-- The part of the program that gives a notice, behind the name of the package. -/
def part : Notice → String
  | settingsMade .. => "settings.core"
  | unknownLevel .. => "settings.logging"
  | settingsError .. => "settings.validation"
  | loggingReady | consoleLogging .. | fileLogging .. => "utils.logging_config"
  | folderOpened .. | resourceRead .. => "archive.loaders.DirectoryArchive"
  | containerOpened .. => "archive.loaders.BsaArchive"
  | noContainer .. => "archive.loaders.open_archive"
  | sideDataFound .. => "game_data.exe_data"
  | loadStarted .. | decoding .. | loadFailed .. | loadDone .. =>
    "game_data.service.AssetTableLoader"

/-- The name of the logger of a notice. -/
def logger (n : Notice) : Text := "arena_assets.".toList ++ n.part.toList

/-- A number of bytes in brackets. -/
def sizeText (size : Nat) : Text := " (".toList ++ Text.ofNat size ++ " bytes)".toList

/-- The text of a notice. -/
def message : Notice → Text
  | settingsMade profile stored =>
    "Settings initialized for profile '".toList ++ profile ++ "', stored at: ".toList ++ stored
  | unknownLevel word current =>
    "Invalid console log level: ".toList ++ word ++ ", keeping current: ".toList ++ current
  | settingsError message => "Settings error: ".toList ++ message.toList
  | loggingReady => "Logging initialized".toList
  | consoleLogging level colors =>
    "Console logging: ".toList ++ level ++
      (if colors then " (colors: True)" else " (colors: False)").toList
  | fileLogging file => "File logging: DEBUG at ".toList ++ file.text
  | folderOpened root => "DirectoryArchive rooted at ".toList ++ root.text
  | containerOpened label entries =>
    "Opened ".toList ++ label ++ " with ".toList ++ Text.ofNat entries ++ " entries".toList
  | noContainer name root =>
    "No ".toList ++ name ++ " in ".toList ++ root.text ++ ", using loose files only".toList
  | sideDataFound file => "Loading executable data from ".toList ++ file.text
  | loadStarted archive => "Loading asset table from ".toList ++ archive
  | resourceRead name size => "Read ".toList ++ name ++ sizeText size
  | decoding name size => "Decoding ".toList ++ name ++ sizeText size
  | loadFailed fault => "Asset table loading failed\n".toList ++ fault.message.toList
  | loadDone templates questions dungeons chunks =>
    "Asset table ready: ".toList ++ Text.ofNat templates ++ " templates, ".toList ++
      Text.ofNat questions ++ " questions, ".toList ++ Text.ofNat dungeons ++
      " dungeons, ".toList ++ Text.ofNat chunks ++ " name chunk lists".toList

/-- The record of a notice. -/
def record (time elapsed : Number) (n : Notice) : Record where
  logger := n.logger
  level := .whole n.level
  line := .whole 0
  message := n.message
  created := time
  elapsed := elapsed
  raised := none

end Notice

end ArenaData.Log
