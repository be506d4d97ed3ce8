import ArenaData.AssetTable.Shared
import ArenaData.Log.Journal
import ArenaData.Settings.Progress
import ArenaData.Settings.Validation

/-!
# The application

Everything that the program works on at a time: the files, the stores of settings, the settings that
have been made, the tables, and the log. Each operation gives its outcome and the application as it
is afterwards, which is changed even by some operations that fail: what they have said by then is in
the log file.
-/

namespace ArenaData

open Json (Value)

/-- Settings that have been made, and the values that have been given to names of no property. -/
structure Session where
  /-- The settings. -/
  settings : Settings
  /-- The values by name. -/
  extras : List (Text × Value)

/-- The state of the program. -/
structure Application where
  /-- The files. -/
  tree : FileTree
  /-- The stores of settings. -/
  storage : Storage
  /-- The settings that have been made, by their names. -/
  sessions : List (Text × Session)
  /-- The tables. -/
  shared : SharedTables
  /-- The handlers of the root logger. -/
  handlers : Log.Handlers
  /-- The stream of the log file, if its handler is attached. -/
  logStream : Option Log.Stream
  /-- The time, in milliseconds since the start of 1970. -/
  time : Number
  /-- The milliseconds since the start of the program. -/
  elapsed : Number
  /-- The steps inwards that there are to take where a document is read. -/
  levels : Nat

namespace Application

/-- The program with nothing done yet. -/
def start (tree : FileTree) (time elapsed : Number) (levels : Nat) : Application :=
  ⟨tree, .empty, [], .empty, .empty, none, time, elapsed, levels⟩

/-- The application with a change of its log file and its files. -/
def changeJournal (app : Application) (change : Log.Journal → Log.Journal) : Application :=
  match app.logStream with
  | none => app
  | some stream =>
    let journal := change ⟨app.tree, stream⟩
    { app with tree := journal.tree, logStream := some journal.stream }

/-- The application after it has said something. -/
def note (app : Application) (notice : Log.Notice) : Application :=
  app.changeJournal (·.append (notice.record app.time app.elapsed))

/-- The application after it has said several things, one after the other. -/
def noteAll (app : Application) (notices : List Log.Notice) : Application :=
  notices.foldl note app

/-- A change of the files from outside. A log file that is removed is not seen any more, even if
another one takes its place. -/
def changeFiles (app : Application) (change : FileTree → Except Fault Unit × FileTree) :
    Except Fault Unit × Application :=
  let (outcome, tree) := change app.tree
  let app := app.changeJournal (·.changed tree)
  (outcome, { app with tree := tree })

/-- The settings of a name. -/
def session? (app : Application) (id : Text) : Option Session := app.sessions.lookup id

/-- The store of some settings. -/
def storeOf (app : Application) (s : Settings) : Store := app.storage.store s.file

/-- The application with another content of the store of some settings. -/
def putStore (app : Application) (s : Settings) (store : Store) : Application :=
  { app with storage := app.storage.put s.file store }

/-- Makes settings under a name. The name of their profile is no property, so it may be given a
value that changes nothing. -/
def make (app : Application) (id : Text) (s : Settings) : Application :=
  let app := app.putStore s (s.setUp (app.storeOf s))
  let session : Session := ⟨s, [("profile".toList, .text s.profile)]⟩
  { app with sessions := (id, session) :: app.sessions }.note
    (.settingsMade s.profile (s.file.getD Settings.defaultFile))

/-- The value of a property, or one that has been given to a name of no property. -/
def get (app : Application) (session : Session) (name : Text) : Except Fault Value :=
  match Property.ofAnyName? name with
  | some property =>
    .ok (session.settings.get app.tree (app.storeOf session.settings) property)
  | none => match session.extras.lookup name with
    | some value => if name.contains '.' then .error (.readOnly name.string) else .ok value
    | none => .error (.readOnly name.string)

/-- Gives a value to a property, or to a name of no property. -/
def set (app : Application) (id : Text) (session : Session) (name : Text) (value : Value) :
    Except Fault Unit × Application :=
  let s := session.settings
  match Property.ofName? name with
  | some property => match s.assign (app.storeOf s) property value with
    | .error fault => (.error fault, app)
    | .ok store =>
      let app := app.putStore s store
      match property, value with
      | .consoleLogLevel, .text word =>
        (.ok (), if Settings.isLevel word then app
          else app.note (.unknownLevel word (s.consoleLogLevel store)))
      | _, _ => (.ok (), app)
  | none =>
    if Property.groups.contains name.string then (.error (.readOnly name.string), app)
    else
      let session := { session with extras := (name, value) :: session.extras }
      (.ok (), { app with sessions := (id, session) :: app.sessions })

/-- Validates settings. -/
def validate (app : Application) (s : Settings) : Except Fault Validation × Application :=
  match s.validate app.tree (app.storeOf s) with
  | .error fault => (.error fault, app)
  | .ok v =>
    (.ok v, app.noteAll (v.errors.map fun finding => .settingsError finding.message))

/-- The game directory of some settings, if it is there. -/
def gameFolder? (app : Application) (s : Settings) : Option Folder := do
  let arena ← s.arenaPath (app.storeOf s)
  (Folder.ofPath app.tree arena).toOption

/-- Loads a table on its own, and gives its position. That the game directory has been opened is
said before its files are read. -/
def load (app : Application) (s : Settings) : Except Fault Nat × Application :=
  let store := app.storeOf s
  let folder := app.gameFolder? s
  let app := app.noteAll (folder.toList.map fun f => .folderOpened f.root)
  let (position, shared) := app.shared.load (s.loadTable app.levels app.tree store)
  let notices := match app.logStream, folder with
    | some _, some f => s.loadNotices app.levels app.tree store f.root
    | _, _ => []
  (position, { app with shared := shared }.noteAll notices)

/-- Loads the shared table if there is none, and gives its position. -/
def init (app : Application) (s : Settings) : Except Fault Nat × Application :=
  match app.shared.current with
  | some position => (.ok position, app)
  | none => match app.load s with
    | (.ok position, app) => (.ok position, { app with shared := app.shared.install position })
    | (.error fault, app) => (.error fault, app)

/-- What is said once logging has been set up and the log file is open. -/
def setupNotices (app : Application) (s : Settings) : List Log.Notice :=
  let store := app.storeOf s
  let console := if s.consoleLogging store then
      [.consoleLogging (s.consoleLogLevel store) (s.consoleUseColors store)]
    else []
  .loggingReady :: (console ++ [.fileLogging (Settings.absoluteLogFile app.tree)])

/-- Sets up logging, and gives the handlers that are attached. -/
def setUpLogging (app : Application) (s : Settings) :
    Except Fault (List Log.Handler) × Application :=
  let result := Log.setUp s (app.storeOf s) app.tree app.handlers
  let app := { app with
    tree := result.tree
    handlers := result.handlers
    logStream := if result.handlers.writeFile then some .placed else none }
  match result.fault with
  | some fault => (.error fault, app)
  | none => (.ok result.handlers.attached, app.noteAll (app.setupNotices s))

end Application

end ArenaData
