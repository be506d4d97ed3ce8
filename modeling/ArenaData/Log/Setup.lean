import ArenaData.Log.Format
import ArenaData.Settings.Basic

/-!
# Setting up logging

Logging is set up from the settings and the files as they are. All handlers that were attached
before are detached and closed first. Then the console gets a handler if it is wanted, and so does
the log file if it is wanted and can be opened; that it cannot is no fault.
-/

namespace ArenaData.Log

/-- Where log lines go. -/
inductive Sink where
  /-- To the console. -/
  | console
  /-- To a file, which makes room for a new one when it is full. -/
  | file (path : Path) (maxBytes backups : Nat)
  deriving DecidableEq, Repr

/-- What log lines look like. -/
inductive Style where
  /-- Lines of the console layout. -/
  | plain
  /-- The same with the level in color. -/
  | colored
  /-- Rows. -/
  | rows
  deriving DecidableEq, Repr

/-- A handler of log records. -/
structure Handler where
  /-- Where its lines go. -/
  sink : Sink
  /-- The least level that it takes. -/
  level : Int
  /-- What its lines look like. -/
  style : Style
  /-- The pattern of their times. -/
  pattern : Text
  deriving DecidableEq, Repr

/-- The handler writes to a file. -/
def Handler.writesFile (h : Handler) : Bool :=
  match h.sink with
  | .console => false
  | .file .. => true

/-- The handlers of the root logger. -/
structure Handlers where
  /-- Those that are attached, in order. -/
  attached : List Handler
  /-- Those that have been detached and closed. -/
  closed : List Handler
  deriving DecidableEq, Repr

/-- The level of the root logger. -/
def rootLevel : Int := debug

/-- The level of the logger of the package. -/
def packageLevel : Int := debug

/-- The level of loggers that would say too much. -/
def noisyLevel : Int := info

/-- The size at which the log file is changed. -/
def maxLogBytes : Nat := 10 * 1024 * 1024

/-- The number of old log files that are kept. -/
def backupCount : Nat := 5

namespace Handlers

/-- Nothing has been attached yet. -/
def empty : Handlers := ⟨[], []⟩

/-- Everything attached is detached and closed. -/
def detachAll (h : Handlers) : Handlers := ⟨[], h.closed ++ h.attached⟩

/-- A further handler is attached. -/
def attach (h : Handlers) (handler : Handler) : Handlers :=
  { h with attached := h.attached ++ [handler] }

/-- Some handler that is attached writes to a file. -/
def writeFile (h : Handlers) : Bool := h.attached.any Handler.writesFile

end Handlers

/-- The handler of the console. -/
def consoleHandler (word : Text) (useColors : Bool) : Except Fault Handler := do
  let level ← levelOf word
  pure ⟨.console, level, if useColors then .colored else .plain, consolePattern⟩

/-- The handler of the log file. -/
def fileHandler (tree : FileTree) : Handler :=
  ⟨.file (Settings.absoluteLogFile tree) maxLogBytes backupCount, debug, .rows, filePattern⟩

/-- Checks the path from the root of a path from the working directory. -/
def checkFromRoot (tree : FileTree) (p : Path) : Except Fault Unit :=
  FileTree.checkPath ⟨.root, tree.workPlace ++ p.parts⟩

/-- Opens the log file. It is looked for by its path from the root, which leads to the same place as
that from the working directory but may be too long. -/
def appendToLogFile (tree : FileTree) : Except Fault FileTree := do
  checkFromRoot tree Settings.logFile
  tree.appendFile Settings.logFile .empty

/-- Opens the log file and makes the directory around it, each if it can be done: the tree
afterwards, and whether the file is open. The directory is made by its path from the working
directory, which is never too long. -/
def openLogFile (tree : FileTree) : Bool × FileTree :=
  match tree.makeDirectories tree.workPlace 0 Settings.logFile.parent.parts with
  | (.error _, tree) => (false, tree)
  | (.ok (), tree) => match appendToLogFile tree with
    | .error _ => (false, tree)
    | .ok tree => (true, tree)

/-- What setting up logging leaves behind. -/
structure SetupResult where
  /-- The fault that ended it, if there was one. -/
  fault : Option Fault
  /-- The files. -/
  tree : FileTree
  /-- The handlers. -/
  handlers : Handlers

/-- Attaches the handler of the console if it is wanted. -/
def attachConsole (s : Settings) (store : Store) (handlers : Handlers) : Except Fault Handlers :=
  if s.consoleLogging store then do
    let handler ← consoleHandler (s.consoleLogLevel store) (s.consoleUseColors store)
    pure (handlers.attach handler)
  else .ok handlers

/-- Attaches the handler of the log file if it is wanted and the file can be opened. -/
def attachFile (s : Settings) (store : Store) (tree : FileTree) (handlers : Handlers) :
    FileTree × Handlers :=
  if s.fileLogging store then
    match openLogFile tree with
    | (true, tree) => (tree, handlers.attach (fileHandler tree))
    | (false, tree) => (tree, handlers)
  else (tree, handlers)

/-- Sets up logging. A word that cannot be a level ends it before any handler is attached. -/
def setUp (s : Settings) (store : Store) (tree : FileTree) (handlers : Handlers) : SetupResult :=
  let detached := handlers.detachAll
  match attachConsole s store detached with
  | .error fault => ⟨some fault, tree, detached⟩
  | .ok handlers =>
    let (tree, handlers) := attachFile s store tree handlers
    ⟨none, tree, handlers⟩

end ArenaData.Log
