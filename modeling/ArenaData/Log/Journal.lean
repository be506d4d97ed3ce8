import ArenaData.Log.Setup

/-!
# The journal

What the program says about its own work goes to the log file as rows, as long as the handler of the
log file is attached. A row that would fill the file makes room first: every old file takes the name
of the next older one, the last of them goes, and the file itself becomes the newest old one. A
directory that has the name of the last one is in the way; then the row is lost, what has been moved
stays so, and the next row tries again.

The handler holds on to the file that it has opened. If that is removed the rows still go to it, out
of sight, until it is full and a new file takes its place.
-/

namespace ArenaData.Log

/-- The log file as its handler has it. -/
inductive Stream where
  /-- Not open; the next row opens it. -/
  | closed
  /-- Open, and in its place. -/
  | placed
  /-- Open, but removed from its place; it has this size. -/
  | removed (size : Nat)
  deriving DecidableEq, Repr

/-- The name of an old log file; the first one is the newest. -/
def oldFile (number : Nat) : Path :=
  Settings.logFile.parent.child (Settings.logFile.name ++ '.' :: Text.ofNat number)

/-- The moves that make room, each from one file to the next older one. -/
def moves : List (Path × Path) :=
  (List.range' 1 (backupCount - 1)).reverse.map (fun n => (oldFile n, oldFile (n + 1))) ++
    [(Settings.logFile, oldFile 1)]

/-- Moves a file beside the log file, if it is there, to the place of another one. That is done by
their paths from the root too. -/
def makeWay (tree : FileTree) (source target : Path) : Except Fault FileTree := do
  if (tree.exists? source).toOption.getD false then checkFromRoot tree target
  tree.displace source target

/-- Makes room for a new log file. The moves before one that fails have been made. -/
def makeRoom (tree : FileTree) : List (Path × Path) → Except Fault Unit × FileTree
  | [] => (.ok (), tree)
  | (source, target) :: rest =>
    match makeWay tree source target with
    | .ok tree => makeRoom tree rest
    | .error fault => (.error fault, tree)

/-- The log file and its stream together. -/
structure Journal where
  /-- The files. -/
  tree : FileTree
  /-- The stream. -/
  stream : Stream

namespace Journal

/-- The journal with its file open, if it can be opened. -/
def opened (j : Journal) : Except Fault Journal :=
  match j.stream with
  | .closed => (appendToLogFile j.tree).map fun tree => ⟨tree, .placed⟩
  | _ => .ok j

/-- The size of the file. -/
def size (j : Journal) : Nat :=
  match j.stream with
  | .closed => 0
  | .placed => j.tree.fileSize Settings.logFile
  | .removed size => size

/-- There is a directory where the file should be. -/
def isBlocked (j : Journal) : Bool :=
  (j.tree.isDirectory Settings.logFile).toOption.getD false

/-- Makes room for `length` more characters, and says whether the row that they are can be
written. -/
def prepared (j : Journal) (length : Nat) : Bool × Journal :=
  if j.isBlocked then (true, j)
  else match j.opened with
    | .error _ => (false, j)
    | .ok j =>
      if j.size + length < maxLogBytes then (true, j)
      else
        let (outcome, tree) := makeRoom j.tree moves
        (outcome.isOk, ⟨tree, .closed⟩)

/-- Writes bytes behind the end of the file. -/
def write (j : Journal) (bytes : ByteArray) : Journal :=
  match j.stream with
  | .closed => j
  | .placed => { j with tree := (j.tree.settle (j.tree.appendFile Settings.logFile bytes)).2 }
  | .removed size => { j with stream := .removed (size + bytes.size) }

/-- Writes the row of a record. -/
def append (j : Journal) (r : Record) : Journal :=
  let line := row filePattern r ++ ['\n']
  let (writable, j) := j.prepared line.length
  if writable then
    match j.opened with
    | .ok j => j.write line.string.toUTF8
    | .error _ => j
  else j

/-- The journal after the files have been changed from outside. -/
def changed (j : Journal) (tree : FileTree) : Journal :=
  let stillThere := (tree.isFile Settings.logFile).toOption.getD false
  match j.stream with
  | .placed => ⟨tree, if stillThere then .placed else .removed j.size⟩
  | stream => ⟨tree, stream⟩

end Journal

end ArenaData.Log
