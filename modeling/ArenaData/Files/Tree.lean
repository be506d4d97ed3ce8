import ArenaData.Bytes.Basic
import ArenaData.Files.Path
import Std.Data.TreeMap

/-!
# File trees

The files and directories that a program sees, each under the names on the way to it from the root.
A directory that holds something is itself in the tree. Names are told apart by their letters' case.
A path is followed name by name from its start, so `..` leads out of a directory only if that
directory is there. Names and paths that are too long are faults as soon as they are looked at; a
path with a zero character leads nowhere.

A tree does not say who may read what. The program is taken to be allowed to read every file and
every directory, and to find them as the tree has them for as long as a single step of it takes.
-/

namespace ArenaData

/-- The names on the way from the root to a file or directory. -/
abbrev Place := List Text

/-- What is at a place. -/
inductive Node where
  /-- A directory. -/
  | directory
  /-- A file with its content. -/
  | file (content : ByteArray)

namespace Node

/-- A file with the given content. -/
def ofBytes (content : Bytes) : Node := file ⟨content.toArray⟩

/-- The content of a file. -/
def content? : Node → Option Bytes
  | file content => some content.data.toList
  | directory => none

/-- A file and no directory. -/
def isFile : Node → Bool
  | file _ => true
  | directory => false

/-- A file is made up of its content. -/
theorem content?_ofBytes (content : Bytes) : (ofBytes content).content? = some content := by
  simp [ofBytes, content?]

/-- What has a content is a file. -/
theorem isSome_content? (node : Node) : node.content?.isSome = node.isFile := by
  cases node <;> rfl

end Node

/-- The files and directories of a machine, and where the program works. -/
structure FileTree where
  /-- What is where; the root itself is always a directory and not listed. -/
  nodes : Std.TreeMap Place Node
  /-- The working directory. -/
  workPlace : Place

namespace FileTree

/-- A tree with nothing but the directories on the way to the working directory. -/
def empty (workPlace : Place) : FileTree where
  nodes := .ofList <|
    (List.range workPlace.length).map fun i => (workPlace.take (i + 1), Node.directory)
  workPlace := workPlace

/-- What is at a place. -/
def node? (t : FileTree) (place : Place) : Option Node :=
  if place.isEmpty then some .directory else t.nodes[place]?

/-- The length of the longest name, in bytes. -/
def maxName : Nat := 255

/-- The length of the longest path, in bytes. -/
def maxPath : Nat := 4095

/-- A character that no path has. -/
def zero : Char := '\x00'

/-- The place that names lead to from `place`. -/
def follow (t : FileTree) (place : Place) : List Text → Except Fault Place
  | [] => .ok place
  | name :: rest =>
    match t.node? place with
    | some .directory =>
      if name = Path.dotDot then t.follow place.dropLast rest
      else
        let inner := place ++ [name]
        if maxName < name.utf8Size then .error (.nameTooLong (Path.text ⟨.root, inner⟩))
        else match t.node? inner with
          | some _ => t.follow inner rest
          | none => .error (.noDirectory (Path.text ⟨.root, inner⟩))
    | _ => .error (.notADirectory (Path.text ⟨.root, place⟩))

/-- Where a path starts. -/
def startOf (t : FileTree) (p : Path) : Place :=
  match p.anchor with
  | .here => t.workPlace
  | _ => []

/-- Checks that a path can lead anywhere at all. -/
def checkPath (p : Path) : Except Fault Unit :=
  if p.text.contains zero then .error (.zeroInPath p.text)
  else if maxPath < p.text.utf8Size then .error (.nameTooLong p.text)
  else .ok ()

/-- The place that a path leads to. -/
def placeOf (t : FileTree) (p : Path) : Except Fault Place := do
  checkPath p
  t.follow (t.startOf p) p.parts

/-- What a path leads to, if it leads anywhere. -/
def at? (t : FileTree) (p : Path) : Except Fault (Option Node) :=
  match t.placeOf p with
  | .ok place => .ok (t.node? place)
  | .error fault => if fault.isAbsence then .ok none else .error fault

/-- Something is there. -/
def exists? (t : FileTree) (p : Path) : Except Fault Bool := (t.at? p).map (·.isSome)

/-- A directory is there. -/
def isDirectory (t : FileTree) (p : Path) : Except Fault Bool :=
  (t.at? p).map (· matches some .directory)

/-- The content of the file at a path, if one is there. -/
def content? (t : FileTree) (p : Path) : Except Fault (Option Bytes) :=
  (t.at? p).map (·.bind Node.content?)

/-- A file is there. -/
def isFile (t : FileTree) (p : Path) : Except Fault Bool := (t.at? p).map (·.any Node.isFile)

/-- The size of the file at a path, in bytes; nothing counts as empty. -/
def fileSize (t : FileTree) (p : Path) : Nat :=
  match t.at? p with
  | .ok (some (.file content)) => content.size
  | _ => 0

/-- The name of an entry of `place`, if it is a file. -/
def fileIn? (place : Place) : Place × Node → Option Text
  | (entry, .file _) => if entry.dropLast = place then entry.getLast? else none
  | (_, .directory) => none

/-- The name of an entry of `place`, if it is a file or directory just below it. -/
def nameIn? (place : Place) (entry : Place × Node) : Option Text :=
  if entry.1.dropLast = place then entry.1.getLast? else none

/-- The names of the files in the directory at a path, sorted by their characters. To tell what is a
file, every entry of the directory is looked at on its own path. -/
def fileNames (t : FileTree) (p : Path) : Except Fault (List Text) := do
  let place ← t.placeOf p
  match t.node? place with
  | some .directory => do
    (t.nodes.toList.filterMap (nameIn? place)).forM fun name => checkPath (p.child name)
    .ok ((t.nodes.toList.filterMap (fileIn? place)).mergeSort Text.le)
  | some (.file _) => .error (.notADirectory p.text)
  | none => .error (.noDirectory p.text)

/-- The tree with something put at a place. -/
def put (t : FileTree) (place : Place) (node : Node) : FileTree :=
  { t with nodes := t.nodes.insert place node }

/-- What has been put at a place is found there, and nothing else has changed. -/
theorem node?_put (t : FileTree) (place other : Place) (node : Node) (h : place ≠ []) :
    (t.put place node).node? other = if other = place then some node else t.node? other := by
  by_cases ho : other = place
  · subst ho
    simp [node?, put, h]
  · by_cases he : other = []
    · simp [node?, he, Ne.symm h]
    · simp [node?, put, ho, he, Std.TreeMap.getElem?_insert, Ne.symm ho]

/-- The names from the first one on that does not lead from `place` to anything. -/
def missing (t : FileTree) (place : Place) : List Text → List Text
  | [] => []
  | name :: rest =>
    match t.follow place [name] with
    | .ok inner => t.missing inner rest
    | .error _ => name :: rest

/-- Makes the directories that names lead through from `place`, which is `length` bytes long, one
after the other. What has been made before a fault stays. A file in the way is a fault where the
next name is looked for in it, or where it is the last one. -/
def makeDirectories (t : FileTree) (place : Place) (length : Nat) :
    List Text → Except Fault Unit × FileTree
  | [] => (.ok (), t)
  | name :: rest =>
    let inner := place ++ [name]
    let path := Path.text ⟨.root, inner⟩
    let length := length + 1 + name.utf8Size
    if name.contains zero then (.error (.zeroInPath path), t)
    else if maxPath < length then (.error (.nameTooLong path), t)
    else match t.node? place with
      | some .directory =>
        if name = Path.dotDot then t.makeDirectories place.dropLast length rest
        else if maxName < name.utf8Size then (.error (.nameTooLong path), t)
        else match t.node? inner with
          | some .directory => t.makeDirectories inner length rest
          | some (.file _) =>
            if rest.isEmpty then (.error (.fileExists path), t)
            else t.makeDirectories inner length rest
          | none => (t.put inner .directory).makeDirectories inner length rest
      | _ => (.error (.notADirectory path), t)

/-- The number of directories around each other that are made at once. -/
def maxMade : Nat := 990

/-- Makes a directory and those around it. -/
def makeDirectory (t : FileTree) (p : Path) : Except Fault Unit × FileTree :=
  let start := t.startOf p
  if maxMade < (t.missing start p.parts).length then (.error .tooDeep, t)
  else t.makeDirectories start (Path.text ⟨.root, start⟩).utf8Size p.parts

/-- The place of a file, in a directory that is there. A path that ends at its start or with `..` is
a directory's. -/
def filePlace (t : FileTree) (p : Path) : Except Fault Place := do
  checkPath p
  let around ← t.follow (t.startOf p) p.parent.parts
  match t.node? around, p.parts.getLast? with
  | some .directory, some name =>
    if name = Path.dotDot then .error (.isADirectory p.text)
    else if maxName < name.utf8Size then .error (.nameTooLong p.text)
    else pure (around ++ [name])
  | some .directory, none => .error (.isADirectory p.text)
  | _, _ => .error (.notADirectory p.text)

/-- Writes a file; the directory around it has to be there. -/
def writeFile (t : FileTree) (p : Path) (content : Bytes) : Except Fault FileTree := do
  let place ← t.filePlace p
  match t.node? place with
  | some .directory => .error (.isADirectory p.text)
  | _ => pure (t.put place (.ofBytes content))

/-- Writes behind the end of a file, which is made if it is not there. -/
def appendFile (t : FileTree) (p : Path) (content : ByteArray) : Except Fault FileTree := do
  let place ← t.filePlace p
  match t.node? place with
  | some .directory => .error (.isADirectory p.text)
  | some (.file before) => pure (t.put place (.file (before ++ content)))
  | none => pure (t.put place (.file content))

/-- The outcome of a change, and the tree after it: the changed one, or `t` as it was. -/
def settle (t : FileTree) : Except Fault FileTree → Except Fault Unit × FileTree
  | .ok changed => (.ok (), changed)
  | .error fault => (.error fault, t)

/-- Writes a file and makes the directories around it, which stay if the file cannot be written. -/
def saveFile (t : FileTree) (p : Path) (content : Bytes) : Except Fault Unit × FileTree :=
  match t.makeDirectory p.parent with
  | (.ok (), t) => t.settle (t.writeFile p content)
  | (.error fault, t) => (.error fault, t)

/-- Removes a file, which has to be there. -/
def remove (t : FileTree) (p : Path) : Except Fault FileTree := do
  let place ← t.filePlace p
  match t.node? place with
  | none => .error (.noDirectory p.text)
  | some .directory => .error (.isADirectory p.text)
  | some (.file _) => pure { t with nodes := t.nodes.erase place }

/-- Moves what is at one place, with all that is below it, to another place. -/
def move (t : FileTree) (source target : Place) : FileTree :=
  { t with nodes := .ofList <| t.nodes.toList.map fun (place, node) =>
      (if source.isPrefixOf place then target ++ place.drop source.length else place, node) }

/-- Moves what is at a path, if there is anything, to another one. A file that is there already
goes; a directory there is a fault. -/
def displace (t : FileTree) (source target : Path) : Except Fault FileTree := do
  if ← t.exists? source then
    let t ← if ← t.exists? target then t.remove target else pure t
    pure (t.move (← t.placeOf source) (← t.filePlace target))
  else pure t

end FileTree

end ArenaData
