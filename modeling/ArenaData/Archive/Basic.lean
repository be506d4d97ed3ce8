import ArenaData.Archive.Container
import ArenaData.Text.Upper

/-!
# Archives

An archive finds resources by name. It may be a collection in memory, the files of a directory, a
container, or layers of archives of which the first that has a name counts. Names are matched
exactly, or without regard to the case of letters; then the last stored name with the same capitals
is meant.

The directory listing that such a match needs is made once and kept, so it does not see files that
come or go later. Operations that may make it therefore give the archive back as it is afterwards,
and they take the tree of files as it is at that time.
-/

namespace ArenaData

/-- How a name is compared with the stored ones. -/
inductive Matching where
  /-- Character by character. -/
  | exact
  /-- By their capitals. -/
  | anyCase
  deriving DecidableEq, Repr

/-- The files of one directory. -/
structure Folder where
  /-- The directory. -/
  root : Path
  /-- The names that were there when they were first listed. -/
  listing : Option (List Text)
  deriving DecidableEq, Repr

/-- A collection of named resources. -/
inductive Archive where
  /-- Resources in memory, each name once. -/
  | memory (files : List (Text × Bytes))
  /-- The files of a directory. -/
  | folder (f : Folder)
  /-- The entries of a container. -/
  | container (c : Container)
  /-- Several archives, the first of which goes before the others. -/
  | layered (layers : List Archive)
  deriving Inhabited

/-- The last of the names whose capitals are those of `name`. -/
def lastMatch (names : List Text) (name : Text) : Option Text :=
  let capitals := name.upper
  names.reverse.find? (·.upper == capitals)

namespace Folder

/-- The files of a directory, which has to be there. -/
def ofPath (tree : FileTree) (root : Path) : Except Fault Folder := do
  if ← tree.isDirectory root then pure ⟨root, none⟩
  else throw (.resourceNotFound root.text "file system".toList)

/-- The stored name with the capitals of `name`. -/
def resolve (tree : FileTree) (name : Text) (f : Folder) : Except Fault (Option Text) × Folder :=
  match f.listing with
  | some names => (.ok (lastMatch names name), f)
  | none => match tree.fileNames f.root with
    | .ok names => (.ok (lastMatch names name), { f with listing := some names })
    | .error fault => (.error fault, f)

/-- A name leads from the directory to a file. -/
def hasFile (tree : FileTree) (name : Text) (f : Folder) : Except Fault Bool :=
  tree.isFile (f.root.child name)

/-- The content of the file that a name leads to from the directory. -/
def content? (tree : FileTree) (name : Text) (f : Folder) : Except Fault (Option Bytes) :=
  tree.content? (f.root.child name)

end Folder

namespace Archive

/-- The collection of files given one after the other: a name that comes twice keeps its place and
takes the later data. -/
def ofFiles (files : List (Text × Bytes)) : Archive :=
  let data : Std.TreeMap (List Char) Bytes := .ofList files
  memory ((Keyed.firsts Prod.fst files).map fun file => (file.1, data.getD file.1 file.2))

/-- The kind of an archive. -/
def kind : Archive → String
  | memory _ => "MemoryArchive"
  | folder _ => "DirectoryArchive"
  | container _ => "BsaArchive"
  | layered _ => "LayeredArchive"

mutual

/-- What an archive is called in messages. -/
def describe : Archive → Text
  | memory files => (memory files).kind.toList
  | folder f => f.root.text
  | container c => c.label
  | layered layers => Text.joinWith " + ".toList (describeLayers layers)

/-- What the layers of an archive are called. -/
def describeLayers : List Archive → List Text
  | [] => []
  | layer :: rest => layer.describe :: describeLayers rest

end

mutual

/-- The names of all resources. -/
def names (tree : FileTree) : Archive → Except Fault (List Text)
  | memory files => .ok (files.map Prod.fst)
  | folder f => tree.fileNames f.root
  | container c => .ok c.names
  | layered layers => do
    let names ← layerNames tree layers
    pure (Keyed.firsts id names)

/-- The names of all resources of all layers. -/
def layerNames (tree : FileTree) : List Archive → Except Fault (List Text)
  | [] => .ok []
  | layer :: rest => do
    let names ← layer.names tree
    let others ← layerNames tree rest
    pure (names ++ others)

end

/-- The stored name with the capitals of `name`. -/
def resolve (tree : FileTree) (name : Text) (a : Archive) : Except Fault (Option Text) × Archive :=
  match a with
  | folder f =>
    let (stored, f) := f.resolve tree name
    (stored, folder f)
  | a => ((a.names tree).map (lastMatch · name), a)

mutual

/-- The archive has the resource. -/
def contains (tree : FileTree) (how : Matching) (name : Text) :
    Archive → Except Fault Bool × Archive
  | layered layers =>
    let (found, layers) := anyContains tree how name layers
    (found, layered layers)
  | a => match how with
    | .anyCase =>
      let (stored, a) := a.resolve tree name
      (stored.map Option.isSome, a)
    | .exact => match a with
      | folder f => (f.hasFile tree name, a)
      | a => ((a.names tree).map (·.contains name), a)

/-- Some layer has the resource. Layers behind the first one that has it are not asked. -/
def anyContains (tree : FileTree) (how : Matching) (name : Text) :
    List Archive → Except Fault Bool × List Archive
  | [] => (.ok false, [])
  | layer :: rest =>
    match layer.contains tree how name with
    | (.ok false, layer) =>
      let (found, rest) := anyContains tree how name rest
      (found, layer :: rest)
    | (found, layer) => (found, layer :: rest)

end

/-- The data under a stored name, in an archive without layers. -/
def stored? (tree : FileTree) (name : Text) : Archive → Except Fault (Option Bytes)
  | memory files => .ok (files.lookup name)
  | folder f => f.content? tree name
  | container c => .ok (c.find? name)
  | layered _ => .ok none

/-- The data of a resource of an archive without layers. A name that matches nothing is tried as it
is. -/
def readPlain (tree : FileTree) (how : Matching) (name : Text) (a : Archive) :
    Except Fault Bytes × Archive :=
  let answer (a : Archive) (name? : Option Text) : Except Fault Bytes × Archive :=
    match a.stored? tree (name?.getD name) with
    | .ok (some data) => (.ok data, a)
    | .ok none => (.error (.resourceNotFound name a.describe), a)
    | .error fault => (.error fault, a)
  match how with
  | .exact => answer a (some name)
  | .anyCase => match a.resolve tree name with
    | (.ok stored, a) => answer a stored
    | (.error fault, a) => (.error fault, a)

mutual

/-- The data of a resource if the archive has it, and nothing if not. -/
def consult (tree : FileTree) (how : Matching) (name : Text) :
    Archive → Except Fault (Option Bytes) × Archive
  | layered layers =>
    let (data, layers) := consultLayers tree how name layers
    (data, layered layers)
  | a => match a.contains tree how name with
    | (.ok false, a) => (.ok none, a)
    | (.ok true, a) =>
      let (data, a) := a.readPlain tree how name
      (data.map some, a)
    | (.error fault, a) => (.error fault, a)

/-- The data of a resource in the first layer that has it. -/
def consultLayers (tree : FileTree) (how : Matching) (name : Text) :
    List Archive → Except Fault (Option Bytes) × List Archive
  | [] => (.ok none, [])
  | layer :: rest =>
    match layer.consult tree how name with
    | (.ok none, layer) =>
      let (data, rest) := consultLayers tree how name rest
      (data, layer :: rest)
    | (data, layer) => (data, layer :: rest)

end

/-- The data of a resource. -/
def read (tree : FileTree) (how : Matching) (name : Text) (a : Archive) :
    Except Fault Bytes × Archive :=
  match a with
  | layered _ => match a.consult tree how name with
    | (.ok (some data), a) => (.ok data, a)
    | (.ok none, a) => (.error (.resourceNotFound name a.describe), a)
    | (.error fault, a) => (.error fault, a)
  | a => a.readPlain tree how name

/-- The data under an exact name, and nothing if there is none. -/
def readExact (tree : FileTree) (name : Text) (a : Archive) :
    Except Fault (Option Bytes) × Archive :=
  match a with
  | layered _ => a.consult tree .exact name
  | a => (a.stored? tree name, a)

/-- The layers of an archive that has some. -/
def layers? : Archive → Option (List Archive)
  | layered layers => some layers
  | _ => none

/-- The entries of a container. -/
def entries? : Archive → Option (List Entry)
  | container c => some c.entries
  | _ => none

/-- The archive of a game directory: its files, and behind them the container of the given name, if
the directory has one. -/
def ofGame (tree : FileTree) (root : Path) (containerName : Text) : Except Fault Archive := do
  let f ← Folder.ofPath tree root
  if containerName.isEmpty then pure (layered [folder f])
  else
    let (stored, f) := f.resolve tree containerName
    match ← stored with
    | none => pure (layered [folder f])
    | some name =>
      let c ← Container.ofFile tree (f.root.child name)
      pure (layered [folder f, container c])

end Archive

end ArenaData
