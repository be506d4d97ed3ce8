import ArenaData.Settings.Basic

/-!
# Validation of settings

Settings are checked against the files that are there. What makes a load impossible is an error;
what only narrows down where files are looked for is a warning.
-/

namespace ArenaData

/-- What a validation may find. -/
inductive Finding where
  /-- The game directory is not there. -/
  | noArenaDirectory (path : Path)
  /-- The container is not there. -/
  | noArchive (path : Path)
  /-- The game directory is not set. -/
  | arenaPathUnset
  /-- The file of the executable's data is not there. -/
  | noExeData (path : Path)
  deriving DecidableEq, Repr

/-- The message of a finding. -/
def Finding.message : Finding → String
  | noArenaDirectory path => "Arena path does not exist: " ++ path.text.string
  | noArchive path =>
    "Archive not found, only loose files will be used: " ++ path.text.string
  | arenaPathUnset => "Arena path not set"
  | noExeData path => "Executable data file does not exist: " ++ path.text.string

/-- The outcome of a validation. -/
structure Validation where
  /-- What makes a load impossible. -/
  errors : List Finding
  /-- What does not. -/
  warnings : List Finding
  deriving DecidableEq, Repr

/-- Nothing makes a load impossible. -/
def Validation.isValid (v : Validation) : Bool := v.errors.isEmpty

namespace Settings

/-- What there is to say about the game directory. -/
def validateArena (s : Settings) (tree : FileTree) (store : Store) : Except Fault Validation := do
  match s.arenaPath store with
  | none => pure ⟨[], [.arenaPathUnset]⟩
  | some arena =>
    if ← tree.isDirectory arena then
      let archive := arena.child (s.archiveName store)
      if ← tree.exists? archive then pure ⟨[], []⟩ else pure ⟨[], [.noArchive archive]⟩
    else pure ⟨[.noArenaDirectory arena], []⟩

/-- What there is to say about the executable's data. -/
def validateExeData (s : Settings) (tree : FileTree) (store : Store) :
    Except Fault (List Finding) := do
  match s.exeDataPath store with
  | none => pure []
  | some path => if ← tree.isFile path then pure [] else pure [.noExeData path]

/-- The validation of settings. A path that cannot be looked at is a fault. -/
def validate (s : Settings) (tree : FileTree) (store : Store) : Except Fault Validation := do
  let arena ← s.validateArena tree store
  let exeData ← s.validateExeData tree store
  pure ⟨arena.errors ++ exeData, arena.warnings⟩

end Settings

end ArenaData
