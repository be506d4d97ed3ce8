import ArenaData.AssetTable.Loader
import ArenaData.Settings.Basic

/-!
# Loading what the settings name

The settings say where the game and the executable's data are. The game directory is opened before
the executable's data is looked for, so a fault in the former is the one that is seen. Whatever is
there can be read; a tree has no files that are withheld.
-/

namespace ArenaData

/-- The tables of the executable in a file. -/
def SideData.ofFile (levels : Nat) (tree : FileTree) (path : Path) : Except Fault SideData := do
  match ← tree.content? path with
  | some bytes => SideData.ofBytes levels bytes
  | none => .error (.resourceNotFound path.name path.parent.text)

/-- The asset table of the game that the settings name. -/
def Settings.loadTable (s : Settings) (levels : Nat) (tree : FileTree) (store : Store) :
    Except Fault AssetTable := do
  let some arena := s.arenaPath store | throw .arenaPathUnset
  let archive ← Archive.ofGame tree arena (s.archiveName store)
  let some exeData := s.exeDataPath store | throw .exeDataPathUnset
  let sideData ← SideData.ofFile levels tree exeData
  ((Loader.new archive sideData).load (Archive.reader tree)).1

end ArenaData
