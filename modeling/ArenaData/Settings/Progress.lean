import ArenaData.Log.Notice
import ArenaData.Settings.Load

/-!
# What a load says

A load from settings tells in the log how far it has come. This is found by running the load on the
same files with every read noted down.
-/

namespace ArenaData

open Log (Notice)

/-- A read that is noted down, the last one first. -/
def notedFetch (tree : FileTree) (file : GameFile) : Decoding (Archive × List Notice) Bytes :=
  fun (archive, said) =>
    match archive.read tree file.matching file.name with
    | (.ok data, archive) =>
      let size := data.length
      (.ok data, archive, .decoding file.name size :: .resourceRead file.name size :: said)
    | (.error fault, archive) => (.error fault, archive, said)

/-- What is said while a table is built. -/
def buildingNotices (tree : FileTree) (archive : Archive) (sideData : SideData) : List Notice :=
  let (outcome, _, said) := (Loader.build (notedFetch tree) sideData).run (archive, [])
  let ending : Notice := match outcome with
    | .ok table =>
      .loadDone table.templates.length table.questions.length table.dungeons.length
        table.nameChunks.length
    | .error fault => .loadFailed fault
  .loadStarted archive.describe :: (said.reverse ++ [ending])

/-- What is said about the container when the game directory has been opened. -/
def containerNotice (name : Text) (root : Path) (archive : Archive) : Notice :=
  match archive with
  | .layered [_, .container c] => .containerOpened c.label c.entries.length
  | _ => .noContainer name root

/-- What a load says after it has opened the game directory. -/
def Settings.loadNotices (s : Settings) (levels : Nat) (tree : FileTree) (store : Store)
    (root : Path) : List Notice :=
  let name := s.archiveName store
  match Archive.ofGame tree root name, s.exeDataPath store with
  | .ok archive, some exeData =>
    let rest := match tree.isFile exeData, SideData.ofFile levels tree exeData with
      | .ok true, .ok sideData => .sideDataFound exeData :: buildingNotices tree archive sideData
      | .ok true, .error _ => [.sideDataFound exeData]
      | _, _ => []
    containerNotice name root archive :: rest
  | _, _ => []

end ArenaData
