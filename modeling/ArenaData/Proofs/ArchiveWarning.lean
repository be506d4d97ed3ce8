import ArenaData.Proofs.DirectoryEntries
import ArenaData.Settings.Validation

/-!
# The warning of an absent container

The validation looks for the container by its exact name and takes whatever is there. The archive of
the game looks for it without regard to case, and only among the files of the directory. So a
container whose name is cased otherwise is opened although its absence has been warned of, and a
directory in its place is not opened although there was no warning.
-/

namespace ArenaData

/-! ## The archive of a game -/

namespace Archive

variable {tree : FileTree} {root : Path} {name : Text}

/-- The archive of a directory that is there, with a name for its container. -/
theorem ofGame_of_isDirectory (hdir : tree.isDirectory root = .ok true) (hname : name ≠ []) :
    ofGame tree root name = tree.fileNames root >>= fun names =>
      match lastMatch names name with
      | none => pure (layered [folder ⟨root, some names⟩])
      | some stored => Container.ofFile tree (root.child stored) >>= fun c =>
          pure (layered [folder ⟨root, some names⟩, container c]) := by
  have hopen : Folder.ofPath tree root = .ok ⟨root, none⟩ := by
    rw [Folder.ofPath, hdir]
    rfl
  rw [ofGame, hopen, ok_bind, if_neg (by simpa using hname)]
  simp only [Folder.resolve]
  cases tree.fileNames root with
  | error fault => rfl
  | ok names =>
    cases hmatch : lastMatch names name with
    | none => simp only [ok_bind, hmatch]
    | some stored => simp only [ok_bind, hmatch]

/-- Opening the archive gives the files of the directory and nothing else. -/
def LooseOnly (opened : Except Fault Archive) : Prop := ∃ f, opened = .ok (layered [folder f])

theorem looseOnly_iff (hdir : tree.isDirectory root = .ok true) (hname : name ≠ []) :
    LooseOnly (ofGame tree root name) ↔
      ∃ names, tree.fileNames root = .ok names ∧ ∀ stored ∈ names, stored.upper ≠ name.upper := by
  rw [ofGame_of_isDirectory hdir hname, LooseOnly]
  simp only [bind_eq_ok, ← Folder.lastMatch_eq_none_iff]
  constructor
  · rintro ⟨f, names, hnames, hopened⟩
    refine ⟨names, hnames, ?_⟩
    cases hmatch : lastMatch names name with
    | none => rfl
    | some stored =>
      rw [hmatch] at hopened
      obtain ⟨c, -, hlayers⟩ := bind_eq_ok.mp hopened
      cases hlayers
  · rintro ⟨names, hnames, hmatch⟩
    refine ⟨⟨root, some names⟩, names, hnames, ?_⟩
    rw [hmatch]
    rfl

end Archive

/-! ## The warning -/

namespace Settings

variable {s : Settings} {tree : FileTree} {store : Store} {arena : Path}

theorem archiveName_ne_nil (s : Settings) (store : Store) : s.archiveName store ≠ [] := by
  rw [archiveName]
  split
  · decide
  · rename_i hname
    simpa using hname

/-- The validation ends, and warns that the container is not there. -/
def WarnsOfArchive (s : Settings) (tree : FileTree) (store : Store) : Prop :=
  ∃ v path, s.validate tree store = .ok v ∧ .noArchive path ∈ v.warnings

theorem validateArena_of_isDirectory (harena : s.arenaPath store = some arena)
    (hdir : tree.isDirectory arena = .ok true) :
    s.validateArena tree store = (tree.exists? (arena.child (s.archiveName store))).map fun there =>
      ⟨[], if there then [] else [.noArchive (arena.child (s.archiveName store))]⟩ := by
  rw [validateArena, harena]
  simp only [hdir, ok_bind]
  cases tree.exists? (arena.child (s.archiveName store)) with
  | error fault => rfl
  | ok there => cases there with
    | true => rfl
    | false => rfl

theorem warnsOfArchive_iff (harena : s.arenaPath store = some arena)
    (hdir : tree.isDirectory arena = .ok true) :
    s.WarnsOfArchive tree store ↔
      tree.exists? (arena.child (s.archiveName store)) = .ok false ∧
        ∃ findings, s.validateExeData tree store = .ok findings := by
  have hvalidate := validateArena_of_isDirectory harena hdir
  rw [WarnsOfArchive]
  constructor
  · rintro ⟨v, path, hv, hwarning⟩
    obtain ⟨checked, hchecked, hv⟩ := bind_eq_ok.mp hv
    obtain ⟨findings, hfindings, hv⟩ := bind_eq_ok.mp hv
    obtain rfl := Except.ok.inj hv
    refine ⟨?_, findings, hfindings⟩
    rw [hvalidate] at hchecked
    cases hthere : tree.exists? (arena.child (s.archiveName store)) with
    | error fault =>
      rw [hthere] at hchecked
      cases hchecked
    | ok there =>
      rw [hthere] at hchecked
      obtain rfl := Except.ok.inj hchecked
      cases there with
      | true => cases hwarning
      | false => rfl
  · rintro ⟨hthere, findings, hfindings⟩
    rw [hthere] at hvalidate
    have hwarning : Finding.noArchive (arena.child (s.archiveName store)) ∈
        [Finding.noArchive (arena.child (s.archiveName store))] := List.mem_singleton_self _
    exact ⟨_, _, bind_eq_ok.mpr ⟨_, hvalidate, bind_eq_ok.mpr ⟨findings, hfindings, rfl⟩⟩, hwarning⟩

/-- If the settings are validated at all, the path to a container of an ordinary name is not too
long, and something is on it iff the directory has something of this name. -/
theorem exists?_of_validate {v : Validation} {place : Place}
    (harena : s.arenaPath store = some arena) (hdir : tree.isDirectory arena = .ok true)
    (hplace : tree.placeOf arena = .ok place)
    (hname : Path.IsFileName (s.archiveName store)) (hv : s.validate tree store = .ok v) :
    tree.exists? (arena.child (s.archiveName store)) =
      .ok (tree.node? (place ++ [s.archiveName store])).isSome := by
  have hvalidate := validateArena_of_isDirectory harena hdir
  obtain ⟨place', hplace', hnode⟩ := FileTree.exists_of_isDirectory hdir
  obtain rfl : place = place' := Except.ok.inj (hplace.symm.trans hplace')
  obtain ⟨checked, hchecked, -⟩ := bind_eq_ok.mp hv
  rw [FileTree.exists?, FileTree.at?_child_of_isFileName hplace hnode hname] at hvalidate ⊢
  split at hvalidate
  · rw [hchecked] at hvalidate
    cases hvalidate
  · rename_i hshort
    rw [if_neg hshort]
    rfl

/-- For a game directory that is there: the validation warns iff nothing is on the path to the
container and the other checks come to an end, and the archive has loose files only iff no file of
the directory has the capitals of the container's name. So the warning tells the truth iff these two
go together; for an ordinary name they part just when a directory has it and no file its capitals,
or nothing has it and a file has its capitals. -/
theorem warnsOfArchive_iff_looseOnly_iff (harena : s.arenaPath store = some arena)
    (hdir : tree.isDirectory arena = .ok true) :
    (s.WarnsOfArchive tree store ↔
      tree.exists? (arena.child (s.archiveName store)) = .ok false ∧
        ∃ findings, s.validateExeData tree store = .ok findings) ∧
    (Archive.LooseOnly (Archive.ofGame tree arena (s.archiveName store)) ↔
      ∃ names, tree.fileNames arena = .ok names ∧
        ∀ stored ∈ names, stored.upper ≠ (s.archiveName store).upper) ∧
    ∀ v names place, s.validate tree store = .ok v → tree.fileNames arena = .ok names →
      tree.placeOf arena = .ok place → Path.IsFileName (s.archiveName store) →
      (¬ (s.WarnsOfArchive tree store ↔
          Archive.LooseOnly (Archive.ofGame tree arena (s.archiveName store))) ↔
        (tree.node? (place ++ [s.archiveName store]) = some .directory ∧
            ∀ stored ∈ names, stored.upper ≠ (s.archiveName store).upper) ∨
          (tree.node? (place ++ [s.archiveName store]) = none ∧
            ∃ stored ∈ names, stored.upper = (s.archiveName store).upper)) := by
  have hwarns := warnsOfArchive_iff harena hdir
  have hloose := Archive.looseOnly_iff hdir (s.archiveName_ne_nil store)
  refine ⟨hwarns, hloose, ?_⟩
  intro v names place hv hnames hplace hname
  obtain ⟨checked, -, hrest⟩ := bind_eq_ok.mp hv
  obtain ⟨findings, hfindings, -⟩ := bind_eq_ok.mp hrest
  obtain ⟨place', hplace', -, -, hlisted⟩ := FileTree.mem_fileNames_iff hnames
  obtain rfl : place = place' := Except.ok.inj (hplace.symm.trans hplace')
  have hwarns : s.WarnsOfArchive tree store ↔
      tree.node? (place ++ [s.archiveName store]) = none := by
    rw [hwarns, exists?_of_validate harena hdir hplace hname hv,
      and_iff_left ⟨findings, hfindings⟩]
    simp
  have hloose : Archive.LooseOnly (Archive.ofGame tree arena (s.archiveName store)) ↔
      ∀ stored ∈ names, stored.upper ≠ (s.archiveName store).upper := by
    rw [hloose, hnames]
    simp
  rw [hwarns, hloose]
  cases hnode : tree.node? (place ++ [s.archiveName store]) with
  | none => simp
  | some node => cases node with
    | directory => simp
    | file content =>
      have hfile : s.archiveName store ∈ names :=
        (hlisted _).mpr (FileTree.hasFile_iff.mpr ⟨content, hnode⟩)
      have hmatch : ¬ ∀ stored ∈ names, stored.upper ≠ (s.archiveName store).upper :=
        fun h => h _ hfile rfl
      simp [hmatch]

/-- A game directory with a document and an empty container of the given name. -/
def gameWith (container : Text) : FileTree :=
  (((FileTree.empty []).put ["game".toList] .directory).put
    ["game".toList, defaultExeDataName] (.ofBytes "{}".toUTF8.data.toList)).put
    ["game".toList, container] (.ofBytes [0, 0])

/-- Settings that name the game directory and nothing else. -/
def storeOfGame (s : Settings) : Store :=
  s.setValue .empty "paths/arena".toList (.text "game".toList)

theorem fileNames_gameWith_named :
    (gameWith defaultArchiveName).fileNames (.ofText "game".toList) =
      .ok [defaultArchiveName, defaultExeDataName] := by
  have hfiles : (gameWith defaultArchiveName).nodes.toList.filterMap
      (FileTree.fileIn? ["game".toList]) = [defaultArchiveName, defaultExeDataName] := by rfl
  show Except.ok (((gameWith defaultArchiveName).nodes.toList.filterMap
    (FileTree.fileIn? ["game".toList])).mergeSort Text.le) = _
  rw [hfiles, List.mergeSort_of_pairwise (by decide)]

/-- The container is there under the very name that is looked for: no warning, and it is opened. -/
theorem warning_of_named_container :
    let s : Settings := ⟨"player".toList, none⟩
    let arena : Path := .ofText "game".toList
    let tree := gameWith defaultArchiveName
    s.arenaPath s.storeOfGame = some arena ∧ tree.isDirectory arena = .ok true ∧
      (s.WarnsOfArchive tree s.storeOfGame ↔
        Archive.LooseOnly (Archive.ofGame tree arena (s.archiveName s.storeOfGame))) := by
  intro s arena tree
  have harena : s.arenaPath s.storeOfGame = some arena := by rfl
  have hdir : tree.isDirectory arena = .ok true := by rfl
  have hplace : tree.placeOf arena = .ok ["game".toList] := by rfl
  have hv : s.validate tree s.storeOfGame = .ok ⟨[], []⟩ := by rfl
  have hnode : tree.node? ["game".toList, defaultArchiveName] = some (.ofBytes [0, 0]) := by rfl
  obtain ⟨-, -, hparts⟩ := warnsOfArchive_iff_looseOnly_iff harena hdir
  refine ⟨harena, hdir, ?_⟩
  by_contra hlie
  have hparted := (hparts _ _ _ hv fileNames_gameWith_named hplace (by decide)).mp hlie
  rcases hparted with ⟨hdirectory, -⟩ | ⟨hnone, -⟩
  · exact nomatch hnode.symm.trans hdirectory
  · exact nomatch hnode.symm.trans hnone

/-- The container is there in small letters: a warning that only loose files will be used, and it is
opened. -/
theorem warning_of_opened_container :
    let s : Settings := ⟨"player".toList, none⟩
    let arena : Path := .ofText "game".toList
    let tree := gameWith "global.bsa".toList
    s.arenaPath s.storeOfGame = some arena ∧ tree.isDirectory arena = .ok true ∧
      s.WarnsOfArchive tree s.storeOfGame ∧
      (∃ f c, Archive.ofGame tree arena (s.archiveName s.storeOfGame) =
        .ok (.layered [.folder f, .container c])) ∧
      ¬ (s.WarnsOfArchive tree s.storeOfGame ↔
        Archive.LooseOnly (Archive.ofGame tree arena (s.archiveName s.storeOfGame))) := by
  intro s arena tree
  have hdir : tree.isDirectory arena = .ok true := by rfl
  have hwarns : s.WarnsOfArchive tree s.storeOfGame :=
    ⟨⟨[], [.noArchive (arena.child defaultArchiveName)]⟩, _, rfl, List.mem_singleton_self _⟩
  have hnames : tree.fileNames arena = .ok [defaultExeDataName, "global.bsa".toList] := by
    have hfiles : tree.nodes.toList.filterMap (FileTree.fileIn? ["game".toList]) =
        [defaultExeDataName, "global.bsa".toList] := by rfl
    show Except.ok ((tree.nodes.toList.filterMap
      (FileTree.fileIn? ["game".toList])).mergeSort Text.le) = _
    rw [hfiles, List.mergeSort_of_pairwise (by decide)]
  have hopened : ∃ f c, Archive.ofGame tree arena (s.archiveName s.storeOfGame) =
      .ok (.layered [.folder f, .container c]) := by
    rw [Archive.ofGame_of_isDirectory hdir (s.archiveName_ne_nil _), hnames]
    exact ⟨_, _, rfl⟩
  refine ⟨rfl, hdir, hwarns, hopened, fun htruth => ?_⟩
  obtain ⟨f, c, hopened⟩ := hopened
  obtain ⟨g, hloose⟩ := htruth.mp hwarns
  exact nomatch hopened.symm.trans hloose

end Settings

end ArenaData
