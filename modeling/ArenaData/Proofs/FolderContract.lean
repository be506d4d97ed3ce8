import ArenaData.Proofs.ArchiveTree
import ArenaData.Proofs.DirectoryEntries

/-!
# What a folder serves

A folder lists the files of its directory, but the name that it is asked for is a path from there.
Names without a slash lead to the files that are listed and to no others. A name with a slash is
never listed, and still it is served if it leads to a file, inside the directory or outside of it.
-/

namespace ArenaData

/-! ## Capitals and slashes -/

namespace Text

theorem mem_of_coveringRun? {n : Nat} {runs : List CaseRun} {run : CaseRun}
    (h : coveringRun? n runs = some run) : run ∈ runs ∧ run.first ≤ n := by
  induction runs with
  | nil => cases h
  | cons other runs ih =>
    rw [coveringRun?] at h
    split at h
    · cases h
    · rename_i hfirst
      split at h
      · obtain rfl := Option.some.inj h
        exact ⟨List.mem_cons_self, Nat.le_of_not_lt hfirst⟩
      · obtain ⟨hmem, hle⟩ := ih h
        exact ⟨List.mem_cons_of_mem _ hmem, hle⟩

theorem mem_of_longCapital? {n : Nat} {capitals : List (Nat × List Nat)} {points : List Nat}
    (h : longCapital? n capitals = some points) : (n, points) ∈ capitals := by
  induction capitals with
  | nil => cases h
  | cons other capitals ih =>
    rw [longCapital?] at h
    split at h
    · cases h
    · split at h
      · rename_i heq
        obtain rfl := Option.some.inj h
        rw [heq]
        exact List.mem_cons_self
      · exact List.mem_cons_of_mem _ (ih h)

/-- No run of letters has capitals as low as the slash. -/
theorem slash_lt_of_mem_caseRuns :
    ∀ run ∈ caseRuns, (Path.slash.toNat : Int) < run.first + run.shift := by
  decide +kernel

theorem slash_notMem_of_mem_longCapitals :
    ∀ capital ∈ longCapitals, Path.slash ∉ capital.2.map Char.ofNat := by
  decide +kernel

/-- A number that is no character's stands for the character zero. -/
theorem toNat_ofNat (n : Nat) : (Char.ofNat n).toNat = n ∨ (Char.ofNat n).toNat = 0 := by
  by_cases hvalid : n.isValidChar
  · left
    rw [Char.ofNat, dif_pos hvalid]
    rfl
  · right
    rw [Char.ofNat, dif_neg hvalid]
    rfl

theorem slash_mem_upperChar_of_lt :
    ∀ n < 0x80, Path.slash ∈ upperChar (Char.ofNat n) ↔ Char.ofNat n = Path.slash := by
  decide +kernel

theorem slash_mem_upperChar_iff {c : Char} : Path.slash ∈ upperChar c ↔ c = Path.slash := by
  by_cases hlow : c.toNat < 0x80
  · have h := slash_mem_upperChar_of_lt c.toNat hlow
    rwa [Char.ofNat_toNat] at h
  · have hne : c ≠ Path.slash := by
      rintro rfl
      exact hlow (by decide)
    refine iff_of_false (fun hmem => ?_) hne
    rw [upperChar, if_neg hlow] at hmem
    split at hmem
    · rename_i run hrun
      obtain ⟨hruns, hfirst⟩ := mem_of_coveringRun? hrun
      have hlt := slash_lt_of_mem_caseRuns run hruns
      have hchar := congrArg Char.toNat (List.mem_singleton.mp hmem)
      rcases toNat_ofNat ((c.toNat : Int) + run.shift).toNat with hcode | hcode
      · omega
      · rw [hcode] at hchar
        cases hchar
    · split at hmem
      · rename_i points hpoints
        exact slash_notMem_of_mem_longCapitals _ (mem_of_longCapital? hpoints) hmem
      · exact hne (List.mem_singleton.mp hmem).symm

/-- The slash is its own capital and that of no other character. -/
theorem slash_mem_upper_iff {t : Text} : Path.slash ∈ t.upper ↔ Path.slash ∈ t := by
  rw [upper, List.mem_flatMap]
  simp only [slash_mem_upperChar_iff]
  exact ⟨fun ⟨c, hmem, hc⟩ => hc ▸ hmem, fun hmem => ⟨_, hmem, rfl⟩⟩

end Text

/-! ## Names that lead to files -/

namespace Folder

variable {tree : FileTree} {f : Folder} {name : Text} {names : List Text}

/-- The name is a path with a slash in it, and it leads from the directory to a file. -/
def Bypasses (tree : FileTree) (name : Text) (f : Folder) : Prop :=
  Path.slash ∈ name ∧ f.hasFile tree name = .ok true

/-- A name leads to a file iff it is listed or bypasses the listing. -/
theorem hasFile_iff (hsound : tree.Sound) (hnames : tree.fileNames f.root = .ok names) :
    f.hasFile tree name = .ok true ↔ name ∈ names ∨ f.Bypasses tree name := by
  by_cases hslash : Path.slash ∈ name
  · have hunlisted : name ∉ names := fun hmem =>
      (hsound.isFileName_of_mem hnames hmem).slash_notMem hslash
    rw [Bypasses, and_iff_right hslash, or_iff_right hunlisted]
  · rw [Bypasses, or_iff_left (fun h => hslash h.1)]
    exact hsound.isFile_child_iff hnames hslash

/-- The content of a listed file is what the directory has under its name. -/
theorem content?_of_mem {place : Place} {data : Bytes} (hsound : tree.Sound)
    (hplace : tree.placeOf f.root = .ok place) (hdir : tree.node? place = some .directory)
    (hnames : tree.fileNames f.root = .ok names) (hname : name ∈ names)
    (h : f.content? tree name = .ok (some data)) :
    (tree.node? (place ++ [name])).bind Node.content? = some data := by
  have hfile := hsound.isFileName_of_mem hnames hname
  rw [content?, FileTree.content?, FileTree.at?_child_of_isFileName hplace hdir hfile] at h
  split at h
  · cases h
  · exact Except.ok.inj h

end Folder

/-! ## Look-ups -/

namespace Archive

open Folder (Bypasses)

variable {tree : FileTree} {f : Folder} {name : Text} {names : List Text} {data : Bytes}

theorem contains_anyCase_iff (hcurrent : f.Current tree)
    (hnames : tree.fileNames f.root = .ok names) :
    ((folder f).contains tree .anyCase name).1 = .ok true ↔
      ∃ stored ∈ names, stored.upper = name.upper := by
  have hcontains : ((folder f).contains tree .anyCase name).1 =
      (f.resolve tree name).1.map Option.isSome := rfl
  rw [hcontains, Folder.resolve_of_current hcurrent, hnames, ← Folder.isSome_lastMatch_iff]
  exact ⟨Except.ok.inj, congrArg Except.ok⟩

theorem read_exact_iff :
    ((folder f).read tree .exact name).1 = .ok data ↔ f.content? tree name = .ok (some data) := by
  have hread : (folder f).read tree .exact name = (folder f).readPlain tree .exact name := rfl
  rw [hread, readPlain]
  simp only [Option.getD_some, stored?]
  cases f.content? tree name with
  | error fault => simp
  | ok data? => cases data? with
    | none => simp
    | some data => simp

theorem read_anyCase_iff (hcurrent : f.Current tree)
    (hnames : tree.fileNames f.root = .ok names) :
    ((folder f).read tree .anyCase name).1 = .ok data ↔
      f.content? tree ((lastMatch names name).getD name) = .ok (some data) := by
  have hresolve := Folder.resolve_of_current hcurrent name
  have hroot := f.resolve_root tree name
  have hread : (folder f).read tree .anyCase name = (folder f).readPlain tree .anyCase name := rfl
  rw [hread, readPlain]
  simp only [resolve]
  cases hafter : f.resolve tree name with
  | mk stored after =>
    rw [hafter] at hresolve hroot
    rw [hnames] at hresolve
    obtain rfl : stored = .ok (lastMatch names name) := hresolve
    have hsame (stored : Text) : after.content? tree stored = f.content? tree stored := by
      rw [Folder.content?, Folder.content?, show after.root = f.root from hroot]
    simp only [stored?, hsame]
    cases f.content? tree ((lastMatch names name).getD name) with
    | error fault => simp
    | ok data? => cases data? with
      | none => simp
      | some data => simp

/-! ## Runs of look-ups -/

/-- A look-up that an archive is asked for. -/
inductive Lookup where
  | names
  | contains (how : Matching) (name : Text)
  | read (how : Matching) (name : Text)

/-- The archive after a look-up. -/
def afterLookup (tree : FileTree) (a : Archive) : Lookup → Archive
  | .names => a
  | .contains how name => (a.contains tree how name).2
  | .read how name => (a.read tree how name).2

/-- The archive after look-ups one after the other. -/
def afterLookups (tree : FileTree) (a : Archive) (lookups : List Lookup) : Archive :=
  lookups.foldl (afterLookup tree) a

theorem snd_readPlain_folder (tree : FileTree) (how : Matching) (name : Text) (f : Folder) :
    ((folder f).readPlain tree how name).2 = folder f ∨
      ((folder f).readPlain tree how name).2 = folder (f.resolve tree name).2 := by
  cases how with
  | exact =>
    left
    rw [readPlain]
    simp only [Option.getD_some, stored?]
    cases f.content? tree name with
    | error fault => rfl
    | ok data? => cases data? with
      | none => rfl
      | some data => rfl
  | anyCase =>
    right
    rw [readPlain]
    simp only [resolve]
    cases f.resolve tree name with
    | mk stored after => cases stored with
      | error fault => rfl
      | ok stored =>
        simp only [stored?]
        cases after.content? tree (stored.getD name) with
        | error fault => rfl
        | ok data? => cases data? with
          | none => rfl
          | some data => rfl

/-- A look-up leaves a folder as it was, or with a listing made now. -/
theorem afterLookup_folder (hcurrent : f.Current tree) (lookup : Lookup) :
    ∃ after, (folder f).afterLookup tree lookup = folder after ∧ after.root = f.root ∧
      after.Current tree := by
  have hsame : ∃ after, folder f = folder after ∧ after.root = f.root ∧ after.Current tree :=
    ⟨f, rfl, rfl, hcurrent⟩
  have hlisted (name : Text) : ∃ after, folder (f.resolve tree name).2 = folder after ∧
      after.root = f.root ∧ after.Current tree :=
    ⟨_, rfl, f.resolve_root tree name, hcurrent.resolve name⟩
  cases lookup with
  | names => exact hsame
  | contains how name => cases how with
    | exact => exact hsame
    | anyCase => exact hlisted name
  | read how name =>
    have hread : (folder f).afterLookup tree (.read how name) =
      ((folder f).readPlain tree how name).2 := rfl
    rw [hread]
    rcases snd_readPlain_folder tree how name f with hafter | hafter
    · rw [hafter]
      exact hsame
    · rw [hafter]
      exact hlisted name

theorem afterLookups_folder (hcurrent : f.Current tree) (lookups : List Lookup) :
    ∃ after, (folder f).afterLookups tree lookups = folder after ∧ after.root = f.root ∧
      after.Current tree := by
  induction lookups generalizing f with
  | nil => exact ⟨f, rfl, rfl, hcurrent⟩
  | cons lookup lookups ih =>
    obtain ⟨next, hnext, hroot, hcurrent⟩ := afterLookup_folder hcurrent lookup
    obtain ⟨after, hafter, hafterRoot, hcurrent⟩ := ih hcurrent
    refine ⟨after, ?_, hafterRoot.trans hroot, hcurrent⟩
    rw [← hafter, afterLookups, List.foldl_cons, hnext]
    rfl

/-! ## The contract -/

/-- Under the name the folder has and gives out what is listed, and read without regard to case it
gives out what it has without regard to case. -/
structure Serves (tree : FileTree) (names : List Text) (name : Text) (f : Folder) : Prop where
  contains : ((folder f).contains tree .exact name).1 = .ok true ↔ name ∈ names
  read : (∃ data, ((folder f).read tree .exact name).1 = .ok data) ↔ name ∈ names
  readAnyCase : (∃ data, ((folder f).read tree .anyCase name).1 = .ok data) ↔
    ((folder f).contains tree .anyCase name).1 = .ok true

theorem exists_read_exact_iff : (∃ data, ((folder f).read tree .exact name).1 = .ok data) ↔
    f.hasFile tree name = .ok true := by
  simp only [read_exact_iff]
  exact FileTree.exists_content?_iff

/-- Read without regard to case, a name leads to a listed file with its capitals, or it bypasses
the listing. -/
theorem exists_read_anyCase_iff (hsound : tree.Sound) (hcurrent : f.Current tree)
    (hnames : tree.fileNames f.root = .ok names) :
    (∃ data, ((folder f).read tree .anyCase name).1 = .ok data) ↔
      ((folder f).contains tree .anyCase name).1 = .ok true ∨ f.Bypasses tree name := by
  simp only [read_anyCase_iff hcurrent hnames, contains_anyCase_iff hcurrent hnames]
  have hread : (∃ data, f.content? tree ((lastMatch names name).getD name) = .ok (some data)) ↔
      f.hasFile tree ((lastMatch names name).getD name) = .ok true := FileTree.exists_content?_iff
  rw [hread, Folder.hasFile_iff hsound hnames, ← Folder.isSome_lastMatch_iff]
  cases hmatch : lastMatch names name with
  | none =>
    have hunlisted := Folder.notMem_of_lastMatch hmatch
    simp [hunlisted]
  | some stored =>
    obtain ⟨hstored, -⟩ := Folder.lastMatch_eq_some hmatch
    exact iff_of_true (Or.inl hstored) (Or.inl rfl)

/-- A name that bypasses the listing is not even listed without regard to case. -/
theorem contains_anyCase_of_bypasses (hsound : tree.Sound) (hcurrent : f.Current tree)
    (hnames : tree.fileNames f.root = .ok names) (h : f.Bypasses tree name) :
    ((folder f).contains tree .anyCase name).1 ≠ .ok true := by
  rw [ne_eq, contains_anyCase_iff hcurrent hnames]
  rintro ⟨stored, hstored, hupper⟩
  have hslash : Path.slash ∈ stored := by
    rw [← Text.slash_mem_upper_iff, hupper, Text.slash_mem_upper_iff]
    exact h.1
  exact (hsound.isFileName_of_mem hnames hstored).slash_notMem hslash

theorem serves_iff_not_bypasses (hsound : tree.Sound) (hcurrent : f.Current tree)
    (hnames : tree.fileNames f.root = .ok names) :
    Serves tree names name f ↔ ¬ f.Bypasses tree name := by
  constructor
  · intro hserves hbypasses
    have hlisted : name ∈ names := hserves.contains.mp hbypasses.2
    exact (hsound.isFileName_of_mem hnames hlisted).slash_notMem hbypasses.1
  · intro hbypasses
    have hfile : f.hasFile tree name = .ok true ↔ name ∈ names := by
      rw [Folder.hasFile_iff hsound hnames, or_iff_left hbypasses]
    refine ⟨hfile, exists_read_exact_iff.trans hfile, ?_⟩
    rw [exists_read_anyCase_iff hsound hcurrent hnames, or_iff_left hbypasses]

/-- What is read under a name without a slash is a listed file that the name means. -/
theorem read_of_slash_notMem {place : Place} {how : Matching} (hsound : tree.Sound)
    (hcurrent : f.Current tree) (hplace : tree.placeOf f.root = .ok place)
    (hdir : tree.node? place = some .directory) (hnames : tree.fileNames f.root = .ok names)
    (hslash : Path.slash ∉ name) (h : ((folder f).read tree how name).1 = .ok data) :
    ∃ stored ∈ names, how.Agrees stored name ∧
      (tree.node? (place ++ [stored])).bind Node.content? = some data := by
  have hlisted {stored : Text} (hstored : Path.slash ∉ stored)
      (hcontent : f.content? tree stored = .ok (some data)) : stored ∈ names := by
    have hfile : f.hasFile tree stored = .ok true :=
      FileTree.exists_content?_iff.mp ⟨data, hcontent⟩
    exact ((Folder.hasFile_iff hsound hnames).mp hfile).resolve_right fun h => hstored h.1
  have hfound {stored : Text} (hmem : stored ∈ names)
      (hcontent : f.content? tree stored = .ok (some data)) :=
    Folder.content?_of_mem hsound hplace hdir hnames hmem hcontent
  cases how with
  | exact =>
    have hcontent := read_exact_iff.mp h
    have hmem := hlisted hslash hcontent
    exact ⟨name, hmem, rfl, hfound hmem hcontent⟩
  | anyCase =>
    have hcontent := (read_anyCase_iff hcurrent hnames).mp h
    cases hmatch : lastMatch names name with
    | none =>
      rw [hmatch, Option.getD_none] at hcontent
      exact absurd (hlisted hslash hcontent) (Folder.notMem_of_lastMatch hmatch)
    | some stored =>
      rw [hmatch, Option.getD_some] at hcontent
      obtain ⟨hmem, hupper⟩ := Folder.lastMatch_eq_some hmatch
      exact ⟨stored, hmem, hupper, hfound hmem hcontent⟩

/-- The contract of a folder, on a sound tree and after whatever look-ups. It lists the files of its
directory, unless the path to an entry is too long. For a name that does not bypass the listing it
has, and gives out, just what it lists; a name without a slash reaches nothing but files of the
directory. A name that bypasses the listing is not listed, not even without regard to case, and all
the same it is read in either way of matching. -/
theorem serves_listed {start : Folder} {root : Path} (hsound : tree.Sound)
    (hopen : Folder.ofPath tree root = .ok start) (lookups : List Lookup) :
    ∃ f place, (folder start).afterLookups tree lookups = folder f ∧ f.root = root ∧
      tree.placeOf root = .ok place ∧
      ((∃ names, (folder f).names tree = .ok names) ∨
        ∃ entry fault, (tree.node? (place ++ [entry])).isSome ∧
          FileTree.TooLong (root.child entry) fault ∧ (folder f).names tree = .error fault) ∧
      ∀ names, (folder f).names tree = .ok names →
        (∀ name, name ∈ names ↔ tree.HasFile place name) ∧
        ∀ name,
          (Serves tree names name f ↔ ¬ f.Bypasses tree name) ∧
          (Path.slash ∉ name → ∀ how data, ((folder f).read tree how name).1 = .ok data →
            ∃ stored ∈ names, how.Agrees stored name ∧
              (tree.node? (place ++ [stored])).bind Node.content? = some data) ∧
          (f.Bypasses tree name →
            name ∉ names ∧ ((folder f).contains tree .exact name).1 = .ok true ∧
              ((folder f).contains tree .anyCase name).1 ≠ .ok true ∧
              ∀ how, ∃ data, ((folder f).read tree how name).1 = .ok data) := by
  obtain ⟨isDirectory, hisDirectory, hopen⟩ := bind_eq_ok.mp hopen
  cases isDirectory with
  | false => cases hopen
  | true =>
    obtain rfl := Except.ok.inj hopen
    obtain ⟨place, hplace, hdir⟩ := FileTree.exists_of_isDirectory hisDirectory
    have hfresh : Folder.Current tree ⟨root, none⟩ := nofun
    obtain ⟨f, hf, rfl, hcurrent⟩ := afterLookups_folder hfresh lookups
    refine ⟨f, place, hf, rfl, hplace, hsound.fileNames_cases hplace hdir,
      fun names hnames => ?_⟩
    obtain ⟨place', hplace', -, -, hlisted⟩ := FileTree.mem_fileNames_iff hnames
    obtain rfl : place = place' := Except.ok.inj (hplace.symm.trans hplace')
    refine ⟨hlisted, fun name => ⟨serves_iff_not_bypasses hsound hcurrent hnames, ?_, ?_⟩⟩
    · intro hslash how data hread
      exact read_of_slash_notMem hsound hcurrent hplace hdir hnames hslash hread
    · intro hbypasses
      refine ⟨fun hmem => (hsound.isFileName_of_mem hnames hmem).slash_notMem hbypasses.1,
        hbypasses.2, contains_anyCase_of_bypasses hsound hcurrent hnames hbypasses, ?_⟩
      intro how
      cases how with
      | exact => exact exists_read_exact_iff.mpr hbypasses.2
      | anyCase => exact (exists_read_anyCase_iff hsound hcurrent hnames).mpr (Or.inr hbypasses)

/-- A directory with one file in it, and a file beside the directory. -/
def besideFolder : FileTree :=
  (((FileTree.empty []).put ["data".toList] .directory).put ["data".toList, "a.txt".toList]
    (.ofBytes [1])).put ["secret.txt".toList] (.ofBytes [2])

theorem sound_besideFolder : besideFolder.Sound := by
  have hdata : Path.IsFileName "data".toList := by decide
  have hinner : Path.IsFileName "a.txt".toList := by decide
  have hbeside : Path.IsFileName "secret.txt".toList := by decide
  have hempty : (FileTree.empty []).Sound := .empty (List.forall_mem_nil _)
  have hfolder : ((FileTree.empty []).put ["data".toList] .directory).Sound :=
    hempty.put (FileTree.node?_nil _) hdata fun _ => rfl
  have hfile : (((FileTree.empty []).put ["data".toList] .directory).put
      ["data".toList, "a.txt".toList] (.ofBytes [1])).Sound := by
    have hdir : ((FileTree.empty []).put ["data".toList] .directory).node? ["data".toList] =
        some .directory := rfl
    exact hfolder.put hdir hinner nofun
  exact hfile.put (FileTree.node?_nil _) hbeside nofun

theorem fileNames_besideFolder :
    besideFolder.fileNames (.ofText "data".toList) = .ok ["a.txt".toList] := by
  have hfiles : besideFolder.nodes.toList.filterMap (FileTree.fileIn? ["data".toList]) =
      ["a.txt".toList] := rfl
  show Except.ok ((besideFolder.nodes.toList.filterMap
    (FileTree.fileIn? ["data".toList])).mergeSort Text.le) = _
  rw [hfiles, List.mergeSort_singleton]

/-- Up and out of the folder to the file beside it. -/
theorem serves_beside_folder :
    let a := folder ⟨.ofText "data".toList, none⟩
    let name := "../secret.txt".toList
    a.names besideFolder = .ok ["a.txt".toList] ∧
      (a.contains besideFolder .exact name).1 = .ok true ∧
      (a.read besideFolder .exact name).1 = .ok [2] ∧
      (a.contains besideFolder .anyCase name).1 = .ok false ∧
      (a.read besideFolder .anyCase name).1 = .ok [2] := by
  intro a name
  have hcurrent : Folder.Current besideFolder ⟨.ofText "data".toList, none⟩ := nofun
  refine ⟨fileNames_besideFolder, rfl, rfl, ?_, ?_⟩
  · have hresolve := Folder.resolve_of_current hcurrent name
    rw [show (a.contains besideFolder .anyCase name).1 = _ from
      congrArg (Except.map Option.isSome) hresolve, fileNames_besideFolder]
    rfl
  · rw [read_anyCase_iff hcurrent fileNames_besideFolder]
    rfl

/-- The file in the folder is served by its name and the one beside it against the rules, also after
the folder has been listed. -/
theorem serves_listed_in_folder :
    besideFolder.Sound ∧
      Folder.ofPath besideFolder (.ofText "data".toList) = .ok ⟨.ofText "data".toList, none⟩ ∧
      ∃ f, (folder ⟨.ofText "data".toList, none⟩).afterLookups besideFolder
          [.contains .anyCase "A.TXT".toList, .names] = folder f ∧
        Serves besideFolder ["a.txt".toList] "a.txt".toList f ∧
        ¬ Serves besideFolder ["a.txt".toList] "../secret.txt".toList f := by
  have hopen : Folder.ofPath besideFolder (.ofText "data".toList) =
      .ok ⟨.ofText "data".toList, none⟩ := rfl
  obtain ⟨f, place, hf, hroot, -, -, hserves⟩ := serves_listed sound_besideFolder hopen
    [.contains .anyCase "A.TXT".toList, .names]
  have hnames : (folder f).names besideFolder = .ok ["a.txt".toList] := by
    rw [names, hroot, fileNames_besideFolder]
  obtain ⟨-, hname⟩ := hserves _ hnames
  refine ⟨sound_besideFolder, hopen, f, hf, (hname _).1.mpr ?_, fun h => (hname _).1.mp h ?_⟩
  · exact fun h => absurd h.1 (by decide)
  · refine ⟨by decide, ?_⟩
    rw [Folder.hasFile, hroot]
    rfl

end Archive

end ArenaData
