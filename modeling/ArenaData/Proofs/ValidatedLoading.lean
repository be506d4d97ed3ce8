import ArenaData.Proofs.ArchiveWarning
import ArenaData.Proofs.DocumentIntegers
import ArenaData.Proofs.LayeredReads
import ArenaData.Proofs.LoadingFaults
import ArenaData.Settings.Load

/-!
# Loading what has been validated

The validation and a load of the same settings derive their paths on their own. They agree all the
same: what the validation calls an error makes the load fail, and where it finds no error the
directory, the container and the document of the executable are there for the load. What is left are
the contents of files, files of the game that the archive does not have, and paths that are too
long, which the validation does not follow.

A tree has no permissions: whatever stands in it can be read and listed, and so this is about
directories and files that the program has the right to read. The validation opens none of them, and
would not notice if it had not.
-/

namespace ArenaData

open FileTree (TooLong)

/-! ## Contents -/

theorem SideData.ofBytes_faults (levels : Nat) (bytes : List UInt8) :
    FailsOnly Fault.OfDocument (ofBytes levels bytes) := by
  rw [ofBytes]
  split
  · exact ofValue_faults levels _
  · exact failsOnly_error.mpr (Or.inl rfl)

theorem Container.ofBytes_faults (data : Bytes) (label : Text) :
    FailsOnly Fault.Malformed (Container.ofBytes data label) := by
  by_cases hroom : HasRoom data
  · rw [ofBytes_of_hasRoom hroom]
    exact failsOnly_ok _
  · have hfails : Fails .malformedRecord (Container.ofBytes data label) :=
      ofBytes_of_not_hasRoom hroom
    obtain ⟨fault, hfault, hkind⟩ := hfails
    rw [hfault]
    exact failsOnly_error.mpr hkind

theorem GameFile.isFileName_name (file : GameFile) : Path.IsFileName file.name := by
  cases file <;> decide

/-! ## Reading from the archive of a game -/

namespace Archive

variable {tree : FileTree} {root : Path} {name : Text} {how : Matching} {a : Archive}
  {f : Folder} {names : List Text} {layers : List Archive} {place : Place}

/-- The archive is one that is opened for a game: the files of the directory, listed already, and a
container or none. -/
inductive Opened (tree : FileTree) (root : Path) : Archive → Prop where
  | loose {names : List Text} : tree.fileNames root = .ok names →
    Opened tree root (layered [folder ⟨root, some names⟩])
  | packed {names : List Text} (c : Container) : tree.fileNames root = .ok names →
    Opened tree root (layered [folder ⟨root, some names⟩, container c])

theorem opened_of_ofGame (hdir : tree.isDirectory root = .ok true) (hname : name ≠ [])
    (h : ofGame tree root name = .ok a) : Opened tree root a := by
  rw [ofGame_of_isDirectory hdir hname] at h
  obtain ⟨names, hnames, h⟩ := bind_eq_ok.mp h
  split at h
  · obtain rfl := Except.ok.inj h
    exact .loose hnames
  · obtain ⟨c, -, h⟩ := bind_eq_ok.mp h
    obtain rfl := Except.ok.inj h
    exact .packed c hnames

theorem content?_child (hplace : tree.placeOf root = .ok place)
    (hdir : tree.node? place = some .directory) (hname : Path.IsFileName name) :
    tree.content? (root.child name) =
      if FileTree.maxPath < (root.child name).text.utf8Size then
        .error (.nameTooLong (root.child name).text)
      else .ok ((tree.node? (place ++ [name])).bind Node.content?) := by
  rw [FileTree.content?, FileTree.at?_child_of_isFileName hplace hdir hname]
  split
  · rfl
  · rfl

/-- A listed file has a content. -/
theorem exists_content?_of_mem (hsound : tree.Sound) (hnames : tree.fileNames root = .ok names)
    (hname : name ∈ names) : ∃ data, tree.content? (root.child name) = .ok (some data) := by
  have hslash := (hsound.isFileName_of_mem hnames hname).slash_notMem
  exact FileTree.exists_content?_iff.mpr ((hsound.isFile_child_iff hnames hslash).mpr hname)

/-- Asked for the exact name of a file, a listed folder stays as it is, and nothing can go wrong but
that the path is too long. -/
theorem consult_listed_exact (hnames : tree.fileNames root = .ok names)
    (hname : Path.IsFileName name) :
    ((folder ⟨root, some names⟩).consult tree .exact name).2 = folder ⟨root, some names⟩ ∧
      FailsOnly (TooLong (root.child name))
        ((folder ⟨root, some names⟩).consult tree .exact name).1 := by
  obtain ⟨place, hplace, hdir, -, -⟩ := FileTree.mem_fileNames_iff hnames
  let f : Folder := ⟨root, some names⟩
  have hcontains : (folder f).contains tree .exact name = (f.hasFile tree name, folder f) := rfl
  have hchild : f.content? tree name = _ := content?_child hplace hdir hname
  rw [Folder.hasFile_eq] at hcontains
  cases hcontent : f.content? tree name with
  | error fault =>
    rw [hcontent] at hcontains hchild
    rw [consult_folder_of_fault hcontains]
    refine ⟨rfl, failsOnly_error.mpr ?_⟩
    split at hchild
    · rename_i hlong
      exact ⟨hlong, Except.error.inj hchild⟩
    · cases hchild
  | ok data? =>
    rw [hcontent] at hcontains
    cases data? with
    | none =>
      rw [consult_folder_of_lacks hcontains]
      exact ⟨rfl, failsOnly_ok _⟩
    | some data =>
      have hread : (folder f).readPlain tree .exact name = (.ok data, folder f) := by
        simp [readPlain, stored?, hcontent]
      rw [consult_folder_of_has hcontains, hread]
      exact ⟨rfl, failsOnly_ok _⟩

/-- Without regard to case a listed folder goes by its list, and what is listed can be read. So it
stays as it is and nothing goes wrong. -/
theorem consult_listed_anyCase (hsound : tree.Sound) (hnames : tree.fileNames root = .ok names)
    (name : Text) : ∃ data?, (folder ⟨root, some names⟩).consult tree .anyCase name =
      (.ok data?, folder ⟨root, some names⟩) := by
  let f : Folder := ⟨root, some names⟩
  have hresolve : f.resolve tree name = (.ok (lastMatch names name), f) :=
    Folder.resolve_of_listing rfl
  have hcontains := contains_folder tree name f
  rw [hresolve] at hcontains
  cases hmatch : lastMatch names name with
  | none =>
    rw [hmatch] at hcontains
    rw [consult_folder_of_lacks hcontains]
    exact ⟨none, rfl⟩
  | some stored =>
    obtain ⟨hstored, -⟩ := Folder.lastMatch_eq_some hmatch
    obtain ⟨data, hcontent⟩ : ∃ data, f.content? tree stored = .ok (some data) :=
      exists_content?_of_mem hsound hnames hstored
    have hread : (folder f).readPlain tree .anyCase name = (.ok data, folder f) := by
      simp [readPlain, resolve, hresolve, hmatch, stored?, hcontent]
    rw [hmatch] at hcontains
    rw [consult_folder_of_has hcontains, hread]
    exact ⟨some data, rfl⟩

theorem consult_listed (how : Matching) (hsound : tree.Sound)
    (hnames : tree.fileNames root = .ok names)
    (hname : Path.IsFileName name) :
    ((folder ⟨root, some names⟩).consult tree how name).2 = folder ⟨root, some names⟩ ∧
      FailsOnly (TooLong (root.child name))
        ((folder ⟨root, some names⟩).consult tree how name).1 := by
  cases how with
  | exact => exact consult_listed_exact hnames hname
  | anyCase =>
    obtain ⟨data?, hconsult⟩ := consult_listed_anyCase hsound hnames name
    rw [hconsult]
    exact ⟨rfl, failsOnly_ok _⟩

/-! ### Layers -/

theorem snd_consultLayers (h : ∀ layer ∈ layers, (layer.consult tree how name).2 = layer) :
    (consultLayers tree how name layers).2 = layers := by
  induction layers with
  | nil => rfl
  | cons layer rest ih =>
    obtain ⟨hlayer, hrest⟩ := List.forall_mem_cons.mp h
    rw [consultLayers]
    split
    · rename_i after hconsult
      rw [hconsult] at hlayer
      exact List.cons_eq_cons.mpr ⟨hlayer, ih hrest⟩
    · rename_i answer after _ hconsult
      rw [hconsult] at hlayer
      exact congrArg (· :: rest) hlayer

theorem consultLayers_faults {P : Fault → Prop}
    (h : ∀ layer ∈ layers, FailsOnly P (layer.consult tree how name).1) :
    FailsOnly P (consultLayers tree how name layers).1 := by
  intro fault hfault
  obtain ⟨before, layer, behind, rfl, -, hlayer⟩ := (consultLayers_eq_iff (by simp)).mp hfault
  exact h layer (by simp) fault hlayer

theorem fst_anyContains
    (h : ∀ layer ∈ layers, (layer.contains tree how name).1 = .ok false) :
    (anyContains tree how name layers).1 = .ok false := by
  induction layers with
  | nil => rfl
  | cons layer rest ih =>
    obtain ⟨hlayer, hrest⟩ := List.forall_mem_cons.mp h
    rw [anyContains]
    split
    · exact ih hrest
    · rename_i found after hfound hcontains
      rw [hcontains] at hlayer
      obtain rfl : found = .ok false := hlayer
      exact (hfound rfl).elim

theorem contains_of_consult (hplain : ∀ layers, a = layered layers → False)
    (h : (a.consult tree how name).1 = .ok none) : (a.contains tree how name).1 = .ok false := by
  rw [Archive.consult.eq_2 tree how name a hplain] at h
  split at h
  · rename_i after hcontains
    rw [hcontains]
  · rename_i after hcontains
    cases hread : (after.readPlain tree how name).1 with
    | ok data => simp [hread, Except.map] at h
    | error fault => simp [hread, Except.map] at h
  · cases h

/-- Asked for the name of a file, the layers of an opened archive stay as they are. -/
theorem Opened.exists_layers (hsound : tree.Sound) (h : Opened tree root a) (how : Matching)
    (hname : Path.IsFileName name) :
    ∃ layers, a = layered layers ∧ ∀ layer ∈ layers, (layer.consult tree how name).2 = layer ∧
      FailsOnly (TooLong (root.child name)) (layer.consult tree how name).1 ∧
      ∀ inner, layer = layered inner → False := by
  have hfolder {names : List Text} (hnames : tree.fileNames root = .ok names) :
      ((folder ⟨root, some names⟩).consult tree how name).2 = folder ⟨root, some names⟩ ∧
        FailsOnly (TooLong (root.child name))
          ((folder ⟨root, some names⟩).consult tree how name).1 ∧
        ∀ inner, folder ⟨root, some names⟩ = layered inner → False := by
    obtain ⟨hkept, hfaults⟩ := consult_listed how hsound hnames hname
    exact ⟨hkept, hfaults, nofun⟩
  cases h with
  | loose hnames =>
    refine ⟨_, rfl, fun layer hlayer => ?_⟩
    rw [List.mem_singleton.mp hlayer]
    exact hfolder hnames
  | packed c hnames =>
    refine ⟨_, rfl, fun layer hlayer => ?_⟩
    rcases List.mem_pair.mp hlayer with rfl | rfl
    · exact hfolder hnames
    · rw [(Leaf.container c).consult]
      exact ⟨rfl, failsOnly_ok _, nofun⟩

/-- Reading a file of the game leaves an opened archive as it is. The file is read, or the archive
does not have it, or the path to it in the directory is too long. -/
theorem Opened.read (hsound : tree.Sound) (h : Opened tree root a) (how : Matching)
    (hname : Path.IsFileName name) :
    (a.read tree how name).2 = a ∧
      FailsOnly (fun fault => TooLong (root.child name) fault ∨
        fault = .resourceNotFound name a.describe ∧ (a.contains tree how name).1 = .ok false)
        (a.read tree how name).1 := by
  obtain ⟨layers, rfl, hlayers⟩ := h.exists_layers hsound how hname
  have hkept := snd_consultLayers fun layer hlayer => (hlayers layer hlayer).1
  have hfaults := consultLayers_faults fun layer hlayer => (hlayers layer hlayer).2.1
  have hlacks : (consultLayers tree how name layers).1 = .ok none →
      ((layered layers).contains tree how name).1 = .ok false := by
    intro hnone
    rw [contains_layered]
    refine fst_anyContains fun layer hlayer => ?_
    exact contains_of_consult (hlayers layer hlayer).2.2
      (consultLayers_eq_none_iff.mp hnone layer hlayer)
  rw [Archive.read, consult_layered, hkept]
  cases hanswer : (consultLayers tree how name layers).1 with
  | error fault => exact ⟨rfl, failsOnly_error.mpr (Or.inl (hfaults fault hanswer))⟩
  | ok data? => cases data? with
    | none => exact ⟨rfl, failsOnly_error.mpr (Or.inr ⟨rfl, hlacks hanswer⟩)⟩
    | some data => exact ⟨rfl, failsOnly_ok _⟩

end Archive

/-! ## Loads -/

/-- Why the load of a game may fail whose directory, container and document are there. -/
inductive LoadFault (levels : Nat) (tree : FileTree) (arena : Path) (archiveName : Text)
    (exeData : Path) : Fault → Prop where
  /-- What stands in the file of the container is none. -/
  | container {stored : Text} {data : Bytes} {fault : Fault} :
    stored.upper = archiveName.upper → tree.content? (arena.child stored) = .ok (some data) →
      Container.ofBytes data (arena.child stored).text = .error fault →
      LoadFault levels tree arena archiveName exeData fault
  /-- What stands in the file of the document gives no tables. -/
  | document {bytes : Bytes} {fault : Fault} : tree.content? exeData = .ok (some bytes) →
      SideData.ofBytes levels bytes = .error fault →
      LoadFault levels tree arena archiveName exeData fault
  /-- A file of the game cannot be decoded, or the tables do not go together. -/
  | content {fault : Fault} : fault.OfContent →
      LoadFault levels tree arena archiveName exeData fault
  /-- The archive does not have a file of the game. -/
  | absent {a : Archive} (file : GameFile) : Archive.ofGame tree arena archiveName = .ok a →
      (a.contains tree file.matching file.name).1 = .ok false →
      LoadFault levels tree arena archiveName exeData (.resourceNotFound file.name a.describe)
  /-- The path to something in the game directory is too long. -/
  | longPath {fault : Fault} (name : Text) : TooLong (arena.child name) fault →
      LoadFault levels tree arena archiveName exeData fault

section LoadFault

variable {levels : Nat} {tree : FileTree} {arena exeData : Path} {archiveName : Text} {a : Archive}
  {fault : Fault}

/-- Nothing is missing, and the settings are complete, but for a file of the game. -/
theorem LoadFault.kind_cases (h : LoadFault levels tree arena archiveName exeData fault) :
    (fault.kind ≠ .configuration ∧ fault.kind ≠ .resourceNotFound) ∨
      ∃ (a : Archive) (file : GameFile), Archive.ofGame tree arena archiveName = .ok a ∧
        (a.contains tree file.matching file.name).1 = .ok false ∧
        fault = .resourceNotFound file.name a.describe := by
  cases h with
  | container _ _ hfault =>
    have hkind : fault.kind = .malformedRecord := Container.ofBytes_faults _ _ fault hfault
    rw [hkind]
    exact Or.inl (by decide)
  | document _ hfault =>
    rcases SideData.ofBytes_faults _ _ fault hfault with hkind | rfl | rfl
    · rw [hkind]
      exact Or.inl (by decide)
    · exact Or.inl ⟨nofun, nofun⟩
    · exact Or.inl ⟨nofun, nofun⟩
  | content hcontent =>
    refine Or.inl ⟨fun hkind => ?_, fun hkind => ?_⟩
    · rw [Fault.OfContent, hkind] at hcontent
      exact absurd hcontent (by decide)
    · rw [Fault.OfContent, hkind] at hcontent
      exact absurd hcontent (by decide)
  | absent file hopen hlacks => exact Or.inr ⟨_, file, hopen, hlacks, rfl⟩
  | longPath name hlong =>
    have hkind : fault.kind = .system := by rw [hlong.2, Fault.kind]
    rw [hkind]
    exact Or.inl (by decide)

theorem LoadFault.kind_ne (h : LoadFault levels tree arena archiveName exeData fault) :
    fault.kind ≠ .configuration := by
  rcases h.kind_cases with ⟨hkind, -⟩ | ⟨a, file, -, -, rfl⟩
  · exact hkind
  · exact nofun

/-- Only a file of the game can be missing. -/
theorem LoadFault.exists_absent (h : LoadFault levels tree arena archiveName exeData fault)
    (hkind : fault.kind = .resourceNotFound) :
    ∃ (a : Archive) (file : GameFile), Archive.ofGame tree arena archiveName = .ok a ∧
      (a.contains tree file.matching file.name).1 = .ok false ∧
      fault = .resourceNotFound file.name a.describe :=
  h.kind_cases.resolve_left fun hother => hother.2 hkind

theorem ofGame_faults (hsound : tree.Sound) (hdir : tree.isDirectory arena = .ok true)
    (hname : archiveName ≠ []) :
    FailsOnly (LoadFault levels tree arena archiveName exeData)
      (Archive.ofGame tree arena archiveName) := by
  obtain ⟨place, hplace, hnode⟩ := FileTree.exists_of_isDirectory hdir
  rw [Archive.ofGame_of_isDirectory hdir hname]
  have hnames :
      FailsOnly (LoadFault levels tree arena archiveName exeData) (tree.fileNames arena) := by
    rcases hsound.fileNames_cases hplace hnode with
      ⟨names, hnames⟩ | ⟨name, fault, -, hlong, hnames⟩
    · rw [hnames]
      exact failsOnly_ok _
    · rw [hnames]
      exact failsOnly_error.mpr (.longPath name hlong)
  refine FailsOnly.bind hnames fun names hnames => ?_
  split
  · exact failsOnly_ok _
  · rename_i stored hmatch
    obtain ⟨hstored, hupper⟩ := Folder.lastMatch_eq_some hmatch
    obtain ⟨data, hcontent⟩ := Archive.exists_content?_of_mem hsound hnames hstored
    have hfile : Container.ofFile tree (arena.child stored) =
        Container.ofBytes data (arena.child stored).text := by
      rw [Container.ofFile, hcontent]
      rfl
    rw [hfile]
    refine FailsOnly.bind (fun fault hfault => ?_) fun c _ => failsOnly_ok _
    exact .container hupper hcontent hfault

/-- A load from an opened archive fails for the reasons that its reads and the decoders have. -/
theorem load_opened_faults (hsound : tree.Sound) (hopened : Archive.Opened tree arena a)
    (hopen : Archive.ofGame tree arena archiveName = .ok a) {sideData : SideData}
    (hclasses : FailsOnly Fault.Malformed (ClassDefinition.all sideData)) :
    FailsOnly (LoadFault levels tree arena archiveName exeData)
      ((Loader.new a sideData).load (Archive.reader tree)).1 := by
  have hread (file : GameFile) : Loader.answer (Archive.reader tree) a file =
      a.read tree file.matching file.name := rfl
  have hself : Loader.AnswerAlike (fun s t => s = a ∧ t = a)
      (fun _ fault => LoadFault levels tree arena archiveName exeData fault)
      (Archive.reader tree) (Archive.reader tree) := by
    rintro s t ⟨rfl, rfl⟩ file
    obtain ⟨hkept, hfaults⟩ := hopened.read hsound file.matching file.isFileName_name
    rw [hread]
    refine ⟨agreeUpTo_self_iff.mpr (hfaults.imp ?_), hkept, hkept⟩
    rintro fault (hlong | ⟨rfl, hlacks⟩)
    · exact .longPath file.name hlong
    · exact .absent file hopen hlacks
  have hagree := Loader.load_new_alike sideData ⟨rfl, rfl⟩ hself
    (Loader.decoders_failOnly (fun _ h => LoadFault.content h)
      (hclasses.imp fun _ h => .content h.ofContent))
  exact agreeUpTo_self_iff.mp hagree

end LoadFault

namespace Settings

variable {s : Settings} {levels : Nat} {tree : FileTree} {store : Store} {arena : Path}
  {v : Validation}

/-! ## Validations -/

theorem exists_of_validate (hv : s.validate tree store = .ok v) :
    ∃ checked findings, s.validateArena tree store = .ok checked ∧
      s.validateExeData tree store = .ok findings ∧ v.errors = checked.errors ++ findings := by
  obtain ⟨checked, hchecked, hv⟩ := bind_eq_ok.mp hv
  obtain ⟨findings, hfindings, hv⟩ := bind_eq_ok.mp hv
  obtain rfl := Except.ok.inj hv
  exact ⟨checked, findings, hchecked, hfindings, rfl⟩

/-- No error is found in a directory iff it is there. -/
theorem errors_validateArena_iff {checked : Validation} (harena : s.arenaPath store = some arena)
    (hchecked : s.validateArena tree store = .ok checked) :
    checked.errors = [] ↔ tree.isDirectory arena = .ok true := by
  cases hdir : tree.isDirectory arena with
  | error fault =>
    rw [validateArena, harena] at hchecked
    simp only [hdir] at hchecked
    cases hchecked
  | ok isDirectory => cases isDirectory with
    | false =>
      rw [validateArena, harena] at hchecked
      simp only [hdir] at hchecked
      obtain rfl := Except.ok.inj hchecked
      simp
    | true =>
      rw [validateArena_of_isDirectory harena hdir] at hchecked
      cases hthere : tree.exists? (arena.child (s.archiveName store)) with
      | error fault =>
        rw [hthere] at hchecked
        cases hchecked
      | ok there =>
        rw [hthere] at hchecked
        obtain rfl := Except.ok.inj hchecked
        simp

theorem validateExeData_iff {findings : List Finding} {exeData : Path}
    (hexe : s.exeDataPath store = some exeData)
    (hfindings : s.validateExeData tree store = .ok findings) :
    findings = [] ↔ tree.isFile exeData = .ok true := by
  rw [validateExeData, hexe] at hfindings
  cases hfile : tree.isFile exeData with
  | error fault =>
    simp only [hfile] at hfindings
    cases hfindings
  | ok isFile =>
    simp only [hfile] at hfindings
    cases isFile with
    | false =>
      obtain rfl := Except.ok.inj hfindings
      simp
    | true =>
      obtain rfl := Except.ok.inj hfindings
      simp

theorem exists_exeDataPath (harena : s.arenaPath store = some arena) :
    ∃ exeData, s.exeDataPath store = some exeData := by
  rw [exeDataPath]
  split
  · exact ⟨_, rfl⟩
  · rw [harena]
    exact ⟨_, rfl⟩

/-! ## Agreement -/

/-- What is loaded was found in order. -/
theorem errors_of_loadTable {table : AssetTable} (hv : s.validate tree store = .ok v)
    (hload : s.loadTable levels tree store = .ok table) : v.errors = [] := by
  obtain ⟨checked, findings, hchecked, hfindings, herrors⟩ := exists_of_validate hv
  rw [loadTable] at hload
  split at hload
  · rename_i arena harena
    obtain ⟨a, hopen, hload⟩ := bind_eq_ok.mp hload
    split at hload
    · rename_i exeData hexe
      obtain ⟨sideData, hdocument, hload⟩ := bind_eq_ok.mp hload
      have hdir : tree.isDirectory arena = .ok true := by
        obtain ⟨f, hf, -⟩ := bind_eq_ok.mp hopen
        obtain ⟨isDirectory, hdir, hf⟩ := bind_eq_ok.mp hf
        cases isDirectory with
        | true => exact hdir
        | false => cases hf
      have hfile : tree.isFile exeData = .ok true := by
        obtain ⟨data?, hcontent, hdocument⟩ := bind_eq_ok.mp hdocument
        cases data? with
        | none => cases hdocument
        | some data => exact FileTree.exists_content?_iff.mp ⟨data, hcontent⟩
      rw [herrors, (errors_validateArena_iff harena hchecked).mpr hdir,
        (validateExeData_iff hexe hfindings).mpr hfile, List.append_nil]
    · cases hload
  · cases hload

/-- Validation and loading agree on what is missing. Errors of the validation make the load fail. If
there are none and a game directory is set, a failure of the load is of one of the kinds of
`LoadFault`; in particular the settings are complete for it, and no resource is missing but a file
of the game that the archive does not have. -/
theorem validate_agrees_with_loadTable (levels : Nat) (hsound : tree.Sound)
    (hv : s.validate tree store = .ok v) :
    (v.errors ≠ [] → ∃ fault, s.loadTable levels tree store = .error fault) ∧
    (v.errors = [] → ∀ arena, s.arenaPath store = some arena →
      ∃ exeData, s.exeDataPath store = some exeData ∧
        ∀ fault, s.loadTable levels tree store = .error fault →
          LoadFault levels tree arena (s.archiveName store) exeData fault ∧
          fault.kind ≠ .configuration ∧
          (fault.kind = .resourceNotFound → ∃ (a : Archive) (file : GameFile),
            Archive.ofGame tree arena (s.archiveName store) = .ok a ∧
              (a.contains tree file.matching file.name).1 = .ok false ∧
              fault = .resourceNotFound file.name a.describe)) := by
  constructor
  · intro herrors
    cases hload : s.loadTable levels tree store with
    | error fault => exact ⟨fault, rfl⟩
    | ok table => exact absurd (errors_of_loadTable hv hload) herrors
  · intro herrors arena harena
    obtain ⟨checked, findings, hchecked, hfindings, hboth⟩ := exists_of_validate hv
    obtain ⟨hnone, hnothing⟩ := List.append_eq_nil_iff.mp (hboth.symm.trans herrors)
    obtain ⟨exeData, hexe⟩ := exists_exeDataPath harena
    have hdir := (errors_validateArena_iff harena hchecked).mp hnone
    have hfile := (validateExeData_iff hexe hfindings).mp hnothing
    have hname := s.archiveName_ne_nil store
    have hfaults : FailsOnly (LoadFault levels tree arena (s.archiveName store) exeData)
        (s.loadTable levels tree store) := by
      obtain ⟨bytes, hcontent⟩ := FileTree.exists_content?_iff.mpr hfile
      have hdocument : SideData.ofFile levels tree exeData = SideData.ofBytes levels bytes := by
        rw [SideData.ofFile, hcontent]
        rfl
      rw [loadTable, harena]
      refine FailsOnly.bind (ofGame_faults hsound hdir hname) fun a hopen => ?_
      simp only [hexe, hdocument]
      refine FailsOnly.bind (fun fault hfault => .document hcontent hfault)
        fun sideData htables => ?_
      exact load_opened_faults hsound (Archive.opened_of_ofGame hdir hname hopen) hopen
        (SideData.all_malformed_of_ofBytes htables)
    refine ⟨exeData, hexe, fun fault hfault => ?_⟩
    have hload := hfaults fault hfault
    exact ⟨hload, hload.kind_ne, hload.exists_absent⟩

theorem sound_gameWith_named : (gameWith defaultArchiveName).Sound := by
  have hgame : Path.IsFileName "game".toList := by decide
  have hexe : Path.IsFileName defaultExeDataName := by decide
  have hcontainer : Path.IsFileName defaultArchiveName := by decide
  let folder := (FileTree.empty []).put ["game".toList] .directory
  let document := folder.put ["game".toList, defaultExeDataName] (.ofBytes "{}".toUTF8.data.toList)
  have hempty : (FileTree.empty []).Sound := .empty (List.forall_mem_nil _)
  have hfolder : folder.Sound := hempty.put (FileTree.node?_nil _) hgame fun _ => rfl
  have hinFolder : folder.node? ["game".toList] = some .directory := rfl
  have hdocument : document.Sound := hfolder.put hinFolder hexe nofun
  have hinDocument : document.node? ["game".toList] = some .directory := rfl
  exact hdocument.put hinDocument hcontainer nofun

/-- A game whose document has no tables in it, and settings that name a directory that is not
there. -/
theorem validate_agrees_on_games :
    let s : Settings := ⟨"player".toList, none⟩
    (gameWith defaultArchiveName).Sound ∧
      s.validate (gameWith defaultArchiveName) s.storeOfGame = .ok ⟨[], []⟩ ∧
      s.loadTable 1 (gameWith defaultArchiveName) s.storeOfGame = .error .noClassTables ∧
      LoadFault 1 (gameWith defaultArchiveName) (.ofText "game".toList) defaultArchiveName
        (.ofText "game/exe_data.json".toList) .noClassTables ∧
      (FileTree.empty []).Sound ∧
      (∃ v, s.validate (.empty []) s.storeOfGame = .ok v ∧ v.errors ≠ []) ∧
      ∃ fault, s.loadTable 1 (.empty []) s.storeOfGame = .error fault := by
  intro s
  have hv : s.validate (gameWith defaultArchiveName) s.storeOfGame = .ok ⟨[], []⟩ := by rfl
  have harena : s.arenaPath s.storeOfGame = some (.ofText "game".toList) := by rfl
  have hdir : (gameWith defaultArchiveName).isDirectory (.ofText "game".toList) = .ok true := by rfl
  have hload : s.loadTable 1 (gameWith defaultArchiveName) s.storeOfGame =
      .error .noClassTables := by
    rw [loadTable, harena]
    show (Archive.ofGame _ _ _ >>= _) = _
    rw [Archive.ofGame_of_isDirectory hdir (s.archiveName_ne_nil _), fileNames_gameWith_named]
    rfl
  obtain ⟨-, hfine⟩ := validate_agrees_with_loadTable 1 sound_gameWith_named hv
  obtain ⟨exeData, hexe, hfaults⟩ := hfine rfl _ harena
  obtain rfl : Path.ofText "game/exe_data.json".toList = exeData := Option.some.inj hexe
  have hempty : (FileTree.empty []).Sound := .empty (List.forall_mem_nil _)
  have hmissing : s.validate (.empty []) s.storeOfGame =
      .ok ⟨[.noArenaDirectory (.ofText "game".toList),
        .noExeData (.ofText "game/exe_data.json".toList)], []⟩ := by rfl
  obtain ⟨hfails, -⟩ := validate_agrees_with_loadTable 1 hempty hmissing
  exact ⟨sound_gameWith_named, hv, hload, (hfaults _ hload).1, hempty,
    ⟨_, hmissing, List.cons_ne_nil _ _⟩, hfails (List.cons_ne_nil _ _)⟩

/-- Into a directory and out of it again, as often as a path has room for. -/
def backAndForth : Path := ⟨.here, (List.replicate 817 ["a".toList, Path.dotDot]).flatten⟩

theorem follow_backAndForth {t : FileTree} {place : Place} {name : Text} (count : Nat)
    (hdir : t.node? place = some .directory) (hname : Path.IsFileName name)
    (hinner : t.node? (place ++ [name]) = some .directory) :
    t.follow place (List.replicate count [name, Path.dotDot]).flatten = .ok place := by
  induction count with
  | zero => rfl
  | succ count ih =>
    rw [List.replicate_succ, List.flatten_cons, List.cons_append, FileTree.follow]
    simp only [hdir, if_neg hname.ne_dotDot, if_neg hname.short, hinner]
    rw [List.cons_append, FileTree.follow]
    simp only [hinner, if_pos, List.dropLast_concat]
    exact ih

/-- A directory to go through, a file of the game and the document. -/
def aroundGame : FileTree :=
  (((FileTree.empty []).put ["a".toList] .directory).put [GameFile.template.name]
    (.ofBytes [])).put ["exe.json".toList] (.ofBytes [])

/-- The directory of the game is there on this path, and nothing is wrong with the settings. But the
path to a file in it is too long, which ends the load. -/
theorem loadTable_of_long_path :
    let s : Settings := ⟨"player".toList, none⟩
    let store := s.setValue (s.setValue .empty "paths/arena".toList (.text backAndForth.text))
      "paths/exe_data".toList (.text "exe.json".toList)
    s.arenaPath store = some backAndForth ∧
      (∃ v, s.validate aroundGame store = .ok v ∧ v.errors = []) ∧
      s.loadTable 1 aroundGame store =
        .error (.nameTooLong (backAndForth.child GameFile.template.name).text) := by
  intro s store
  have hspelled : Path.ofText backAndForth.text = backAndForth := by decide +kernel
  have harena : s.arenaPath store = some backAndForth := by
    rw [← hspelled]
    rfl
  have hplace : aroundGame.placeOf backAndForth = .ok [] := by
    have hcheck : FileTree.checkPath backAndForth = .ok () := by
      rw [FileTree.checkPath_of_zero_notMem (by decide +kernel), if_neg (by decide +kernel)]
    have hinner : aroundGame.node? ["a".toList] = some .directory := by rfl
    rw [FileTree.placeOf, hcheck, ok_bind]
    exact follow_backAndForth 817 (FileTree.node?_nil _) (by decide) hinner
  have hdir : aroundGame.isDirectory backAndForth = .ok true := by
    rw [FileTree.isDirectory, FileTree.at?, hplace]
    rfl
  have hthere : aroundGame.exists? (backAndForth.child (s.archiveName store)) = .ok false := by
    have hname : Path.IsFileName defaultArchiveName := by decide
    rw [show s.archiveName store = defaultArchiveName from rfl, FileTree.exists?,
      FileTree.at?_child_of_isFileName hplace (FileTree.node?_nil _) hname,
      if_neg (by decide +kernel)]
    rfl
  have hchecked := validateArena_of_isDirectory harena hdir
  rw [hthere] at hchecked
  have hfindings : s.validateExeData aroundGame store = .ok [] := by rfl
  have hnames : aroundGame.fileNames backAndForth =
      .error (.nameTooLong (backAndForth.child GameFile.template.name).text) := by
    have hentries : aroundGame.nodes.toList.filterMap (FileTree.nameIn? []) =
        [GameFile.template.name, "a".toList, "exe.json".toList] := by rfl
    rw [FileTree.fileNames, hplace, ok_bind]
    simp only [FileTree.node?_nil, hentries]
    rw [List.forM_eq_forM, List.forM_cons,
      FileTree.checkPath_child hplace GameFile.template.isFileName_name,
      if_pos (by decide +kernel)]
    rfl
  refine ⟨harena, ⟨_, bind_eq_ok.mpr ⟨_, hchecked, bind_eq_ok.mpr ⟨_, hfindings, rfl⟩⟩, rfl⟩, ?_⟩
  rw [loadTable, harena]
  show (Archive.ofGame _ _ _ >>= _) = _
  rw [Archive.ofGame_of_isDirectory hdir (s.archiveName_ne_nil _), hnames]
  rfl

end Settings

end ArenaData
