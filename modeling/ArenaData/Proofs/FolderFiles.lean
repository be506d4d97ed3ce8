import ArenaData.Archive.Basic
import ArenaData.Proofs.Outcome

/-!
# The files of a folder

What a directory lists are the files at the places one name below it, and a name of the ordinary
kind leads from the directory to just that place. So a folder whose listing was made of the files
that are there now finds a file under every name that it lists, and none under any other (`InStep`).
-/

namespace ArenaData

namespace FileTree

variable {t : FileTree} {p : Path} {place : Place} {name : Text}

/-! ## Faults -/

/-- The fault comes from the file system; it is not that a resource is missing. -/
def OfSystem (fault : Fault) : Prop := fault.kind ≠ .resourceNotFound

theorem follow_faults (t : FileTree) (place : Place) (names : List Text) :
    FailsOnly OfSystem (t.follow place names) := by
  fun_induction FileTree.follow t place names with
  | case1 => exact failsOnly_ok _
  | case2 _ _ _ ih => exact ih
  | case3 => exact failsOnly_error.mpr nofun
  | case4 _ _ _ _ _ _ _ _ _ ih => exact ih
  | case5 => exact failsOnly_error.mpr nofun
  | case6 => exact failsOnly_error.mpr nofun

theorem checkPath_faults (p : Path) : FailsOnly OfSystem (checkPath p) := by
  rw [checkPath]
  split
  · exact failsOnly_error.mpr nofun
  · split
    · exact failsOnly_error.mpr nofun
    · exact failsOnly_ok _

theorem placeOf_faults (t : FileTree) (p : Path) : FailsOnly OfSystem (t.placeOf p) :=
  (checkPath_faults p).bind fun _ _ => follow_faults t _ _

theorem at?_faults (t : FileTree) (p : Path) : FailsOnly OfSystem (t.at? p) := by
  have hplace := placeOf_faults t p
  rw [at?]
  split
  · exact failsOnly_ok _
  · rename_i fault hfault
    split
    · exact failsOnly_ok _
    · exact failsOnly_error.mpr (hplace fault hfault)

theorem content?_faults (t : FileTree) (p : Path) : FailsOnly OfSystem (t.content? p) := by
  have hat := at?_faults t p
  rw [content?]
  cases h : t.at? p with
  | ok node => exact failsOnly_ok _
  | error fault => exact failsOnly_error.mpr (hat fault h)

theorem fileNames_faults (t : FileTree) (p : Path) : FailsOnly OfSystem (t.fileNames p) := by
  refine (placeOf_faults t p).bind fun place _ => ?_
  split
  · refine (FailsOnly.forM fun name _ => checkPath_faults (p.child name)).bind fun _ _ => ?_
    exact failsOnly_ok _
  · exact failsOnly_error.mpr nofun
  · exact failsOnly_error.mpr nofun

/-! ## Files -/

/-- What is a file has a content, and nothing else has. -/
theorem isFile_eq (t : FileTree) (p : Path) : t.isFile p = (t.content? p).map Option.isSome := by
  rw [isFile, content?]
  cases t.at? p with
  | error fault => rfl
  | ok node? =>
    cases node? with
    | none => rfl
    | some node => exact congrArg Except.ok (Node.isSome_content? node).symm

/-- A path leads to a file iff there is a content to be read on it. -/
theorem exists_content?_iff :
    (∃ content, t.content? p = .ok (some content)) ↔ t.isFile p = .ok true := by
  rw [isFile_eq]
  cases t.content? p with
  | error fault => simp [Except.map]
  | ok content? => simp [Except.map, Option.isSome_iff_exists]

/-- A file is at the place of this name in the directory at `place`. -/
def HasFile (t : FileTree) (place : Place) (name : Text) : Prop :=
  (t.node? (place ++ [name])).any Node.isFile = true

theorem hasFile_iff :
    t.HasFile place name ↔ ∃ content, t.node? (place ++ [name]) = some (.file content) := by
  rw [HasFile]
  cases t.node? (place ++ [name]) with
  | none => simp
  | some node =>
    cases node with
    | directory => simp [Node.isFile]
    | file content => simp [Node.isFile]

theorem fileIn?_eq_some_iff {entry : Place × Node} :
    fileIn? place entry = some name ↔ ∃ content, entry = (place ++ [name], .file content) := by
  obtain ⟨entry, node⟩ := entry
  cases node with
  | directory => simp [fileIn?]
  | file content =>
    rw [fileIn?]
    constructor
    · intro h
      split at h
      · rename_i hplace
        obtain ⟨front, rfl⟩ := List.getLast?_eq_some_iff.mp h
        rw [List.dropLast_concat] at hplace
        exact ⟨content, by rw [hplace]⟩
      · cases h
    · rintro ⟨_, h⟩
      obtain ⟨rfl, -⟩ := Prod.mk.inj h
      simp

theorem nameIn?_eq_some_iff {entry : Place × Node} :
    nameIn? place entry = some name ↔ entry.1 = place ++ [name] := by
  rw [nameIn?]
  constructor
  · intro h
    split at h
    · rename_i hplace
      obtain ⟨front, hentry⟩ := List.getLast?_eq_some_iff.mp h
      rw [hentry, List.dropLast_concat] at hplace
      rw [hentry, hplace]
    · cases h
  · intro h
    simp [h]

/-- What is listed of the tree is what is at the places below the root. -/
theorem mem_nodes_iff {node : Node} :
    (place ++ [name], node) ∈ t.nodes.toList ↔ t.node? (place ++ [name]) = some node := by
  rw [Std.TreeMap.mem_toList_iff_getElem?_eq_some, node?, if_neg (by simp)]

/-- Something is in the directory at `place` under a name iff the name is that of an entry. -/
theorem mem_entries_iff :
    name ∈ t.nodes.toList.filterMap (nameIn? place) ↔ (t.node? (place ++ [name])).isSome := by
  rw [List.mem_filterMap, Option.isSome_iff_exists]
  simp only [nameIn?_eq_some_iff, ← mem_nodes_iff]
  constructor
  · rintro ⟨⟨entry, node⟩, hentry, rfl⟩
    exact ⟨node, hentry⟩
  · rintro ⟨node, hnode⟩
    exact ⟨_, hnode, rfl⟩

/-- A directory lists the files in it, if the path to each of its entries can be followed. -/
theorem mem_fileNames_iff {names : List Text} (h : t.fileNames p = .ok names) :
    ∃ place, t.placeOf p = .ok place ∧ t.node? place = some .directory ∧
      (∀ name, (t.node? (place ++ [name])).isSome → checkPath (p.child name) = .ok ()) ∧
      ∀ name, name ∈ names ↔ t.HasFile place name := by
  obtain ⟨place, hplace, h⟩ := bind_eq_ok.mp h
  refine ⟨place, hplace, ?_⟩
  split at h
  · rename_i hdirectory
    obtain ⟨⟨⟩, hpaths, h⟩ := bind_eq_ok.mp h
    refine ⟨hdirectory, ?_, fun name => ?_⟩
    · intro name hname
      exact forM_eq_ok_iff.mp hpaths name (mem_entries_iff.mpr hname)
    · rw [← Except.ok.inj h, List.mem_mergeSort, List.mem_filterMap, hasFile_iff]
      simp only [fileIn?_eq_some_iff, ← mem_nodes_iff]
      constructor
      · rintro ⟨entry, hentry, content, rfl⟩
        exact ⟨content, hentry⟩
      · rintro ⟨content, hcontent⟩
        exact ⟨_, hcontent, content, rfl⟩
  · cases h
  · cases h

/-- A name leads on from a directory. -/
theorem follow_append {start inner : Place} {names : List Text} (rest : List Text)
    (h : t.follow start names = .ok inner) :
    t.follow start (names ++ rest) = t.follow inner rest := by
  fun_induction FileTree.follow t start names with
  | case1 => rw [List.nil_append, Except.ok.inj h]
  | case2 place _ hdir ih =>
    rw [List.cons_append, follow]
    simp only [hdir]
    exact ih h
  | case3 => cases h
  | case4 place name _ hdir hup inner hlong node hnode ih =>
    rw [List.cons_append, follow]
    have hinner : t.node? (place ++ [name]) = some node := hnode
    simp only [hdir, if_neg hup, if_neg hlong, hinner]
    exact ih h
  | case5 => cases h
  | case6 => cases h

end FileTree

/-! ## Names -/

namespace Path

variable {p : Path} {name : Text}

/-- The name is one that a file in the directory at `p` may have, and not too long for a path. -/
structure Leads (p : Path) (name : Text) : Prop where
  /-- It is not left out of a path. -/
  ne_nil : name ≠ []
  ne_dot : name ≠ dot
  /-- It does not lead back. -/
  ne_dotDot : name ≠ dotDot
  /-- It is one name. -/
  slash_notMem : slash ∉ name
  /-- It is not too long. -/
  short : ¬ FileTree.maxName < name.utf8Size
  /-- The path to it is one that can be followed. -/
  path : FileTree.checkPath (p.child name) = .ok ()

theorem splitFrom_of_slash_notMem (h : slash ∉ name) (current : Text) :
    splitFrom current name = [current.reverse ++ name] := by
  induction name generalizing current with
  | nil => rw [splitFrom, List.append_nil]
  | cons c name ih =>
    have hc : c ≠ slash := fun e => h (e ▸ List.mem_cons_self)
    rw [splitFrom, if_neg hc, ih (fun hmem => h (List.mem_cons_of_mem c hmem))]
    simp

theorem child_eq (hnil : name ≠ []) (hdot : name ≠ dot) (hslash : slash ∉ name) :
    p.child name = { p with parts := p.parts ++ [name] } := by
  have hanchor : anchorOf name = .here := by
    obtain ⟨c, rest, rfl⟩ := List.exists_cons_of_ne_nil hnil
    have hc : c ≠ slash := fun e => hslash (e ▸ List.mem_cons_self)
    rw [anchorOf, List.takeWhile_cons_of_neg (by simpa using hc)]
    rfl
  have hparts : (splitFrom [] name).filter (fun part => !part.isEmpty && part != dot) = [name] := by
    rw [splitFrom_of_slash_notMem hslash, List.reverse_nil, List.nil_append]
    simp [hnil, hdot]
  rw [child, join, ofText]
  simp only [hanchor, hparts]

end Path

/-- A path that ends with a name is followed to its directory and on from there. -/
theorem FileTree.placeOf_child {t : FileTree} {p : Path} {place : Place} {name : Text}
    (hplace : t.placeOf p = .ok place) (hpath : checkPath (p.child name) = .ok ())
    (hchild : p.child name = { p with parts := p.parts ++ [name] }) :
    t.placeOf (p.child name) = t.follow place [name] := by
  obtain ⟨-, -, hfollow⟩ := bind_eq_ok.mp hplace
  rw [placeOf, hpath, ok_bind, ← follow_append [name] hfollow, hchild]
  rfl

/-- A path that ends with a name leads to what is at its place in the directory. -/
theorem FileTree.at?_child {t : FileTree} {p : Path} {place : Place} {name : Text}
    (hplace : t.placeOf p = .ok place) (hdir : t.node? place = some .directory)
    (h : p.Leads name) : t.at? (p.child name) = .ok (t.node? (place ++ [name])) := by
  have hchild := Path.child_eq (p := p) h.ne_nil h.ne_dot h.slash_notMem
  rw [at?, placeOf_child hplace h.path hchild, follow]
  simp only [hdir, if_neg h.ne_dotDot, if_neg h.short]
  cases hnode : t.node? (place ++ [name]) with
  | none => rfl
  | some node =>
    simp only [follow, hnode]

theorem FileTree.isFile_child {t : FileTree} {p : Path} {place : Place} {name : Text}
    (hplace : t.placeOf p = .ok place) (hdir : t.node? place = some .directory)
    (h : p.Leads name) :
    t.isFile (p.child name) = .ok ((t.node? (place ++ [name])).any Node.isFile) := by
  rw [isFile, at?_child hplace hdir h]
  rfl

/-! ## Folders -/

namespace Folder

variable {tree : FileTree} {name : Text} {f : Folder}

theorem resolve_root (f : Folder) (tree : FileTree) (name : Text) :
    (f.resolve tree name).2.root = f.root := by
  rw [resolve]
  split
  · rfl
  · split
    · rfl
    · rfl

theorem resolve_of_listing {names : List Text} (h : f.listing = some names) :
    f.resolve tree name = (.ok (lastMatch names name), f) := by
  rw [resolve, h]

/-- The listing that is kept makes no difference to the next look-up. -/
theorem resolve_again (f : Folder) (tree : FileTree) (name : Text) :
    (f.resolve tree name).2.resolve tree name = f.resolve tree name := by
  cases hlisting : f.listing with
  | some names => simp only [resolve, hlisting]
  | none =>
    cases hnames : tree.fileNames f.root with
    | ok names => simp only [resolve, hlisting, hnames]
    | error fault => simp only [resolve, hlisting, hnames]

theorem resolve_faults (f : Folder) (tree : FileTree) (name : Text) :
    FailsOnly FileTree.OfSystem (f.resolve tree name).1 := by
  have hnames := FileTree.fileNames_faults tree f.root
  rw [resolve]
  split
  · exact failsOnly_ok _
  · split
    · exact failsOnly_ok _
    · rename_i fault hfault
      exact failsOnly_error.mpr (hnames fault hfault)

theorem hasFile_eq (f : Folder) (tree : FileTree) (name : Text) :
    f.hasFile tree name = (f.content? tree name).map Option.isSome :=
  FileTree.isFile_eq tree _

/-! ### Listings and files -/

/-- What the folder knows of a name is so: a file is there under the name that it resolves to, and
none if it resolves to nothing. -/
def InStep (tree : FileTree) (name : Text) (f : Folder) : Prop :=
  ∀ stored, (f.resolve tree name).1 = .ok stored →
    f.hasFile tree (stored.getD name) = .ok stored.isSome

theorem lastMatch_eq_some {names : List Text} {stored : Text}
    (h : lastMatch names name = some stored) : stored ∈ names ∧ stored.upper = name.upper := by
  rw [lastMatch] at h
  have hmem := List.mem_reverse.mp (List.mem_of_find?_eq_some h)
  exact ⟨hmem, by simpa using List.find?_some h⟩

theorem notMem_of_lastMatch {names : List Text} (h : lastMatch names name = none) :
    name ∉ names := by
  intro hmem
  rw [lastMatch] at h
  simpa using List.find?_eq_none.mp h name (List.mem_reverse.mpr hmem)

theorem lastMatch_eq_none_iff {names : List Text} :
    lastMatch names name = none ↔ ∀ stored ∈ names, stored.upper ≠ name.upper := by
  rw [lastMatch, List.find?_eq_none]
  simp

theorem isSome_lastMatch_iff {names : List Text} :
    (lastMatch names name).isSome ↔ ∃ stored ∈ names, stored.upper = name.upper := by
  rw [lastMatch, List.find?_isSome]
  simp

/-- The listing that the folder keeps, if any, is that of the files there are. -/
def Current (tree : FileTree) (f : Folder) : Prop :=
  ∀ names, f.listing = some names → tree.fileNames f.root = .ok names

/-- What a name resolves to in a folder with a current listing is found among the files there
are. -/
theorem resolve_of_current (h : f.Current tree) (name : Text) :
    (f.resolve tree name).1 = (tree.fileNames f.root).map (lastMatch · name) := by
  rw [resolve]
  split
  · rename_i names hkept
    rw [h names hkept]
    rfl
  · split
    · rename_i names hfiles
      rw [hfiles]
      rfl
    · rename_i fault hfault
      rw [hfault]
      rfl

/-- A listing made now is current. -/
theorem Current.resolve (h : f.Current tree) (name : Text) :
    (f.resolve tree name).2.Current tree := by
  intro names hnames
  rw [resolve_root]
  rw [Folder.resolve] at hnames
  split at hnames
  · exact h names hnames
  · rename_i hnone
    split at hnames
    · rename_i listed hlisted
      rw [hlisted, Option.some.inj hnames]
    · rw [hnone] at hnames
      cases hnames

/-- A folder with a current listing is in step for every name that stays the name of a file however
its letters are cased. -/
theorem inStep_of_current (h : f.Current tree)
    (hleads : ∀ stored : Text, stored.upper = name.upper → f.root.Leads stored) :
    f.InStep tree name := by
  intro stored hresolve
  have hnames : ∃ names, tree.fileNames f.root = .ok names ∧ lastMatch names name = stored := by
    rw [resolve_of_current h] at hresolve
    cases hfiles : tree.fileNames f.root with
    | ok names =>
      rw [hfiles] at hresolve
      exact ⟨names, rfl, Except.ok.inj hresolve⟩
    | error fault =>
      rw [hfiles] at hresolve
      cases hresolve
  obtain ⟨names, hfiles, rfl⟩ := hnames
  obtain ⟨place, hplace, hdir, -, hmem⟩ := FileTree.mem_fileNames_iff hfiles
  rw [hasFile]
  cases hmatch : lastMatch names name with
  | some stored =>
    obtain ⟨hstored, hupper⟩ := lastMatch_eq_some hmatch
    have hfile : tree.HasFile place stored := (hmem stored).mp hstored
    rw [Option.getD_some, FileTree.isFile_child hplace hdir (hleads stored hupper), hfile,
      Option.isSome_some]
  | none =>
    have hfile : ¬ tree.HasFile place name := fun hfile =>
      notMem_of_lastMatch hmatch ((hmem name).mpr hfile)
    rw [Option.getD_none, FileTree.isFile_child hplace hdir (hleads name rfl),
      Bool.eq_false_iff.mpr hfile, Option.isSome_none]

end Folder

end ArenaData
