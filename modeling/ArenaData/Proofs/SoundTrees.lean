import ArenaData.Proofs.FolderFiles

/-!
# Sound trees

In a tree that a file system can hold every name is one that files may have, and whatever is
somewhere lies in a directory. An empty tree is sound, and making directories, writing, appending
and removing files keep it so, whatever texts the paths are read from.
-/

namespace ArenaData

/-! ## Names of files -/

namespace Path

/-- The name is one that a file or directory may have. -/
structure IsFileName (name : Text) : Prop where
  /-- It is not left out of a path. -/
  ne_nil : name ≠ []
  ne_dot : name ≠ dot
  /-- It does not lead back. -/
  ne_dotDot : name ≠ dotDot
  /-- It is one name. -/
  slash_notMem : slash ∉ name
  zero_notMem : FileTree.zero ∉ name
  /-- It is not too long. -/
  short : ¬ FileTree.maxName < name.utf8Size

theorem isFileName_iff {name : Text} : IsFileName name ↔
    name ≠ [] ∧ name ≠ dot ∧ name ≠ dotDot ∧ slash ∉ name ∧ FileTree.zero ∉ name ∧
      ¬ FileTree.maxName < name.utf8Size :=
  ⟨fun ⟨h1, h2, h3, h4, h5, h6⟩ => ⟨h1, h2, h3, h4, h5, h6⟩,
    fun ⟨h1, h2, h3, h4, h5, h6⟩ => ⟨h1, h2, h3, h4, h5, h6⟩⟩

instance (name : Text) : Decidable (IsFileName name) := decidable_of_iff' _ isFileName_iff

/-- The path to it can be followed, so it leads there. -/
theorem IsFileName.leads {p : Path} {name : Text} (h : IsFileName name)
    (hpath : FileTree.checkPath (p.child name) = .ok ()) : p.Leads name where
  ne_nil := h.ne_nil
  ne_dot := h.ne_dot
  ne_dotDot := h.ne_dotDot
  slash_notMem := h.slash_notMem
  short := h.short
  path := hpath

/-- The text is one name and none that a path leaves out. -/
def IsPart (name : Text) : Prop := name ≠ [] ∧ name ≠ dot ∧ slash ∉ name

/-- The path is one that a text may spell. -/
def Spelled (p : Path) : Prop := ∀ name ∈ p.parts, IsPart name

theorem slash_notMem_of_mem_splitFrom {t current part : Text} (hcurrent : slash ∉ current)
    (h : part ∈ splitFrom current t) : slash ∉ part := by
  induction t generalizing current with
  | nil =>
    rw [splitFrom, List.mem_singleton] at h
    rwa [h, List.mem_reverse]
  | cons c rest ih =>
    rw [splitFrom] at h
    split at h
    · rcases List.mem_cons.mp h with rfl | h
      · rwa [List.mem_reverse]
      · exact ih List.not_mem_nil h
    · rename_i hc
      exact ih (by simp [hcurrent, Ne.symm hc]) h

theorem spelled_ofText (t : Text) : (ofText t).Spelled := by
  intro name hname
  obtain ⟨hsplit, hkept⟩ := List.mem_filter.mp hname
  obtain ⟨hne, hdot⟩ : name ≠ [] ∧ name ≠ dot := by simpa using hkept
  exact ⟨hne, hdot, slash_notMem_of_mem_splitFrom List.not_mem_nil hsplit⟩

theorem Spelled.join {p next : Path} (hp : p.Spelled) (hnext : next.Spelled) :
    (p.join next).Spelled := by
  rw [Path.join]
  split
  · intro name hname
    rcases List.mem_append.mp hname with hname | hname
    · exact hp name hname
    · exact hnext name hname
  · exact hnext

theorem Spelled.child {p : Path} (hp : p.Spelled) (name : Text) : (p.child name).Spelled :=
  hp.join (spelled_ofText name)

theorem Spelled.parent {p : Path} (hp : p.Spelled) : p.parent.Spelled :=
  fun name hname => hp name (List.dropLast_subset _ hname)

theorem mem_text_of_mem {p : Path} {name : Text} {c : Char} (hname : name ∈ p.parts)
    (hc : c ∈ name) : c ∈ p.text := by
  obtain ⟨anchor, parts⟩ := p
  have hjoin : c ∈ Text.joinWith [slash] parts := by
    cases parts with
    | nil => cases hname
    | cons first rest =>
      rcases List.mem_cons.mp hname with rfl | hname
      · exact List.mem_append_left _ hc
      · exact List.mem_append_right _
          (List.mem_flatMap.mpr ⟨name, hname, List.mem_append_right _ hc⟩)
  cases anchor with
  | here => cases parts with
    | nil => cases hname
    | cons first rest => exact hjoin
  | root => exact List.mem_append_right _ hjoin
  | doubleRoot => exact List.mem_append_right _ hjoin

theorem notMem_text {p : Path} {c : Char} (hslash : c ≠ slash) (hdot : c ≠ '.')
    (h : ∀ name ∈ p.parts, c ∉ name) : c ∉ p.text := by
  obtain ⟨anchor, parts⟩ := p
  have hjoin : c ∉ Text.joinWith [slash] parts := by
    cases parts with
    | nil => exact List.not_mem_nil
    | cons first rest =>
      obtain ⟨hfirst, hrest⟩ := List.forall_mem_cons.mp h
      intro hc
      rcases List.mem_append.mp hc with hc | hc
      · exact hfirst hc
      · obtain ⟨name, hname, hc⟩ := List.mem_flatMap.mp hc
        rcases List.mem_cons.mp hc with hc | hc
        · exact hslash hc
        · exact hrest name hname hc
  have hanchor : c ∉ anchorText anchor := by
    cases anchor with
    | here => exact List.not_mem_nil
    | root => simpa [anchorText, slash] using hslash
    | doubleRoot => simpa [anchorText, slash] using hslash
  have hboth : c ∉ anchorText anchor ++ Text.joinWith [slash] parts := by
    rw [List.mem_append]
    exact fun hc => hc.elim hanchor hjoin
  rw [text]
  split
  · exact fun hc => hdot (List.mem_singleton.mp hc)
  · exact hboth

end Path

namespace FileTree

open ArenaData.Path (IsFileName)

variable {t changed : FileTree} {p : Path} {place other : Place} {name : Text} {node : Node}
  {content : Bytes}

/-! ## Soundness -/

/-- Every name in the tree is one that files may have, and what is somewhere lies in a directory. -/
structure Sound (t : FileTree) : Prop where
  isFileName : ∀ place, (t.node? place).isSome → ∀ name ∈ place, IsFileName name
  around : ∀ place, (t.node? place).isSome → t.node? place.dropLast = some .directory

theorem node?_nil (t : FileTree) : t.node? [] = some .directory := rfl

/-- A directory lies in a directory, which for the root is itself. -/
theorem Sound.up (h : t.Sound) (hdir : t.node? place = some .directory) :
    t.node? place.dropLast = some .directory :=
  h.around place (by rw [hdir]; rfl)

theorem Sound.isFileName_entry (h : t.Sound) (hnode : (t.node? (place ++ [name])).isSome) :
    IsFileName name :=
  h.isFileName _ hnode name (by simp)

/-- The directories of an empty tree are those on the way to the working directory. -/
theorem mem_empty_iff {workPlace : Place} {entry : Place × Node} :
    (entry ∈ (List.range workPlace.length).map fun i =>
      (workPlace.take (i + 1), Node.directory)) ↔
      entry.1 ≠ [] ∧ entry.1 <+: workPlace ∧ entry.2 = .directory := by
  obtain ⟨place, node⟩ := entry
  simp only [List.mem_map, List.mem_range, Prod.mk.injEq]
  constructor
  · rintro ⟨i, hi, rfl, rfl⟩
    refine ⟨?_, List.take_prefix _ _, rfl⟩
    intro hnil
    have hlength := congrArg List.length hnil
    rw [List.length_take, List.length_nil] at hlength
    omega
  · rintro ⟨hne, hprefix, rfl⟩
    have hpos : 0 < place.length := List.length_pos_iff.mpr hne
    have hle : place.length ≤ workPlace.length := hprefix.length_le
    refine ⟨place.length - 1, by omega, ?_, rfl⟩
    rw [Nat.sub_add_cancel hpos]
    exact (List.prefix_iff_eq_take.mp hprefix).symm

theorem node?_empty_of_prefix {workPlace : Place} (h : place <+: workPlace) :
    (empty workPlace).node? place = some .directory := by
  rw [node?]
  split
  · rfl
  · rename_i hnil
    refine Std.TreeMap.getElem?_ofList_of_mem Std.ReflCmp.compare_self ?_
      (mem_empty_iff.mpr ⟨by simpa using hnil, h, rfl⟩)
    rw [List.pairwise_map]
    refine List.pairwise_lt_range.imp_of_mem ?_
    intro i j hi hj hlt heq
    have hlength := congrArg List.length (Std.LawfulEqCmp.eq_of_compare heq)
    rw [List.mem_range] at hi hj
    rw [List.length_take, List.length_take] at hlength
    omega

theorem prefix_of_node?_empty {workPlace : Place} (h : ((empty workPlace).node? place).isSome) :
    place <+: workPlace := by
  rw [node?] at h
  split at h
  · rename_i hnil
    rw [List.isEmpty_iff.mp hnil]
    exact List.nil_prefix
  · have hmem : place ∈ (empty workPlace).nodes :=
      Std.TreeMap.mem_iff_isSome_getElem?.mpr h
    rw [empty, Std.TreeMap.mem_ofList, List.contains_iff_mem, List.mem_map] at hmem
    obtain ⟨entry, hentry, rfl⟩ := hmem
    exact (mem_empty_iff.mp hentry).2.1

/-- An empty tree is sound if the working directory has names that directories may have. -/
theorem Sound.empty {workPlace : Place} (h : ∀ name ∈ workPlace, IsFileName name) :
    (empty workPlace).Sound where
  isFileName _ hplace name hname :=
    h name ((prefix_of_node?_empty hplace).subset hname)
  around place hplace :=
    node?_empty_of_prefix ((List.dropLast_prefix place).trans (prefix_of_node?_empty hplace))

/-! ## Single changes -/

/-- Something put in a directory under the name of a file; only a directory takes the place of a
directory. -/
theorem Sound.put (h : t.Sound) (hdir : t.node? place = some .directory) (hname : IsFileName name)
    (hkept : t.node? (place ++ [name]) = some .directory → node = .directory) :
    (t.put (place ++ [name]) node).Sound := by
  have hnode (other : Place) := node?_put t (place ++ [name]) other node (by simp)
  have hstays : ∀ other, t.node? other = some .directory →
      (t.put (place ++ [name]) node).node? other = some .directory := by
    intro other hother
    rw [hnode]
    split
    · rename_i heq
      rw [hkept (heq ▸ hother)]
    · exact hother
  constructor
  · intro other hother part hpart
    rw [hnode] at hother
    split at hother
    · rename_i heq
      rw [heq] at hpart
      rcases List.mem_append.mp hpart with hpart | hpart
      · exact h.isFileName place (by rw [hdir]; rfl) part hpart
      · rwa [List.mem_singleton.mp hpart]
    · exact h.isFileName other hother part hpart
  · intro other hother
    apply hstays
    rw [hnode] at hother
    split at hother
    · rename_i heq
      rwa [heq, List.dropLast_concat]
    · exact h.around other hother

/-- What is erased is gone, and nothing else has changed. -/
theorem node?_erase (t : FileTree) (other : Place) (h : place ≠ []) :
    node? { t with nodes := t.nodes.erase place } other =
      if other = place then none else t.node? other := by
  by_cases ho : other = place
  · subst ho
    simp [node?, h]
  · simp [node?, ho, Std.TreeMap.getElem?_erase, Ne.symm ho]

/-- A file taken away. -/
theorem Sound.erase (h : t.Sound) {file : ByteArray} (hfile : t.node? place = some (.file file)) :
    Sound { t with nodes := t.nodes.erase place } := by
  have hplace : place ≠ [] := by
    rintro rfl
    rw [node?_nil] at hfile
    cases hfile
  have hnode (other : Place) := node?_erase t other hplace
  have hthere : ∀ other, (node? { t with nodes := t.nodes.erase place } other).isSome →
      (t.node? other).isSome := by
    intro other hother
    rw [hnode] at hother
    split at hother
    · cases hother
    · exact hother
  constructor
  · intro other hother
    exact h.isFileName other (hthere other hother)
  · intro other hother
    have hdir := h.around other (hthere other hother)
    rw [hnode, if_neg ?_, hdir]
    intro heq
    rw [heq, hfile] at hdir
    cases hdir

/-! ## Operations -/

theorem zero_notMem_of_checkPath (h : checkPath p = .ok ()) : zero ∉ p.text := by
  intro hzero
  rw [checkPath, if_pos (List.contains_iff_mem.mpr hzero)] at h
  cases h

/-- The place of a file is a name in a directory. -/
theorem exists_of_filePlace (hp : p.Spelled) (h : t.filePlace p = .ok place) :
    ∃ around name, place = around ++ [name] ∧ t.node? around = some .directory ∧
      IsFileName name := by
  obtain ⟨⟨⟩, hcheck, h⟩ := bind_eq_ok.mp h
  obtain ⟨around, -, h⟩ := bind_eq_ok.mp h
  split at h
  · rename_i name hdir hname
    have hmem : name ∈ p.parts := List.mem_of_getLast? hname
    obtain ⟨hne, hdot, hslash⟩ := hp name hmem
    have hzero : zero ∉ name := fun hzero =>
      zero_notMem_of_checkPath hcheck (Path.mem_text_of_mem hmem hzero)
    split at h
    · cases h
    · rename_i hup
      split at h
      · cases h
      · rename_i hlong
        exact ⟨around, name, (Except.ok.inj h).symm, hdir, hne, hdot, hup, hslash, hzero, hlong⟩
  · cases h
  · cases h

theorem Sound.makeDirectories (h : t.Sound) (length : Nat) {names : List Text}
    (hnames : ∀ name ∈ names, Path.IsPart name) :
    (t.makeDirectories place length names).2.Sound := by
  fun_induction FileTree.makeDirectories t place length names with
  | case1 => exact h
  | case2 => exact h
  | case3 => exact h
  | case4 _ _ _ _ _ _ _ _ ih => exact ih h (List.forall_mem_cons.mp hnames).2
  | case5 => exact h
  | case6 _ _ _ _ _ _ _ _ _ _ _ _ _ ih => exact ih h (List.forall_mem_cons.mp hnames).2
  | case7 => exact h
  | case8 _ _ _ _ _ _ _ _ _ _ _ _ _ _ _ ih => exact ih h (List.forall_mem_cons.mp hnames).2
  | case9 t place _ name _ _ _ hzero _ hdir hup hlong _ ih =>
    obtain ⟨⟨hne, hdot, hslash⟩, hrest⟩ := List.forall_mem_cons.mp hnames
    have hname : IsFileName name :=
      ⟨hne, hdot, hup, hslash, fun hmem => hzero (List.contains_iff_mem.mpr hmem), hlong⟩
    have hput : (t.put (place ++ [name]) .directory).Sound := h.put hdir hname fun _ => rfl
    exact ih hput hrest
  | case10 => exact h

theorem Sound.makeDirectory (h : t.Sound) (hp : p.Spelled) : (t.makeDirectory p).2.Sound := by
  rw [FileTree.makeDirectory]
  split
  · exact h
  · exact h.makeDirectories _ hp

theorem Sound.writeFile (h : t.Sound) (hp : p.Spelled)
    (hwrite : t.writeFile p content = .ok changed) : changed.Sound := by
  obtain ⟨place, hplace, hwrite⟩ := bind_eq_ok.mp hwrite
  obtain ⟨around, name, rfl, hdir, hname⟩ := exists_of_filePlace hp hplace
  split at hwrite
  · cases hwrite
  · rename_i hnode
    obtain rfl := Except.ok.inj hwrite
    exact h.put hdir hname fun h => absurd h hnode

theorem Sound.appendFile (h : t.Sound) (hp : p.Spelled) {more : ByteArray}
    (happend : t.appendFile p more = .ok changed) : changed.Sound := by
  obtain ⟨place, hplace, happend⟩ := bind_eq_ok.mp happend
  obtain ⟨around, name, rfl, hdir, hname⟩ := exists_of_filePlace hp hplace
  split at happend
  · cases happend
  · rename_i hnode
    obtain rfl := Except.ok.inj happend
    exact h.put hdir hname fun h => nomatch hnode.symm.trans h
  · rename_i hnode
    obtain rfl := Except.ok.inj happend
    exact h.put hdir hname fun h => nomatch hnode.symm.trans h

theorem Sound.saveFile (h : t.Sound) (hp : p.Spelled) : (t.saveFile p content).2.Sound := by
  have hmade := h.makeDirectory hp.parent
  rw [FileTree.saveFile]
  split
  · rename_i made hmake
    rw [hmake] at hmade
    cases hwrite : made.writeFile p content with
    | error fault => exact hmade
    | ok changed => exact Sound.writeFile hmade hp hwrite
  · rename_i fault made hmake
    rwa [hmake] at hmade

theorem Sound.remove (h : t.Sound) (hremove : t.remove p = .ok changed) : changed.Sound := by
  obtain ⟨place, -, hremove⟩ := bind_eq_ok.mp hremove
  split at hremove
  · cases hremove
  · cases hremove
  · rename_i hfile
    obtain rfl := Except.ok.inj hremove
    exact h.erase hfile

/-- The tree comes from an empty one by making directories, writing, appending and removing files on
paths that are read from texts. -/
inductive Built : FileTree → Prop where
  | empty {workPlace : Place} : (∀ name ∈ workPlace, IsFileName name) → Built (empty workPlace)
  | makeDirectory {t : FileTree} (path : Text) : Built t →
    Built (t.makeDirectory (.ofText path)).2
  | saveFile {t : FileTree} (path : Text) (content : Bytes) : Built t →
    Built (t.saveFile (.ofText path) content).2
  | appendFile {t changed : FileTree} (path : Text) (content : ByteArray) : Built t →
    t.appendFile (.ofText path) content = .ok changed → Built changed
  | remove {t changed : FileTree} (path : Text) : Built t →
    t.remove (.ofText path) = .ok changed → Built changed

/-- None of these changes takes a tree out of the sound ones. -/
theorem Built.sound (h : Built t) : t.Sound := by
  induction h with
  | empty hnames => exact .empty hnames
  | makeDirectory path _ ih => exact ih.makeDirectory (Path.spelled_ofText path)
  | saveFile path content _ ih => exact ih.saveFile (Path.spelled_ofText path)
  | appendFile path content _ happend ih => exact ih.appendFile (Path.spelled_ofText path) happend
  | remove path _ hremove ih => exact ih.remove hremove

end FileTree

end ArenaData
