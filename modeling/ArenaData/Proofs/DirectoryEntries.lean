import ArenaData.Proofs.SoundTrees

/-!
# Entries of directories

A path from a directory of a sound tree that ends with a name leads to what the directory has under
this name, and to nothing if the name is none that a file may have. So the files that a directory
lists are those that names without a slash lead to. What can go wrong is that a path is too long.
-/

namespace ArenaData.FileTree

open ArenaData.Path (IsFileName)

variable {t : FileTree} {p : Path} {place : Place} {name : Text} {names : List Text}

/-! ## Following names -/

/-- The path is longer than a path may be, and the fault says so. -/
def TooLong (p : Path) (fault : Fault) : Prop :=
  maxPath < p.text.utf8Size ∧ fault = .nameTooLong p.text

theorem checkPath_of_zero_notMem (h : zero ∉ p.text) :
    checkPath p = if maxPath < p.text.utf8Size then .error (.nameTooLong p.text) else .ok () := by
  rw [checkPath, if_neg (fun hzero => h (List.contains_iff_mem.mp hzero))]

/-- A path to the name of a file is in order unless it is too long. -/
theorem checkPath_child (hplace : t.placeOf p = .ok place) (hname : IsFileName name) :
    checkPath (p.child name) =
      if maxPath < (p.child name).text.utf8Size then .error (.nameTooLong (p.child name).text)
      else .ok () := by
  obtain ⟨⟨⟩, hcheck, -⟩ := bind_eq_ok.mp hplace
  refine checkPath_of_zero_notMem ?_
  rw [Path.child_eq hname.ne_nil hname.ne_dot hname.slash_notMem]
  refine Path.notMem_text (by decide) (by decide) ?_
  intro part hpart
  rcases List.mem_append.mp hpart with hpart | hpart
  · exact fun hzero => zero_notMem_of_checkPath hcheck (Path.mem_text_of_mem hpart hzero)
  · rw [List.mem_singleton.mp hpart]
    exact hname.zero_notMem

/-- The name of a file leads to what the directory has under it, if the path is not too long. -/
theorem at?_child_of_isFileName (hplace : t.placeOf p = .ok place)
    (hdir : t.node? place = some .directory) (hname : IsFileName name) :
    t.at? (p.child name) =
      if maxPath < (p.child name).text.utf8Size then .error (.nameTooLong (p.child name).text)
      else .ok (t.node? (place ++ [name])) := by
  have hcheck := checkPath_child hplace hname
  split
  · rename_i hlong
    rw [if_pos hlong] at hcheck
    rw [at?, placeOf, hcheck]
    rfl
  · rename_i hshort
    rw [if_neg hshort] at hcheck
    exact at?_child hplace hdir (hname.leads hcheck)

theorem isFile_of_placeOf_error {fault : Fault} (h : t.placeOf p = .error fault) :
    t.isFile p ≠ .ok true := by
  rw [isFile, at?, h]
  cases hfault : fault.isAbsence with
  | true => simp [hfault, Except.map]
  | false => simp [hfault, Except.map]

theorem isFile_of_directory (hplace : t.placeOf p = .ok place)
    (hdir : t.node? place = some .directory) : t.isFile p ≠ .ok true := by
  rw [isFile, at?, hplace]
  simp [hdir, Except.map, Node.isFile]

/-- What is not the name of a file, and no way to one, leads to no file. -/
theorem Sound.isFile_child_of_not (h : t.Sound) (hplace : t.placeOf p = .ok place)
    (hdir : t.node? place = some .directory) (hslash : Path.slash ∉ name)
    (hname : ¬ IsFileName name) : t.isFile (p.child name) ≠ .ok true := by
  by_cases hsame : name = [] ∨ name = Path.dot
  · have hchild : p.child name = p := by
      obtain ⟨anchor, parts⟩ := p
      rcases hsame with rfl | rfl
      · exact congrArg _ (List.append_nil parts)
      · exact congrArg _ (List.append_nil parts)
    rw [hchild]
    exact isFile_of_directory hplace hdir
  · obtain ⟨hnil, hdot⟩ := not_or.mp hsame
    have hchild := Path.child_eq (p := p) hnil hdot hslash
    cases hcheck : checkPath (p.child name) with
    | error fault => exact isFile_of_placeOf_error (by rw [placeOf, hcheck]; rfl)
    | ok _ =>
      have hzero : zero ∉ name := by
        intro hzero
        refine zero_notMem_of_checkPath hcheck (Path.mem_text_of_mem ?_ hzero)
        rw [hchild]
        exact List.mem_append_right _ (List.mem_singleton_self name)
      have hfollow := placeOf_child hplace hcheck hchild
      by_cases hup : name = Path.dotDot
      · have hparent : t.placeOf (p.child name) = .ok place.dropLast := by
          rw [hfollow, hup, follow, hdir]
          rfl
        exact isFile_of_directory hparent (h.up hdir)
      · have hlong : maxName < name.utf8Size := by
          by_contra hshort
          exact hname ⟨hnil, hdot, hup, hslash, hzero, hshort⟩
        have hfault : t.placeOf (p.child name) =
            .error (.nameTooLong (Path.text ⟨.root, place ++ [name]⟩)) := by
          rw [hfollow, follow]
          simp only [hdir, if_neg hup, if_pos hlong]
        exact isFile_of_placeOf_error hfault

/-! ## Listings -/

theorem exists_of_isDirectory (h : t.isDirectory p = .ok true) :
    ∃ place, t.placeOf p = .ok place ∧ t.node? place = some .directory := by
  rw [isDirectory, at?] at h
  cases hplace : t.placeOf p with
  | error fault =>
    rw [hplace] at h
    cases hfault : fault.isAbsence with
    | true => simp [hfault, Except.map] at h
    | false => simp [hfault, Except.map] at h
  | ok place =>
    rw [hplace] at h
    refine ⟨place, rfl, ?_⟩
    cases hnode : t.node? place with
    | none => simp [hnode, Except.map] at h
    | some node => cases node with
      | directory => rfl
      | file content => simp [hnode, Except.map] at h

/-- Whether a directory is listed depends on nothing but the lengths of the paths to its entries. -/
theorem Sound.fileNames_cases (h : t.Sound) (hplace : t.placeOf p = .ok place)
    (hdir : t.node? place = some .directory) :
    (∃ names, t.fileNames p = .ok names) ∨
      ∃ name fault, (t.node? (place ++ [name])).isSome ∧ TooLong (p.child name) fault ∧
        t.fileNames p = .error fault := by
  have hfaults : FailsOnly (fun fault => ∃ name, (t.node? (place ++ [name])).isSome ∧
      TooLong (p.child name) fault) (t.fileNames p) := by
    rw [fileNames, hplace, ok_bind]
    simp only [hdir]
    refine (FailsOnly.forM fun name hname => ?_).bind fun _ _ => failsOnly_ok _
    have hentry := mem_entries_iff.mp hname
    rw [checkPath_child hplace (h.isFileName_entry hentry)]
    split
    · rename_i hlong
      exact failsOnly_error.mpr ⟨name, hentry, hlong, rfl⟩
    · exact failsOnly_ok _
  cases hnames : t.fileNames p with
  | ok names => exact Or.inl ⟨names, rfl⟩
  | error fault =>
    obtain ⟨name, hentry, hlong⟩ := hfaults fault hnames
    exact Or.inr ⟨name, fault, hentry, hlong, rfl⟩

theorem Sound.isFileName_of_mem (h : t.Sound) (hnames : t.fileNames p = .ok names)
    (hname : name ∈ names) : IsFileName name := by
  obtain ⟨place, -, -, -, hmem⟩ := mem_fileNames_iff hnames
  obtain ⟨content, hfile⟩ := hasFile_iff.mp ((hmem name).mp hname)
  have hentry : (t.node? (place ++ [name])).isSome := by
    rw [hfile]
    rfl
  exact h.isFileName_entry hentry

/-- A name without a slash leads to a file iff it is listed. -/
theorem Sound.isFile_child_iff (h : t.Sound) (hnames : t.fileNames p = .ok names)
    (hslash : Path.slash ∉ name) : t.isFile (p.child name) = .ok true ↔ name ∈ names := by
  obtain ⟨place, hplace, hdir, hpaths, hmem⟩ := mem_fileNames_iff hnames
  by_cases hname : IsFileName name
  · rw [hmem, isFile, at?_child_of_isFileName hplace hdir hname]
    split
    · rename_i hlong
      refine iff_of_false (by simp [Except.map]) fun hfile => ?_
      obtain ⟨content, hfile⟩ := hasFile_iff.mp hfile
      have hpath := hpaths name (by rw [hfile]; rfl)
      rw [checkPath_child hplace hname, if_pos hlong] at hpath
      cases hpath
    · simp [Except.map, HasFile]
  · exact iff_of_false (h.isFile_child_of_not hplace hdir hslash hname)
      fun hlisted => hname (h.isFileName_of_mem hnames hlisted)

end ArenaData.FileTree
