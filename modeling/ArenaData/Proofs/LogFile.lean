import ArenaData.Log.Journal
import ArenaData.Proofs.MovedFiles

/-!
# Opening the log file

The log file can be opened in a tree if the working directory is there, no file has the name of the
directory of the log file, no directory has that of the log file, and the path of the log file from
the root is not too long (`Opens`). This is just when `openLogFile` succeeds (`openLogFile_iff`).

Opening the log file does not change whether it can be opened, and a row that is written to it never
keeps it from being opened later, not even if room is made for the row on the way
(`Journal.keeps_append`): only files beside the log file are moved, and none of them to its place.
-/

namespace ArenaData

namespace Log

open Settings (logFile)

variable {t changed : FileTree} {place : ArenaData.Place}

/-- The place of the directory of the log file. -/
def logFolder (t : FileTree) : ArenaData.Place := t.workPlace ++ logFile.parent.parts

/-- The place of the log file. -/
def logPlace (t : FileTree) : ArenaData.Place := t.workPlace ++ logFile.parts

theorem logPlace_eq (t : FileTree) : logPlace t = logFolder t ++ [logFile.name] := by
  rw [logPlace, logFolder, List.append_assoc]
  rfl

theorem logFolder_ne_nil (t : FileTree) : logFolder t ≠ [] := by
  simp [logFolder, logFile, Path.parent]

theorem logPlace_ne_nil (t : FileTree) : logPlace t ≠ [] := by
  simp [logPlace, logFile]

theorem workPlace_ne_logFolder (t : FileTree) : t.workPlace ≠ logFolder t := by
  simp [logFolder, logFile, Path.parent]

theorem logFolder_ne_logPlace (t : FileTree) : logFolder t ≠ logPlace t := by
  simp [logPlace_eq]

theorem workPlace_ne_logPlace (t : FileTree) : t.workPlace ≠ logPlace t := by
  simp [logPlace, logFile]

/-- The directory of the log file is there, or can be made. -/
structure HasRoom (t : FileTree) : Prop where
  /-- The working directory is still there. -/
  work : t.node? t.workPlace = some .directory
  /-- No file has its name. -/
  free : ∀ content, t.node? (logFolder t) ≠ some (.file content)

/-- The log file can be opened. -/
structure Opens (t : FileTree) : Prop extends HasRoom t where
  /-- No directory has its name. -/
  noDirectory : t.node? (logPlace t) ≠ some .directory
  /-- Its path from the root can be used. -/
  path : checkFromRoot t logFile = .ok ()

/-- What a path from the working directory is from the root is told by the working directory. -/
theorem checkFromRoot_eq (h : changed.workPlace = t.workPlace) (p : Path) :
    checkFromRoot changed p = checkFromRoot t p := by
  rw [checkFromRoot, h, checkFromRoot]

/-- If what the log file needs around it is as it was, and no directory has taken its place, it can
be opened as before. -/
theorem Opens.of_nodes (h : Opens t) (hworkPlace : changed.workPlace = t.workPlace)
    (hwork : changed.node? t.workPlace = t.node? t.workPlace)
    (hfolder : ∀ content, changed.node? (logFolder t) ≠ some (.file content))
    (hfile : changed.node? (logPlace t) ≠ some .directory) : Opens changed where
  work := by rw [hworkPlace, hwork, h.work]
  free := by rw [logFolder, hworkPlace]; exact hfolder
  noDirectory := by rw [logPlace, hworkPlace]; exact hfile
  path := by rw [checkFromRoot_eq hworkPlace, h.path]

/-! ## Its directory -/

/-- The tree with the directory of the log file, which has been made if it was not there. -/
def withLogFolder (t : FileTree) : FileTree :=
  match t.node? (logFolder t) with
  | none => t.put (logFolder t) .directory
  | some _ => t

theorem workPlace_withLogFolder (t : FileTree) : (withLogFolder t).workPlace = t.workPlace := by
  rw [withLogFolder]
  split <;> rfl

theorem logFolder_withLogFolder (t : FileTree) : logFolder (withLogFolder t) = logFolder t := by
  rw [logFolder, workPlace_withLogFolder, logFolder]

theorem logPlace_withLogFolder (t : FileTree) : logPlace (withLogFolder t) = logPlace t := by
  rw [logPlace, workPlace_withLogFolder, logPlace]

/-- Nothing but the directory is made. -/
theorem node?_withLogFolder (h : HasRoom t) (place : ArenaData.Place) :
    (withLogFolder t).node? place =
      if place = logFolder t then some .directory else t.node? place := by
  rw [withLogFolder]
  split
  · exact FileTree.node?_put _ _ _ _ (logFolder_ne_nil t)
  · rename_i node hnode
    split
    · rename_i hplace
      cases node with
      | directory => rw [hplace, hnode]
      | file content => exact absurd hnode (h.free content)
    · rfl

theorem node?_logFolder_withLogFolder (h : HasRoom t) :
    (withLogFolder t).node? (logFolder t) = some .directory := by
  rw [node?_withLogFolder h, if_pos rfl]

theorem node?_logPlace_withLogFolder (h : HasRoom t) :
    (withLogFolder t).node? (logPlace t) = t.node? (logPlace t) := by
  rw [node?_withLogFolder h, if_neg (logFolder_ne_logPlace t).symm]

theorem withLogFolder_again (h : HasRoom t) :
    withLogFolder (withLogFolder t) = withLogFolder t := by
  rw [withLogFolder, logFolder_withLogFolder, node?_logFolder_withLogFolder h]

/-- The directory of the log file is all that is made, so the log file can be opened afterwards if
it could before. -/
theorem opens_withLogFolder (h : HasRoom t) : Opens (withLogFolder t) ↔ Opens t := by
  have hfile := node?_logPlace_withLogFolder h
  constructor
  · intro hopens
    refine ⟨h, ?_, ?_⟩
    · rw [← hfile, ← logPlace_withLogFolder]
      exact hopens.noDirectory
    · rw [← checkFromRoot_eq (workPlace_withLogFolder t)]
      exact hopens.path
  · intro hopens
    refine hopens.of_nodes (workPlace_withLogFolder t) ?_ ?_ ?_
    · rw [node?_withLogFolder h, if_neg (workPlace_ne_logFolder t)]
    · rw [node?_logFolder_withLogFolder h]
      exact nofun
    · rw [hfile]
      exact hopens.noDirectory

/-- Making the directory of the log file: it is made, or nothing is. -/
theorem makeDirectories_logFile (t : FileTree) :
    (HasRoom t ∧
        t.makeDirectories t.workPlace 0 logFile.parent.parts = (.ok (), withLogFolder t)) ∨
      (¬ HasRoom t ∧
        ∃ fault, t.makeDirectories t.workPlace 0 logFile.parent.parts = (.error fault, t)) := by
  have hparts : logFile.parent.parts = [logFile.parent.name] := rfl
  have hzero : ¬ logFile.parent.name.contains FileTree.zero := by decide
  have hshort : ¬ FileTree.maxPath < 0 + 1 + logFile.parent.name.utf8Size := by decide
  have hup : logFile.parent.name ≠ Path.dotDot := by decide
  have hname : ¬ FileTree.maxName < logFile.parent.name.utf8Size := by decide
  have hinner : t.workPlace ++ [logFile.parent.name] = logFolder t := rfl
  rw [hparts, FileTree.makeDirectories]
  simp only [if_neg hzero, if_neg hshort, if_neg hup, if_neg hname, hinner]
  split
  · rename_i hwork
    split
    · rename_i hfolder
      have hfree (content : ByteArray) : t.node? (logFolder t) ≠ some (.file content) := by
        simp [hfolder]
      refine Or.inl ⟨⟨hwork, hfree⟩, ?_⟩
      rw [withLogFolder, hfolder]
      rfl
    · rename_i content hfile
      exact Or.inr ⟨fun h => h.free content hfile, _, rfl⟩
    · rename_i hnone
      have hfree (content : ByteArray) : t.node? (logFolder t) ≠ some (.file content) := by
        simp [hnone]
      refine Or.inl ⟨⟨hwork, hfree⟩, ?_⟩
      rw [withLogFolder, hnone]
      rfl
  · rename_i hwork
    exact Or.inr ⟨fun h => hwork h.work, _, rfl⟩

/-! ## Writing it -/

/-- In a directory that is there the log file has its place. -/
theorem filePlace_logFile (hwork : t.node? t.workPlace = some .directory)
    (hfolder : t.node? (logFolder t) = some .directory) :
    t.filePlace logFile = .ok (logPlace t) := by
  have hfollow : t.follow t.workPlace [logFile.parent.name] = .ok (logFolder t) := by
    have hinner : t.workPlace ++ [logFile.parent.name] = logFolder t := rfl
    have hup : logFile.parent.name ≠ Path.dotDot := by decide
    have hname : ¬ FileTree.maxName < logFile.parent.name.utf8Size := by decide
    rw [FileTree.follow]
    simp only [hwork, if_neg hup, if_neg hname, hinner, hfolder]
    rfl
  have hcheck : FileTree.checkPath logFile = .ok () := by rfl
  have hup : logFile.name ≠ Path.dotDot := by decide
  have hname : ¬ FileTree.maxName < logFile.name.utf8Size := by decide
  have hlast : logFile.parts.getLast? = some logFile.name := rfl
  rw [FileTree.filePlace, hcheck, ok_bind]
  show (do let around ← t.follow t.workPlace [logFile.parent.name]; _) = _
  rw [hfollow, ok_bind]
  simp only [hfolder, hlast, if_neg hup, if_neg hname, ← logPlace_eq]
  rfl

/-- Appending to the log file puts a file at its place, where no directory was. -/
theorem appendFile_logFile {content : ByteArray} (h : t.appendFile logFile content = .ok changed) :
    t.node? (logPlace t) ≠ some .directory ∧
      ∃ whole, changed = t.put (logPlace t) (.file whole) := by
  obtain ⟨place, hplace, h⟩ := bind_eq_ok.mp h
  obtain ⟨rfl, -⟩ := FileTree.filePlace_eq hplace (by decide)
  have hstart : t.startOf logFile ++ logFile.parts = logPlace t := rfl
  rw [hstart] at h
  split at h
  · cases h
  · rename_i before hnode
    exact ⟨by simp [hnode], _, (Except.ok.inj h).symm⟩
  · rename_i hnode
    exact ⟨by simp [hnode], _, (Except.ok.inj h).symm⟩

/-- In a directory that is there the log file is written, if it can be opened. -/
theorem exists_appendFile_logFile (h : Opens t)
    (hfolder : t.node? (logFolder t) = some .directory) (content : ByteArray) :
    ∃ changed, t.appendFile logFile content = .ok changed := by
  rw [FileTree.appendFile, filePlace_logFile h.work hfolder, ok_bind]
  split
  · rename_i hnode
    exact absurd hnode h.noDirectory
  · exact ⟨_, rfl⟩
  · exact ⟨_, rfl⟩

/-! ## Opening it -/

theorem appendToLogFile_eq_ok_iff : appendToLogFile t = .ok changed ↔
    checkFromRoot t logFile = .ok () ∧ t.appendFile logFile .empty = .ok changed := by
  rw [appendToLogFile, bind_eq_ok]
  exact ⟨fun ⟨_, hpath, happend⟩ => ⟨hpath, happend⟩, fun ⟨hpath, happend⟩ => ⟨(), hpath, happend⟩⟩

/-- Opening the log file writes it if it can be opened, and makes at most its directory if not. -/
theorem openLogFile_cases (t : FileTree) :
    (Opens t ∧ ∃ whole, openLogFile t = (true, (withLogFolder t).put (logPlace t) (.file whole))) ∨
      (¬ Opens t ∧ (openLogFile t = (false, t) ∨
        HasRoom t ∧ openLogFile t = (false, withLogFolder t))) := by
  rcases makeDirectories_logFile t with ⟨hroom, hmake⟩ | ⟨hroom, fault, hmake⟩
  · cases happend : appendToLogFile (withLogFolder t) with
    | ok changed =>
      obtain ⟨hpath, hwritten⟩ := appendToLogFile_eq_ok_iff.mp happend
      obtain ⟨hfree, whole, rfl⟩ := appendFile_logFile hwritten
      rw [logPlace_withLogFolder, node?_logPlace_withLogFolder hroom] at hfree
      rw [checkFromRoot_eq (workPlace_withLogFolder t)] at hpath
      refine Or.inl ⟨⟨hroom, hfree, hpath⟩, whole, ?_⟩
      rw [openLogFile, hmake]
      simp only [happend, logPlace_withLogFolder]
    | error fault =>
      have hfolder : (withLogFolder t).node? (logFolder (withLogFolder t)) = some .directory := by
        rw [logFolder_withLogFolder, node?_logFolder_withLogFolder hroom]
      refine Or.inr ⟨fun hopens => ?_, Or.inr ⟨hroom, ?_⟩⟩
      · have hmade := (opens_withLogFolder hroom).mpr hopens
        obtain ⟨changed, hwritten⟩ := exists_appendFile_logFile hmade hfolder .empty
        have hopened := appendToLogFile_eq_ok_iff.mpr ⟨hmade.path, hwritten⟩
        rw [happend] at hopened
        cases hopened
      · rw [openLogFile, hmake]
        simp only [happend]
  · refine Or.inr ⟨fun h => hroom h.toHasRoom, Or.inl ?_⟩
    rw [openLogFile, hmake]

/-- Which trees the log file can be opened in. -/
theorem openLogFile_iff : (openLogFile t).1 = true ↔ Opens t := by
  rcases openLogFile_cases t with ⟨hopens, whole, heq⟩ | ⟨hnot, heq | ⟨-, heq⟩⟩
  · simp [heq, hopens]
  · simp [heq, hnot]
  · simp [heq, hnot]

instance (t : FileTree) : Decidable (Opens t) := decidable_of_iff _ openLogFile_iff

/-- With nothing but the working directory there is room for the log file. -/
theorem opens_empty {workPlace : ArenaData.Place}
    (h : checkFromRoot (.empty workPlace) logFile = .ok ()) : Opens (.empty workPlace) := by
  have hnothing : ∀ rest, rest ≠ [] →
      (FileTree.empty workPlace).node? (workPlace ++ rest) = none := by
    intro rest hrest
    cases hnode : (FileTree.empty workPlace).node? (workPlace ++ rest) with
    | none => rfl
    | some node =>
      have hlength := (FileTree.prefix_of_node?_empty (by rw [hnode]; rfl)).length_le
      rw [List.length_append] at hlength
      have hpos := List.length_pos_iff.mpr hrest
      omega
  have hfolder : (FileTree.empty workPlace).node? (logFolder (.empty workPlace)) = none :=
    hnothing logFile.parent.parts (by decide)
  have hfile : (FileTree.empty workPlace).node? (logPlace (.empty workPlace)) = none :=
    hnothing logFile.parts (by decide)
  exact ⟨⟨FileTree.node?_empty_of_prefix List.prefix_rfl, by simp [hfolder]⟩, by simp [hfile], h⟩

theorem workPlace_openLogFile (t : FileTree) : (openLogFile t).2.workPlace = t.workPlace := by
  rcases openLogFile_cases t with ⟨-, whole, heq⟩ | ⟨-, heq | ⟨-, heq⟩⟩
  · rw [heq]
    exact workPlace_withLogFolder t
  · rw [heq]
  · rw [heq]
    exact workPlace_withLogFolder t

/-- If the log file cannot be opened, trying again changes nothing. -/
theorem openLogFile_again (h : ¬ Opens t) :
    openLogFile (openLogFile t).2 = (false, (openLogFile t).2) := by
  rcases openLogFile_cases t with ⟨hopens, -⟩ | ⟨-, heq | ⟨hroom, heq⟩⟩
  · exact absurd hopens h
  · rw [heq, heq]
  · rw [heq]
    rcases openLogFile_cases (withLogFolder t) with ⟨hopens, -⟩ | ⟨-, hagain | ⟨-, hagain⟩⟩
    · exact absurd ((opens_withLogFolder hroom).mp hopens) h
    · exact hagain
    · rw [hagain, withLogFolder_again hroom]

/-! ## What keeps the log file within reach -/

/-- The change keeps the working directory, and leaves a log file that could be opened so. -/
structure Keeps (t changed : FileTree) : Prop where
  workPlace : changed.workPlace = t.workPlace
  opens : Opens t → Opens changed

theorem Keeps.refl (t : FileTree) : Keeps t t := ⟨rfl, id⟩

theorem Keeps.trans {first second third : FileTree} (h : Keeps first second)
    (h' : Keeps second third) : Keeps first third :=
  ⟨h'.workPlace.trans h.workPlace, fun hopens => h'.opens (h.opens hopens)⟩

theorem keeps_put (t : FileTree) (content : ByteArray) :
    Keeps t (t.put (logPlace t) (.file content)) := by
  have hnode (other : ArenaData.Place) :=
    FileTree.node?_put t (logPlace t) other (.file content) (logPlace_ne_nil t)
  refine ⟨rfl, fun h => h.of_nodes rfl ?_ ?_ ?_⟩
  · rw [hnode, if_neg (workPlace_ne_logPlace t)]
  · rw [hnode, if_neg (logFolder_ne_logPlace t)]
    exact h.free
  · rw [hnode, if_pos rfl]
    exact nofun

/-- Opening the log file does not change whether it can be opened. -/
theorem opens_openLogFile : Opens (openLogFile t).2 ↔ Opens t := by
  rcases openLogFile_cases t with ⟨hopens, whole, heq⟩ | ⟨-, heq | ⟨hroom, heq⟩⟩
  · have hmade := (opens_withLogFolder hopens.toHasRoom).mpr hopens
    rw [heq, ← logPlace_withLogFolder]
    exact ⟨fun _ => hopens, fun _ => (keeps_put _ whole).opens hmade⟩
  · rw [heq]
  · rw [heq]
    exact opens_withLogFolder hroom

theorem keeps_appendFile {content : ByteArray} (h : t.appendFile logFile content = .ok changed) :
    Keeps t changed := by
  obtain ⟨-, whole, rfl⟩ := appendFile_logFile h
  exact keeps_put t whole

/-- The path is that of a file next to the log file, or of the log file itself. -/
def Beside (p : Path) : Prop :=
  p.anchor = .here ∧ p.parts = logFile.parent.parts ++ [p.name] ∧ Path.dotDot ∉ p.parts

instance (p : Path) : Decidable (Beside p) := instDecidableAnd

/-- The move is from one such file to another, and not to the log file. -/
def MakesWay (move : Path × Path) : Prop :=
  Beside move.1 ∧ Beside move.2 ∧ move.2.name ≠ logFile.name

instance (move : Path × Path) : Decidable (MakesWay move) := instDecidableAnd

theorem makesWay_moves : ∀ move ∈ moves, MakesWay move := by decide

theorem Beside.place_eq {p : Path} (h : Beside p) (t : FileTree) :
    t.startOf p ++ p.parts = logFolder t ++ [p.name] := by
  obtain ⟨hanchor, hparts, -⟩ := h
  rw [FileTree.startOf, hanchor, logFolder, List.append_assoc, ← hparts]

theorem not_prefix_of_beside {p : Path} (h : Beside p) (hplace : place <+: logFolder t) :
    ¬ t.startOf p ++ p.parts <+: place := by
  intro hbelow
  have hlength := (hbelow.trans hplace).length_le
  rw [h.place_eq, List.length_append, List.length_singleton] at hlength
  omega

theorem keeps_displace {source target : Path} (hmove : MakesWay (source, target))
    (h : t.displace source target = .ok changed) : Keeps t changed := by
  obtain ⟨hsource : Beside source, htarget : Beside target, hne⟩ := hmove
  have hparts : source.parts ≠ [] := by simp [hsource.2.1]
  have hframe (place : ArenaData.Place) :=
    FileTree.node?_displace place h hsource.2.2 htarget.2.2 hparts
  -- above the files that are moved nothing changes
  have habove : ∀ place, place <+: logFolder t → changed.node? place = t.node? place := by
    intro place hplace
    obtain ⟨-, hsame | ⟨hbelow, -⟩⟩ := hframe place (not_prefix_of_beside htarget hplace)
    · exact hsame
    · exact absurd hbelow (not_prefix_of_beside hsource hplace)
  have hlog : ¬ t.startOf target ++ target.parts <+: logPlace t := by
    rw [htarget.place_eq, logPlace_eq, List.prefix_append_right_inj]
    simpa using hne
  obtain ⟨hwork, hfile⟩ := hframe (logPlace t) hlog
  refine ⟨hwork, fun hopens => hopens.of_nodes hwork ?_ ?_ ?_⟩
  · exact habove _ (List.prefix_append _ _)
  · rw [habove _ List.prefix_rfl]
    exact hopens.free
  · rcases hfile with hsame | ⟨-, hgone⟩
    · rw [hsame]
      exact hopens.noDirectory
    · rw [hgone]
      exact nofun

theorem keeps_makeWay {source target : Path} (hmove : MakesWay (source, target))
    (h : makeWay t source target = .ok changed) : Keeps t changed := by
  rw [makeWay] at h
  split at h
  · obtain ⟨_, -, hmoved⟩ := bind_eq_ok.mp h
    exact keeps_displace hmove hmoved
  · exact keeps_displace hmove h

theorem keeps_makeRoom {steps : List (Path × Path)} (h : ∀ move ∈ steps, MakesWay move)
    (t : FileTree) : Keeps t (makeRoom t steps).2 := by
  fun_induction makeRoom t steps with
  | case1 t => exact Keeps.refl t
  | case2 t source target rest moved hmoved ih =>
    obtain ⟨hmove, hrest⟩ := List.forall_mem_cons.mp h
    exact (keeps_makeWay hmove hmoved).trans (ih hrest)
  | case3 t => exact Keeps.refl t

namespace Journal

variable {j changed : Journal}

theorem keeps_opened (h : j.opened = .ok changed) : Keeps j.tree changed.tree := by
  rw [opened] at h
  split at h
  · cases happend : appendToLogFile j.tree with
    | error fault =>
      rw [happend] at h
      cases h
    | ok tree =>
      rw [happend] at h
      obtain rfl := Except.ok.inj h
      exact keeps_appendFile (appendToLogFile_eq_ok_iff.mp happend).2
  · rw [Except.ok.inj h]
    exact Keeps.refl _

theorem keeps_prepared (j : Journal) (length : Nat) : Keeps j.tree (j.prepared length).2.tree := by
  rw [prepared]
  split
  · exact Keeps.refl _
  · split
    · exact Keeps.refl _
    · rename_i opened hopened
      split
      · exact keeps_opened hopened
      · exact (keeps_opened hopened).trans (keeps_makeRoom makesWay_moves opened.tree)

theorem keeps_write (j : Journal) (bytes : ByteArray) : Keeps j.tree (j.write bytes).tree := by
  rw [write]
  split
  · exact Keeps.refl _
  · show Keeps j.tree (j.tree.settle (j.tree.appendFile logFile bytes)).2
    cases happend : j.tree.appendFile logFile bytes with
    | error fault => exact Keeps.refl _
    | ok changed => exact keeps_appendFile happend
  · exact Keeps.refl _

/-- Whatever a row needs, the log file can be opened afterwards if it could before. -/
theorem keeps_append (j : Journal) (r : Record) : Keeps j.tree (j.append r).tree := by
  have hprepared := keeps_prepared j (row filePattern r ++ ['\n']).length
  rw [append]
  simp only
  split
  · split
    · rename_i opened hopened
      exact hprepared.trans ((keeps_opened hopened).trans (keeps_write opened _))
    · exact hprepared
  · exact hprepared

end Journal

end Log

end ArenaData
