import ArenaData.Proofs.ArchiveTree
import ArenaData.Proofs.FolderFiles

/-!
# Reading through layers

A layered archive asks its layers whether they have a resource before it reads from one of them.
A folder answers by its listing and reads from the files that are there, so the two may differ once
files have come or gone. Where they do not differ, what a layer gives when it is asked first is what
reading from it gives (`Settles`), and a layered read is the read of the first layer that finds the
resource.
-/

namespace ArenaData

namespace Archive

variable {tree : FileTree} {how : Matching} {name : Text} {a : Archive} {f : Folder}
  {files : Collection} {layers : List Archive} {answer : Except Fault (Option Bytes)}

/-! ## Asking first -/

/-- A read with a missing resource taken for nothing. -/
def orNothing : Except Fault Bytes → Except Fault (Option Bytes)
  | .ok data => .ok (some data)
  | .error fault => if fault.kind = .resourceNotFound then .ok none else .error fault

theorem orNothing_eq_none_iff {r : Except Fault Bytes} :
    orNothing r = .ok none ↔ Fails .resourceNotFound r := by
  cases r with
  | ok data => simp [orNothing]
  | error fault =>
    rw [fails_error, orNothing]
    split
    · rename_i hkind
      exact iff_of_true rfl hkind
    · rename_i hkind
      exact iff_of_false (by simp) hkind

theorem orNothing_of_error {fault : Fault} (h : fault.kind ≠ .resourceNotFound) :
    orNothing (.error fault) = .error fault :=
  if_neg h

theorem orNothing_faults (r : Except Fault Bytes) : FailsOnly FileTree.OfSystem (orNothing r) := by
  cases r with
  | ok data => exact failsOnly_ok _
  | error fault =>
    rw [orNothing]
    split
    · exact failsOnly_ok _
    · rename_i hkind
      exact failsOnly_error.mpr hkind

/-- Only missing resources are taken for one another. -/
theorem orNothing_inj {r s : Except Fault Bytes} (hs : ¬ Fails .resourceNotFound s) :
    orNothing r = orNothing s ↔ r = s := by
  refine ⟨fun h => ?_, congrArg orNothing⟩
  have hr : ¬ Fails .resourceNotFound r := by
    rw [← orNothing_eq_none_iff] at hs ⊢
    rwa [h]
  have hsame (r : Except Fault Bytes) (hr : ¬ Fails .resourceNotFound r) :
      orNothing r = r.map some := by
    cases r with
    | ok data => rfl
    | error fault => exact orNothing_of_error fun hkind => hr (fails_error.mpr hkind)
  rw [hsame r hr, hsame s hs] at h
  cases r with
  | ok data => cases s with
    | ok other => simpa [Except.map] using h
    | error fault => cases h
  | error fault => cases s with
    | ok other => cases h
    | error other => simpa [Except.map] using h

/-- Asking the archive first gives what reading from it at once gives. -/
def Settles (tree : FileTree) (how : Matching) (name : Text) (a : Archive) : Prop :=
  (a.consult tree how name).1 = orNothing (a.read tree how name).1

theorem Leaf.settles (h : Leaf a files) : a.Settles tree how name := by
  rw [Settles, h.consult, h.read]
  cases files.find how name with
  | some data => rfl
  | none => rfl

/-! ## Folders -/

theorem contains_folder (tree : FileTree) (name : Text) (f : Folder) :
    (folder f).contains tree .anyCase name =
      ((f.resolve tree name).1.map Option.isSome, folder (f.resolve tree name).2) := rfl

theorem folder_ne_layered (layers : List Archive) : folder f = layered layers → False := by
  simp

theorem consult_folder_of_fault {fault : Fault}
    (h : (folder f).contains tree how name = (.error fault, a)) :
    (folder f).consult tree how name = (.error fault, a) := by
  rw [Archive.consult.eq_2 tree how name (folder f) folder_ne_layered, h]

theorem consult_folder_of_lacks (h : (folder f).contains tree how name = (.ok false, a)) :
    (folder f).consult tree how name = (.ok none, a) := by
  rw [Archive.consult.eq_2 tree how name (folder f) folder_ne_layered, h]

theorem consult_folder_of_has (h : (folder f).contains tree how name = (.ok true, a)) :
    (folder f).consult tree how name =
      ((a.readPlain tree how name).1.map some, (a.readPlain tree how name).2) := by
  rw [Archive.consult.eq_2 tree how name (folder f) folder_ne_layered, h]

theorem folder_settles_exact : (folder f).Settles tree .exact name := by
  have hfaults := FileTree.content?_faults tree (f.root.child name)
  have hcontains : (folder f).contains tree .exact name =
      ((f.content? tree name).map Option.isSome, folder f) := by
    rw [← Folder.hasFile_eq]
    rfl
  have hread : (folder f).read tree .exact name = (folder f).readPlain tree .exact name := rfl
  rw [Settles, hread]
  cases hcontent : f.content? tree name with
  | error fault =>
    have hkind : fault.kind ≠ .resourceNotFound := hfaults fault hcontent
    rw [hcontent] at hcontains
    rw [consult_folder_of_fault hcontains]
    simp [readPlain, stored?, hcontent, orNothing_of_error hkind]
  | ok data =>
    rw [hcontent] at hcontains
    cases data with
    | none =>
      rw [consult_folder_of_lacks hcontains]
      simp [readPlain, stored?, hcontent, orNothing, Fault.kind]
    | some data =>
      rw [consult_folder_of_has hcontains]
      simp [readPlain, stored?, hcontent, orNothing, Except.map]

theorem folder_settles_anyCase (h : f.InStep tree name) :
    (folder f).Settles tree .anyCase name := by
  have hfaults := f.resolve_faults tree name
  have hagain := f.resolve_again tree name
  have hroot := f.resolve_root tree name
  have hcontains := contains_folder tree name f
  have hread : (folder f).read tree .anyCase name = (folder f).readPlain tree .anyCase name := rfl
  rw [Settles, hread]
  cases hresolve : f.resolve tree name with
  | mk stored after =>
  rw [hresolve] at hfaults hagain hroot hcontains
  cases stored with
  | error fault =>
    have hkind : fault.kind ≠ .resourceNotFound := hfaults fault rfl
    rw [consult_folder_of_fault hcontains]
    simp [readPlain, resolve, hresolve, orNothing_of_error hkind]
  | ok stored =>
    have hfile : f.hasFile tree (stored.getD name) = .ok stored.isSome :=
      h stored (by rw [hresolve])
    have hcontent (stored : Text) : after.content? tree stored = f.content? tree stored := by
      rw [Folder.content?, Folder.content?, show after.root = f.root from hroot]
    rw [Folder.hasFile_eq, ← hcontent] at hfile
    cases hdata : after.content? tree (stored.getD name) with
    | error fault => simp [hdata, Except.map] at hfile
    | ok data =>
      have hsome : data.isSome = stored.isSome := by simpa [hdata, Except.map] using hfile
      cases stored with
      | none =>
        obtain rfl := Option.not_isSome_iff_eq_none.mp (by simpa using hsome)
        rw [Option.getD_none] at hdata
        rw [consult_folder_of_lacks hcontains]
        simp [readPlain, stored?, resolve, hresolve, hdata, orNothing, Fault.kind]
      | some stored =>
        obtain ⟨data, rfl⟩ := Option.isSome_iff_exists.mp hsome
        rw [Option.getD_some] at hdata
        rw [consult_folder_of_has hcontains]
        simp [readPlain, stored?, resolve, hresolve, hagain, hdata, orNothing, Except.map]

theorem folder_settles (h : how = .anyCase → f.InStep tree name) :
    (folder f).Settles tree how name := by
  cases how with
  | exact => exact folder_settles_exact
  | anyCase => exact folder_settles_anyCase (h rfl)

/-! ## Layers -/

section Layers

variable {layer : Archive} {rest : List Archive}

theorem consultLayers_of_none (h : (layer.consult tree how name).1 = .ok none) :
    (consultLayers tree how name (layer :: rest)).1 = (consultLayers tree how name rest).1 := by
  rw [consultLayers]
  cases hlayer : layer.consult tree how name with
  | mk answer after =>
    obtain rfl : answer = .ok none := by rw [← h, hlayer]
    rfl

theorem consultLayers_of_ne (h : (layer.consult tree how name).1 ≠ .ok none) :
    (consultLayers tree how name (layer :: rest)).1 = (layer.consult tree how name).1 := by
  rw [consultLayers]
  split
  · rename_i after hlayer
    rw [hlayer] at h
    exact absurd rfl h
  · rename_i answer after _ hlayer
    rw [hlayer]

/-- Nothing is found iff no layer finds anything. -/
theorem consultLayers_eq_none_iff : (consultLayers tree how name layers).1 = .ok none ↔
    ∀ layer ∈ layers, (layer.consult tree how name).1 = .ok none := by
  induction layers with
  | nil => simp [consultLayers]
  | cons layer rest ih =>
    rw [List.forall_mem_cons, ← ih]
    by_cases h : (layer.consult tree how name).1 = .ok none
    · rw [consultLayers_of_none h, and_iff_right h]
    · rw [consultLayers_of_ne h]
      exact iff_of_false h fun hboth => h hboth.1

/-- Any other answer is that of the first layer that finds something or fails. -/
theorem consultLayers_eq_iff (hsome : answer ≠ .ok none) :
    (consultLayers tree how name layers).1 = answer ↔
      ∃ before layer behind, layers = before ++ layer :: behind ∧
        (∀ other ∈ before, (other.consult tree how name).1 = .ok none) ∧
        (layer.consult tree how name).1 = answer := by
  induction layers with
  | nil => simp [consultLayers, hsome.symm]
  | cons layer rest ih =>
    rw [exists_first_cons_iff]
    by_cases h : (layer.consult tree how name).1 = .ok none
    · rw [consultLayers_of_none h, ih, and_iff_right h]
      exact (or_iff_right fun hfound => hsome (hfound.symm.trans h)).symm
    · rw [consultLayers_of_ne h]
      exact (or_iff_left fun hbehind => h hbehind.1).symm

end Layers

/-! ## Layers that settle -/

/-- Every layer that is asked settles: the first one, and any other if those in front of it lack the
resource. -/
def SettlesWhereAsked (tree : FileTree) (how : Matching) (name : Text) (layers : List Archive) :
    Prop :=
  ∀ before layer behind, layers = before ++ layer :: behind →
    (∀ other ∈ before, Fails .resourceNotFound (other.read tree how name).1) →
    layer.Settles tree how name

section SettlesWhereAsked

variable {layer : Archive} {rest : List Archive}

theorem SettlesWhereAsked.head (h : SettlesWhereAsked tree how name (layer :: rest)) :
    layer.Settles tree how name := h [] layer rest rfl (List.forall_mem_nil _)

theorem SettlesWhereAsked.tail (h : SettlesWhereAsked tree how name (layer :: rest))
    (hlacks : Fails .resourceNotFound (layer.read tree how name).1) :
    SettlesWhereAsked tree how name rest := by
  rintro before other behind rfl hbefore
  exact h (layer :: before) other behind rfl (List.forall_mem_cons.mpr ⟨hlacks, hbefore⟩)

theorem consultLayers_of_lacks (h : SettlesWhereAsked tree how name (layer :: rest))
    (hlacks : Fails .resourceNotFound (layer.read tree how name).1) :
    (consultLayers tree how name (layer :: rest)).1 = (consultLayers tree how name rest).1 :=
  consultLayers_of_none (h.head.trans (orNothing_eq_none_iff.mpr hlacks))

theorem consultLayers_of_serves (h : SettlesWhereAsked tree how name (layer :: rest))
    (hserves : ¬ Fails .resourceNotFound (layer.read tree how name).1) :
    (consultLayers tree how name (layer :: rest)).1 = orNothing (layer.read tree how name).1 := by
  have hsome : (layer.consult tree how name).1 ≠ .ok none := by
    rwa [h.head, Ne, orNothing_eq_none_iff]
  rw [consultLayers_of_ne hsome, h.head]

/-- Layers that settle where they are asked make an archive that settles. -/
theorem layered_settles (h : SettlesWhereAsked tree how name layers) :
    (layered layers).Settles tree how name := by
  have hfaults : FailsOnly FileTree.OfSystem (consultLayers tree how name layers).1 := by
    induction layers with
    | nil => exact failsOnly_ok _
    | cons layer rest ih =>
      by_cases hlacks : Fails .resourceNotFound (layer.read tree how name).1
      · rw [consultLayers_of_lacks h hlacks]
        exact ih (h.tail hlacks)
      · rw [consultLayers_of_serves h hlacks]
        exact orNothing_faults _
  rw [Settles, read, consult_layered]
  cases hanswer : (consultLayers tree how name layers).1 with
  | error fault =>
    simp only [orNothing_of_error (hfaults fault hanswer)]
  | ok data =>
    cases data with
    | none => rfl
    | some data => rfl

/-- Then nothing is found iff reading from each layer finds nothing. -/
theorem consultLayers_eq_none_iff_lacks (h : SettlesWhereAsked tree how name layers) :
    (consultLayers tree how name layers).1 = .ok none ↔
      ∀ layer ∈ layers, Fails .resourceNotFound (layer.read tree how name).1 := by
  induction layers with
  | nil => simp [consultLayers]
  | cons layer rest ih =>
    rw [List.forall_mem_cons]
    by_cases hlacks : Fails .resourceNotFound (layer.read tree how name).1
    · rw [consultLayers_of_lacks h hlacks, ih (h.tail hlacks), and_iff_right hlacks]
    · rw [consultLayers_of_serves h hlacks, orNothing_eq_none_iff]
      exact iff_of_false hlacks fun hboth => hlacks hboth.1

/-- Any other outcome is that of the first layer that does not lack the resource. -/
theorem consultLayers_eq_orNothing_iff (h : SettlesWhereAsked tree how name layers)
    {outcome : Except Fault Bytes} (houtcome : ¬ Fails .resourceNotFound outcome) :
    (consultLayers tree how name layers).1 = orNothing outcome ↔
      ∃ before layer behind, layers = before ++ layer :: behind ∧
        (∀ other ∈ before, Fails .resourceNotFound (other.read tree how name).1) ∧
        (layer.read tree how name).1 = outcome := by
  induction layers with
  | nil =>
    have hsome : (.ok none : Except Fault (Option Bytes)) ≠ orNothing outcome :=
      fun hnone => houtcome (orNothing_eq_none_iff.mp hnone.symm)
    simp [consultLayers, hsome]
  | cons layer rest ih =>
    rw [exists_first_cons_iff]
    by_cases hlacks : Fails .resourceNotFound (layer.read tree how name).1
    · have hother : (layer.read tree how name).1 ≠ outcome := by
        rintro rfl
        exact houtcome hlacks
      rw [consultLayers_of_lacks h hlacks, ih (h.tail hlacks), and_iff_right hlacks,
        or_iff_right hother]
    · rw [consultLayers_of_serves h hlacks, orNothing_inj houtcome]
      exact (or_iff_left fun hbehind => hlacks hbehind.1).symm

end SettlesWhereAsked

/-- A layered read gives what the first layer gives that does not lack the resource when it is read
on its own, and finds nothing just when every layer lacks it. By exact names this is so whatever has
become of the files; without regard to case, it takes folders whose listings are in step with the
files that are there, but for those behind a layer that has the resource, which are not asked. -/
theorem read_layered (tree : FileTree) (how : Matching) (name : Text) (layers : List Archive)
    (hlayers : ∀ layer ∈ layers, (∃ files, Leaf layer files) ∨ ∃ f, layer = folder f)
    (hstep : how = .anyCase → ∀ before f behind, layers = before ++ folder f :: behind →
      (∀ other ∈ before, Fails .resourceNotFound (other.read tree how name).1) →
      f.InStep tree name) :
    (∀ outcome, ¬ Fails .resourceNotFound outcome →
      (((layered layers).read tree how name).1 = outcome ↔
        ∃ before layer behind, layers = before ++ layer :: behind ∧
          (∀ other ∈ before, Fails .resourceNotFound (other.read tree how name).1) ∧
          (layer.read tree how name).1 = outcome)) ∧
    (Fails .resourceNotFound ((layered layers).read tree how name).1 ↔
      ∀ layer ∈ layers, Fails .resourceNotFound (layer.read tree how name).1) := by
  have hsettles : SettlesWhereAsked tree how name layers := by
    rintro before layer behind rfl hbefore
    rcases hlayers layer (by simp) with ⟨files, hleaf⟩ | ⟨f, rfl⟩
    · exact hleaf.settles
    · exact folder_settles fun hany => hstep hany before f behind rfl hbefore
  have hread : orNothing ((layered layers).read tree how name).1 =
      (consultLayers tree how name layers).1 := by
    rw [← layered_settles hsettles, consult_layered]
  constructor
  · intro outcome houtcome
    rw [← orNothing_inj houtcome, hread, consultLayers_eq_orNothing_iff hsettles houtcome]
  · rw [← orNothing_eq_none_iff, hread, consultLayers_eq_none_iff_lacks hsettles]

/-- The listing says that the folder has `A`, spelled otherwise, and nothing of `B`. -/
theorem read_of_current_listing :
    let tree := (FileTree.empty []).put [['a']] (.ofBytes [1])
    let layers := [folder ⟨⟨.root, []⟩, some [['a']]⟩, memory [(['A'], [2]), (['b'], [3])]]
    ((layered layers).read tree .anyCase ['A']).1 = .ok [1] ∧
      ((layered layers).read tree .anyCase ['B']).1 = .ok [3] ∧
      ((layered layers).read tree .exact ['A']).1 = .ok [2] ∧
      Fails .resourceNotFound ((layered layers).read tree .exact ['B']).1 := by
  intro tree layers
  have hlayers : ∀ layer ∈ layers, (∃ files, Leaf layer files) ∨ ∃ f, layer = folder f := by
    intro layer hlayer
    rcases List.mem_pair.mp hlayer with rfl | rfl
    · exact Or.inr ⟨_, rfl⟩
    · exact Or.inl ⟨_, .memory _ (by decide)⟩
  have hfolder : ∀ f, folder f ∈ layers → f = ⟨⟨.root, []⟩, some [['a']]⟩ := by
    intro f hf
    rcases List.mem_pair.mp hf with h | h
    · exact folder.inj h
    · cases h
  have hstep : ∀ name ∈ [['A'], ['B']], ∀ before f behind,
      layers = before ++ folder f :: behind →
      (∀ other ∈ before, Fails .resourceNotFound (other.read tree .anyCase name).1) →
      f.InStep tree name := by
    intro name hname before f behind hsplit _ stored hstored
    obtain rfl := hfolder f (by simp [hsplit])
    obtain rfl := Except.ok.inj hstored
    rcases List.mem_pair.mp hname with rfl | rfl
    · rfl
    · rfl
  obtain ⟨hfound, -⟩ := read_layered tree .anyCase ['A'] layers hlayers fun _ => hstep _ (by simp)
  obtain ⟨hbehind, -⟩ := read_layered tree .anyCase ['B'] layers hlayers fun _ => hstep _ (by simp)
  obtain ⟨hexact, -⟩ := read_layered tree .exact ['A'] layers hlayers nofun
  obtain ⟨-, hmissing⟩ := read_layered tree .exact ['B'] layers hlayers nofun
  refine ⟨?_, ?_, ?_, ?_⟩
  · exact (hfound (.ok [1]) not_fails_ok).mpr ⟨[], _, _, rfl, by simp, rfl⟩
  · refine (hbehind (.ok [3]) not_fails_ok).mpr ⟨[_], _, [], rfl, ?_, rfl⟩
    exact List.forall_mem_singleton.mpr ⟨_, rfl, rfl⟩
  · refine (hexact (.ok [2]) not_fails_ok).mpr ⟨[_], _, [], rfl, ?_, rfl⟩
    exact List.forall_mem_singleton.mpr ⟨_, rfl, rfl⟩
  · exact hmissing.mpr (List.forall_mem_cons.mpr
      ⟨⟨_, rfl, rfl⟩, List.forall_mem_singleton.mpr ⟨_, rfl, rfl⟩⟩)

/-- A folder that has been listed still answers for a file that has been removed since: the read
fails there, and the layer behind, which has the resource, is not read from. -/
theorem read_of_removed_file :
    let name : Text := ['a']
    let root : Path := ⟨.root, []⟩
    let tree := (FileTree.empty []).put [name] (.ofBytes [1])
    let behind := memory [(name, [2])]
    ∃ kept emptied,
      (layered [folder ⟨root, none⟩, behind]).read tree .anyCase name =
        (.ok [1], layered [kept, behind]) ∧
      tree.remove (root.child name) = .ok emptied ∧
      Fails .resourceNotFound ((layered [kept, behind]).read emptied .anyCase name).1 ∧
      Fails .resourceNotFound (kept.read emptied .anyCase name).1 ∧
      (behind.read emptied .anyCase name).1 = .ok [2] := by
  intro name root tree behind
  have hnames : tree.fileNames root = .ok [name] := by
    show Except.ok (List.mergeSort [name] Text.le) = .ok [name]
    rw [List.mergeSort_singleton]
  have hread : (layered [folder ⟨root, none⟩, behind]).read tree .anyCase name =
      (.ok [1], layered [folder ⟨root, some [name]⟩, behind]) := by
    have hresolve : (Folder.mk root none).resolve tree name =
        (.ok (some name), ⟨root, some [name]⟩) := by
      simp only [Folder.resolve, hnames]
      rfl
    have hcontains : (folder ⟨root, none⟩).contains tree .anyCase name =
        (.ok true, folder ⟨root, some [name]⟩) := by
      have hasked : (folder ⟨root, none⟩).contains tree .anyCase name =
        (((Folder.mk root none).resolve tree name).1.map Option.isSome,
          folder ((Folder.mk root none).resolve tree name).2) := rfl
      rw [hasked, hresolve]
      rfl
    rw [read, consult_layered, consultLayers, consult_folder_of_has hcontains]
    rfl
  exact ⟨folder ⟨root, some [name]⟩, ⟨tree.nodes.erase [name], []⟩, hread, rfl, ⟨_, rfl, rfl⟩,
    ⟨_, rfl, rfl⟩, rfl⟩

end Archive

end ArenaData
