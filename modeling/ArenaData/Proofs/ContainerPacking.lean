import ArenaData.Proofs.ArchiveTree
import ArenaData.Proofs.Bytes

/-!
# Packing containers

`pack` writes a container: the number of files, the payloads, and a footer record for each file in
the same order. Opening it again gives the files that were packed (`ofBytes_pack`), if their names
and sizes fit the fields of the records and no name comes twice.

Reading the footer and cutting out the payloads both go over the files with an offset in hand. The
offset is the same in both, the size of everything before the payload of the file, so each is an
induction on the files that generalizes what stands before them.
-/

namespace ArenaData

/-! ## Numbers of four bytes -/

namespace Bytes

/-- The four bytes of a 32-bit number, the least significant first. -/
def ofUInt32 (n : Nat) : Bytes := ofUInt16 (n % 0x10000) ++ ofUInt16 (n / 0x10000)

theorem littleEndian_append (a b : Bytes) :
    littleEndian (a ++ b) = littleEndian a + 256 ^ a.length * littleEndian b := by
  induction a with
  | nil => simp [littleEndian]
  | cons x a ih =>
    rw [List.cons_append, littleEndian, littleEndian, ih, List.length_cons, Nat.pow_succ,
      Nat.mul_add, ← Nat.mul_assoc, Nat.mul_comm 256 (256 ^ a.length), Nat.add_assoc]

theorem littleEndian_ofUInt32 {n : Nat} (h : n < 0x100000000) :
    littleEndian (ofUInt32 n) = n := by
  rw [ofUInt32, littleEndian_append, littleEndian_ofUInt16 (by omega),
    littleEndian_ofUInt16 (by omega)]
  show n % 0x10000 + 256 ^ 2 * (n / 0x10000) = n
  omega

theorem untilZero_append_replicate {b : Bytes} (h : 0 ∉ b) (n : Nat) :
    untilZero (b ++ List.replicate n 0) = b := by
  rw [untilZero, List.takeWhile_append_of_pos (ne_zero_of_zero_notMem h), List.takeWhile_replicate]
  simp

end Bytes

namespace Container

/-! ## Writing -/

/-- The name fits the name field of a record: it is not too long, and its characters are Latin-1
without the zero character. -/
def FitsName (name : Text) : Prop :=
  name.length ≤ nameSize ∧ ∀ c ∈ name, c.toNat ≤ 0xFF ∧ c.toNat ≠ 0

instance (name : Text) : Decidable (FitsName name) :=
  decidable_of_iff (name.length ≤ nameSize ∧
      (name.all fun c => c.toNat ≤ 0xFF && c.toNat != 0) = true) (by simp [FitsName])

/-- The name field of a record: the name, filled up with zeros. -/
def nameField (name : Text) : Bytes :=
  name.map Char.toUInt8 ++ List.replicate (nameSize - name.length) 0

/-- The footer record of a file. -/
def recordOf (file : Text × Bytes) : Bytes :=
  nameField file.1 ++ [0, 0] ++ Bytes.ofUInt32 file.2.length

/-- The bytes of a container of the files. -/
def pack (files : Collection) : Bytes :=
  Bytes.ofUInt16 files.length ++ files.flatMap Prod.snd ++ files.flatMap recordOf

/-- The entries of the files, the first of which has its payload at the offset. -/
def entriesOf : (offset : Nat) → Collection → List Entry
  | _, [] => []
  | offset, file :: rest =>
    ⟨file.1, offset, file.2.length, 0⟩ :: entriesOf (offset + file.2.length) rest

/-! ## Reading again -/

theorem length_nameField {name : Text} (h : FitsName name) :
    (nameField name).length = nameSize := by
  have hlength := h.1
  rw [nameField, List.length_append, List.length_map, List.length_replicate]
  omega

theorem length_recordOf {file : Text × Bytes} (h : FitsName file.1) :
    (recordOf file).length = entrySize := by
  rw [recordOf, List.length_append, List.length_append, length_nameField h]
  rfl

theorem latin1_nameField {name : Text} (h : FitsName name) :
    Bytes.latin1 (Bytes.untilZero (nameField name)) = name := by
  have hback : Bytes.latin1 (name.map Char.toUInt8) = name := by
    rw [Bytes.latin1, List.map_map]
    exact (List.map_congr_left fun c hc => Bytes.ofUInt8_toUInt8 (h.2 c hc).1).trans (List.map_id _)
  have hzero : 0 ∉ name.map Char.toUInt8 := by
    rw [← Bytes.zero_mem_latin1, hback]
    exact fun hmem => (h.2 _ hmem).2 rfl
  rw [nameField, Bytes.untilZero_append_replicate hzero, hback]

/-- A record is read as the entry it was written for. -/
theorem entryOf_recordOf {file : Text × Bytes} (h : FitsName file.1)
    (hsize : file.2.length < 0x100000000) (offset : Nat) :
    entryOf offset (recordOf file) = ⟨file.1, offset, file.2.length, 0⟩ := by
  have hname := length_nameField h
  have htake : (recordOf file).take nameSize = nameField file.1 := by
    rw [recordOf, List.append_assoc, ← hname, List.take_left]
  have hdrop : (recordOf file).drop nameSize = [0, 0] ++ Bytes.ofUInt32 file.2.length := by
    rw [recordOf, List.append_assoc, ← hname, List.drop_left]
  have hlast : (recordOf file).drop (nameSize + 2) = Bytes.ofUInt32 file.2.length := by
    rw [← List.drop_drop, hdrop]
    rfl
  rw [entryOf, htake, hdrop, hlast, latin1_nameField h]
  have hfour : (Bytes.ofUInt32 file.2.length).take 4 = Bytes.ofUInt32 file.2.length := rfl
  rw [hfour, Bytes.littleEndian_ofUInt32 hsize]
  rfl

/-- The footer is read as the entries it was written for, if the payloads end before it. -/
theorem entriesFrom_recordsOf {label : Text} {stop : Nat} {files : Collection} (offset : Nat)
    (hnames : ∀ file ∈ files, FitsName file.1)
    (hsizes : ∀ file ∈ files, file.2.length < 0x100000000)
    (hstop : offset + (files.flatMap Prod.snd).length ≤ stop) :
    entriesFrom label stop files.length offset (files.flatMap recordOf) =
      .ok (entriesOf offset files) := by
  induction files generalizing offset with
  | nil => rfl
  | cons file files ih =>
    obtain ⟨hname, hnames⟩ := List.forall_mem_cons.mp hnames
    obtain ⟨hsize, hsizes⟩ := List.forall_mem_cons.mp hsizes
    rw [List.flatMap_cons, List.length_append] at hstop
    rw [List.length_cons, entriesFrom, List.flatMap_cons, List.take_left' (length_recordOf hname),
      List.drop_left' (length_recordOf hname), entryOf_recordOf hname hsize]
    have hroom : ¬ stop < Entry.stop ⟨file.1, offset, file.2.length, 0⟩ := by
      show ¬ stop < offset + file.2.length
      omega
    simp only [if_neg hroom]
    -- The next payload starts where this one ends.
    have hothers := ih (offset + file.2.length) hnames hsizes (by omega)
    show (entriesFrom label stop files.length (offset + file.2.length) _ >>= _) = _
    rw [hothers]
    rfl

/-- Cut out by their entries, the payloads are those of the files. -/
theorem payloads_entriesOf (front back : Bytes) (files : Collection) :
    (entriesOf front.length files).map (fun e =>
      (e.name, ((front ++ files.flatMap Prod.snd ++ back).drop e.offset).take e.size)) = files := by
  induction files generalizing front with
  | nil => rfl
  | cons file files ih =>
    rw [entriesOf, List.map_cons]
    refine congrArg₂ List.cons ?_ ?_
    · simp
    · have hnext := ih (front ++ file.2)
      rw [List.length_append] at hnext
      simpa using hnext

theorem names_entriesOf (offset : Nat) (files : Collection) :
    (entriesOf offset files).map Entry.name = files.names := by
  induction files generalizing offset with
  | nil => rfl
  | cons file files ih => exact congrArg (file.1 :: ·) (ih _)

theorem length_recordsOf {files : Collection} (hnames : ∀ file ∈ files, FitsName file.1) :
    (files.flatMap recordOf).length = 18 * files.length := by
  induction files with
  | nil => rfl
  | cons file files ih =>
    obtain ⟨hname, hnames⟩ := List.forall_mem_cons.mp hnames
    rw [List.flatMap_cons, List.length_append, length_recordOf hname, ih hnames, List.length_cons,
      entrySize]
    omega

theorem countIn_pack {files : Collection} (h : files.length ≤ 0xFFFF) :
    countIn (pack files) = files.length := by
  show Bytes.littleEndian (Bytes.ofUInt16 files.length) = files.length
  exact Bytes.littleEndian_ofUInt16 h

/-- A container that was packed is opened as one with the files that were packed. -/
theorem ofBytes_pack {files : Collection} (label : Text) (hnodup : files.names.Nodup)
    (hnames : ∀ name ∈ files.names, FitsName name)
    (hsizes : ∀ file ∈ files, file.2.length < 0x100000000) (hcount : files.length ≤ 0xFFFF) :
    ∃ c, ofBytes (pack files) label = .ok c ∧ c.resources = files := by
  have hnames : ∀ file ∈ files, FitsName file.1 := List.forall_mem_map.mp hnames
  -- The footer starts where the header and the payloads end, as its size is known from the count.
  set front := Bytes.ofUInt16 files.length ++ files.flatMap Prod.snd with hfront
  have hfrontlength : front.length = 2 + (files.flatMap Prod.snd).length := by
    rw [hfront, List.length_append]
    rfl
  have hpack : pack files = front ++ files.flatMap recordOf := rfl
  have hlength : (pack files).length = front.length + 18 * files.length := by
    rw [hpack, List.length_append, length_recordsOf hnames]
  have hstart : footerStart (pack files) = front.length := by
    rw [footerStart, countIn_pack hcount, hlength]
    omega
  refine ⟨⟨pack files, label, entriesOf 2 files⟩, ?_, ?_⟩
  · rw [ofBytes_eq, countIn_pack hcount, hstart, if_neg (by omega), if_neg (by omega),
      hpack, List.drop_left, entriesFrom_recordsOf 2 hnames hsizes hfrontlength.ge]
    rfl
  · have hentries : entries ⟨pack files, label, entriesOf 2 files⟩ = entriesOf 2 files := by
      refine Keyed.firsts_of_nodup ?_
      rw [names_entriesOf]
      exact hnodup
    rw [resources, hentries]
    exact payloads_entriesOf (Bytes.ofUInt16 files.length) (files.flatMap recordOf) files

end Container

end ArenaData
