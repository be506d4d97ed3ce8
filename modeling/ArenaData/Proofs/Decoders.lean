import ArenaData.AssetTable.Basic
import ArenaData.Proofs.NameChunkFormat
import Mathlib.Algebra.Order.BigOperators.Group.List
import Mathlib.Algebra.Ring.Int.Defs

/-!
# Outcomes of decoders

With which faults the decoder of each file may end, whatever the file holds. Almost all of them only
ever find a file malformed; the quiz may have answers without a category, and the descriptions of
the spell maker an index beyond their table. The texts of templates and dungeons are read without
any fault. For the files of a fixed layout it is enough to be long enough.

The tables of the executable hold integers of any size, and a reference that leads nowhere is shown
in the message. So the classes may also fail with a number that cannot be shown.
-/

namespace ArenaData

/-- The fault says that bytes, texts or documents do not match their format. -/
def Fault.Malformed (fault : Fault) : Prop := fault.kind = .malformedRecord

open Fault (Malformed)

theorem Fault.Malformed.reported {fault : Fault} (h : fault.Malformed)
    (hmessage : fault.hasMessage = true) : fault.reported.Malformed := by
  rwa [reported_of_hasMessage hmessage]

/-! ## Bytes -/

namespace Bytes

variable {data : Bytes} {offset size : Int} {source : Text}

theorem read_faults (hoffset : Text.shows offset = true) (hsize : Text.shows size = true) :
    FailsOnly Malformed (read data offset size source) := by
  rw [read, checkWindow]
  split
  · have houtside : (Fault.outsideBuffer source size offset data.length).Malformed := rfl
    refine failsOnly_error.mpr (houtside.reported ?_)
    simp [Fault.hasMessage, Fault.numbers, hoffset, hsize]
  · exact failsOnly_ok _

/-- Just the windows that lie in the data are read. -/
theorem read_eq_ok_iff {window : Bytes} {offset size : Nat} :
    read data offset size source = .ok window ↔
      offset + size ≤ data.length ∧ (data.drop offset).take size = window := by
  rw [read, checkWindow]
  by_cases h : offset + size ≤ data.length
  · have hin : ¬ ((offset : Int) < 0 ∨ (data.length : Int) < offset + size) := by omega
    have hslice : slice data offset (offset + size) = (data.drop offset).take size := by
      have hstop : ¬ (offset + size : Int) < 0 := by omega
      rw [slice, if_neg hstop, List.take_drop]
      rfl
    rw [if_neg hin, ← hslice]
    exact ⟨fun hread => ⟨h, Except.ok.inj hread⟩, fun hread => congrArg Except.ok hread.2⟩
  · have hout : (offset : Int) < 0 ∨ (data.length : Int) < offset + size := by omega
    rw [if_pos hout]
    exact iff_of_false (fun hread => nomatch hread) fun hread => h hread.1

theorem length_of_read {window : Bytes} (hoffset : 0 ≤ offset) (hsize : 0 ≤ size)
    (h : read data offset size source = .ok window) : (window.length : Int) = size := by
  lift offset to Nat using hoffset
  lift size to Nat using hsize
  obtain ⟨hle, rfl⟩ := read_eq_ok_iff.mp h
  rw [List.length_take, List.length_drop]
  omega

theorem exists_read (hoffset : 0 ≤ offset) (hsize : 0 ≤ size) (h : offset + size ≤ data.length) :
    ∃ window, read data offset size source = .ok window ∧ (window.length : Int) = size := by
  have hread : ∃ window, read data offset size source = .ok window := by
    lift offset to Nat using hoffset
    lift size to Nat using hsize
    exact ⟨_, read_eq_ok_iff.mpr ⟨by omega, rfl⟩⟩
  obtain ⟨window, hread⟩ := hread
  exact ⟨window, hread, length_of_read hoffset hsize hread⟩

end Bytes

/-! ## Texts -/

namespace Question

/-- The fault says that an answer has no known category. -/
def Uncategorized (fault : Fault) : Prop := fault.kind = .unrecognizedCategoryCode

theorem category_faults (choice : Text) : FailsOnly Uncategorized (category choice) := by
  rw [category]
  split
  · split
    · exact failsOnly_ok _
    · exact failsOnly_error.mpr rfl
  · exact failsOnly_error.mpr rfl

theorem answer_faults (lines : List Text) : FailsOnly Uncategorized (Draft.answer lines) :=
  (category_faults _).bind fun _ _ => failsOnly_ok _

theorem question_faults (d : Draft) : FailsOnly Uncategorized d.question := by
  refine (answer_faults d.a).bind fun a _ => ?_
  refine (answer_faults d.b).bind fun b _ => ?_
  exact (answer_faults d.c).bind fun c _ => failsOnly_ok _

theorem turn_faults (r : Reading) (line : Text) : FailsOnly Uncategorized (r.turn line) := by
  have hbegin : FailsOnly Uncategorized r.beginQuestion := by
    rw [Reading.beginQuestion]
    split
    · exact failsOnly_ok _
    · exact (question_faults r.draft).bind fun question _ => failsOnly_ok _
  unfold Reading.turn
  split
  · exact failsOnly_ok _
  · exact failsOnly_ok _
  · exact failsOnly_ok _
  · split
    · exact hbegin
    · exact failsOnly_ok _
  · exact failsOnly_ok _

theorem close_faults (r : Reading) : FailsOnly Uncategorized r.close := by
  rw [Reading.close]
  split
  · exact failsOnly_ok _
  · exact (question_faults r.draft).bind fun question _ => failsOnly_ok _

theorem parse_faults (t : Text) : FailsOnly Uncategorized (parse t) := by
  have hstep (r : Reading) (line : Text) : FailsOnly Uncategorized (r.step line) :=
    (turn_faults r line).bind fun r _ => failsOnly_ok _
  have hlines : FailsOnly Uncategorized (t.lines.foldlM Reading.step Reading.start) :=
    FailsOnly.foldlM fun r line _ => hstep r line
  exact hlines.bind fun last _ => close_faults last

end Question

namespace SpellMaker

/-- The fault says that the text is malformed, or that an index has no slot. -/
def Misplaced (fault : Fault) : Prop := fault.Malformed ∨ fault.kind = .indexOutOfRange

theorem length_digitRun_le (t : Text) : (Text.digitRun t).length ≤ t.length := by
  induction t with
  | nil => exact Nat.le_refl 0
  | cons c rest ih =>
    rw [Text.digitRun]
    split
    · exact Nat.succ_le_succ ih
    · exact Nat.zero_le _

theorem length_trimLeft_le (t : Text) : t.trimLeft.length ≤ t.length := by
  rw [Text.trimLeft]
  exact (List.dropWhile_suffix _).length_le

/-- An index of so few characters does not have too many digits. -/
theorem parseIndex_faults {t source : Text} (h : t.length ≤ Text.maxDigits) :
    FailsOnly Malformed (parseIndex t source) := by
  have hfront := length_trimLeft_le t
  rw [parseIndex]
  split
  rename_i negative rest hsign
  -- What is left behind a sign is not longer than what there was before it.
  have hrest : rest.length ≤ t.trimLeft.length := by
    split at hsign
    · rename_i hminus
      obtain ⟨-, rfl⟩ := Prod.mk.inj hsign
      rw [hminus]
      exact Nat.le_succ _
    · rename_i hplus
      obtain ⟨-, rfl⟩ := Prod.mk.inj hsign
      rw [hplus]
      exact Nat.le_succ _
    · obtain ⟨-, rfl⟩ := Prod.mk.inj hsign
      exact Nat.le_refl _
  have hdigits := length_digitRun_le rest
  simp only []
  split
  · exact failsOnly_error.mpr rfl
  · rw [if_neg (by omega)]
    exact failsOnly_ok _

theorem store_faults (r : Reading) (count : Nat) : FailsOnly Misplaced (r.store count) := by
  rw [Reading.store]
  split
  · exact failsOnly_ok _
  · split
    · exact failsOnly_ok _
    · exact failsOnly_error.mpr (Or.inr rfl)

theorem addLine_faults (r : Reading) (line : Text) : FailsOnly Misplaced (r.addLine line) := by
  rw [Reading.addLine]
  split
  · exact failsOnly_error.mpr (Or.inl rfl)
  · exact failsOnly_ok _

theorem finish_faults (r : Reading) (count : Nat) (lines : List Text) :
    FailsOnly Misplaced (r.finish count lines) := by
  fun_induction Reading.finish r count lines with
  | case1 r => exact failsOnly_ok _
  | case2 r rest ih => exact ih
  | case3 r digits rest ih =>
    refine (store_faults r count).bind fun slots _ => ?_
    split
    · exact failsOnly_ok _
    · have hshort : (digits.take 2).length ≤ Text.maxDigits :=
        Nat.le_trans (List.length_take_le 2 digits) (by decide)
      refine ((parseIndex_faults hshort).imp fun _ h => Or.inl h).bind fun index _ => ?_
      exact ih slots index
  | case4 r line rest _ _ ih =>
    exact (addLine_faults r line).bind fun r _ => ih r

/-- An index is read from two characters at most, so it never has too many digits. -/
theorem parse_faults (t : Text) (count : Nat) : FailsOnly Misplaced (parse t count) :=
  (finish_faults _ count t.lines).bind fun _ _ => failsOnly_ok _

end SpellMaker

/-! ## Files of a fixed layout -/

theorem ClassGeneration.decode_faults (data : Bytes) : FailsOnly Malformed (decode data) := by
  rw [decode]
  split
  · exact failsOnly_error.mpr rfl
  · exact failsOnly_ok _

theorem ClassGeneration.exists_decode {data : Bytes} (h : fileSize ≤ data.length) :
    ∃ generation, decode data = .ok generation := by
  rw [decode]
  simp only [if_neg (Nat.not_lt.mpr h)]
  exact ⟨_, rfl⟩

theorem Spell.decodeAll_faults (data : Bytes) : FailsOnly Malformed (decodeAll data) := by
  rw [decodeAll]
  split
  · exact failsOnly_error.mpr rfl
  · exact failsOnly_ok _

theorem Spell.exists_decodeAll {data : Bytes} (h : count * recordSize ≤ data.length) :
    ∃ spells, decodeAll data = .ok spells := by
  rw [decodeAll]
  simp only [if_neg (Nat.not_lt.mpr h)]
  exact ⟨_, rfl⟩

theorem Terrain.decode_faults (data : Bytes) (source : Text) :
    FailsOnly Malformed (decode data source) := by
  have hsize : Text.shows mapSize = true := Text.shows_of_lt (by decide)
  refine (Bytes.read_faults (Text.shows_of_lt (by decide)) hsize).bind fun bytes _ => ?_
  rw [ofData]
  split
  · exact failsOnly_ok _
  · exact failsOnly_error.mpr rfl

theorem Terrain.exists_decode {data : Bytes} (source : Text)
    (h : headerSize + mapSize ≤ data.length) : ∃ terrain, decode data source = .ok terrain := by
  have hwindow : ∃ window, Bytes.read data headerSize mapSize source = .ok window ∧
      (window.length : Int) = mapSize := Bytes.exists_read (by omega) (by omega) (by omega)
  obtain ⟨bytes, hread, hlength⟩ := hwindow
  rw [decode, hread, ok_bind, ofData]
  have hsize : bytes.toArray.size = mapSize := by
    rw [List.size_toArray]
    omega
  simp only [dif_pos hsize]
  exact ⟨_, rfl⟩

namespace Mask

/-- What has been read for a region fills it, so only the reading can fail. The offsets stay below
the end of the last mask. -/
theorem decodeFrom_faults (data : Bytes) (source : Text) {offset : Int}
    {regions : List (Rect × Nat)} (hoffset : 0 ≤ offset)
    (hsizes : ∀ region ∈ regions, 0 ≤ maskSize region.1)
    (h : offset + (regions.map fun region => maskSize region.1).sum < 10 ^ 20) :
    FailsOnly Malformed (decodeFrom data source offset regions) := by
  induction regions generalizing offset with
  | nil => exact failsOnly_ok _
  | cons region regions ih =>
    obtain ⟨hsize, hothers⟩ := List.forall_mem_cons.mp hsizes
    have hsum : 0 ≤ (regions.map fun region => maskSize region.1).sum :=
      List.sum_nonneg (List.forall_mem_map.mpr hothers)
    rw [List.map_cons, List.sum_cons] at h
    have hshown : Text.shows offset = true := Text.shows_of_lt (by omega)
    refine (Bytes.read_faults hshown (Text.shows_of_lt (by omega))).bind fun bytes hread => ?_
    rw [ofData, dif_pos (Bytes.length_of_read hoffset hsize hread), ok_bind]
    exact (ih (by omega) hothers (by omega)).bind fun others _ => failsOnly_ok _

theorem decodeAll_faults (data : Bytes) (source : Text) :
    FailsOnly Malformed (decodeAll data source) :=
  decodeFrom_faults data source (Int.natCast_nonneg _) (by decide) (by decide)

theorem exists_decodeFrom {data : Bytes} (source : Text) {offset : Int}
    {regions : List (Rect × Nat)} (hoffset : 0 ≤ offset)
    (hsizes : ∀ region ∈ regions, 0 ≤ maskSize region.1)
    (h : offset + (regions.map fun region => maskSize region.1).sum ≤ data.length) :
    ∃ masks, decodeFrom data source offset regions = .ok masks := by
  induction regions generalizing offset with
  | nil => exact ⟨[], rfl⟩
  | cons region regions ih =>
    have hsize := hsizes region List.mem_cons_self
    have hothers : ∀ region ∈ regions, 0 ≤ maskSize region.1 := fun region hmem =>
      hsizes region (List.mem_cons_of_mem _ hmem)
    have hsum : 0 ≤ (regions.map fun region => maskSize region.1).sum :=
      List.sum_nonneg (List.forall_mem_map.mpr hothers)
    rw [List.map_cons, List.sum_cons] at h
    have hwindow : ∃ window, Bytes.read data offset (maskSize region.1) source = .ok window ∧
        (window.length : Int) = maskSize region.1 := Bytes.exists_read hoffset hsize (by omega)
    obtain ⟨bytes, hread, hlength⟩ := hwindow
    obtain ⟨masks, hmasks⟩ := ih (by omega : 0 ≤ offset + maskSize region.1) hothers (by omega)
    rw [decodeFrom, hread, ok_bind, ofData, dif_pos hlength, ok_bind, hmasks]
    exact ⟨_, rfl⟩

/-- The size of the part of a file that holds the masks. -/
def totalSize : Nat := (regions.map maskSize).sum.toNat

theorem exists_decodeAll {data : Bytes} (source : Text)
    (h : dataOffset + totalSize ≤ data.length) : ∃ masks, decodeAll data source = .ok masks := by
  have htotal : (regions.zipIdx.map fun region => maskSize region.1).sum = totalSize := by decide
  refine exists_decodeFrom source (Int.natCast_nonneg _) (by decide) ?_
  rw [htotal]
  omega

end Mask

/-! ## Strings -/

namespace StringBlock

theorem readFrom_faults (source : Text) (count offset : Nat) (data : Bytes) :
    FailsOnly Malformed (readFrom source count offset data) := by
  fun_induction readFrom source count offset data with
  | case1 => exact failsOnly_ok _
  | case2 => exact failsOnly_error.mpr rfl
  | case3 => exact failsOnly_error.mpr rfl
  | case4 _ _ _ _ _ _ _ _ ih => exact ih.bind fun _ _ => failsOnly_ok _

/-- Data with enough zero bytes have the strings that are asked for. -/
theorem readFrom_of_le {source : Text} {count : Nat} (offset : Nat) {data : Bytes}
    (h : count ≤ data.count 0) :
    readFrom source count offset data = .ok ((data.strings.take count).map Bytes.latin1) := by
  induction data using Bytes.string_induction generalizing count offset with
  | unended b hb =>
    rw [List.count_eq_zero_of_not_mem hb] at h
    obtain rfl := Nat.le_zero.mp h
    rfl
  | string s b hs ih =>
    cases count with
    | zero => rfl
    | succ count =>
      rw [List.count_append, List.count_cons_self, List.count_eq_zero_of_not_mem hs] at h
      have hne : s ++ 0 :: b ≠ [] := by simp
      rw [readFrom.eq_3 _ _ _ _ hne, Bytes.span_append_zero hs]
      simp only [ih (offset + s.length + 1) (by omega : count ≤ b.count 0), ok_bind,
        Bytes.strings_append_zero hs]
      rfl

end StringBlock

theorem ArtifactTalk.decode_faults (data : Bytes) (source : Text) :
    FailsOnly Malformed (decode data source) :=
  (StringBlock.readFrom_faults _ _ _ _).bind fun _ _ => failsOnly_ok _

theorem TradeTalk.decode_faults (data : Bytes) (source : Text) :
    FailsOnly Malformed (decode data source) :=
  (StringBlock.readFrom_faults _ _ _ _).bind fun _ _ => failsOnly_ok _

theorem NameChunk.decode_faults (data : Bytes) (source : Text) :
    FailsOnly Malformed (decode data source) := by
  intro fault hfault
  have hfails : Fails .malformedRecord (decode data source) := by
    refine decode_fails_iff.mpr fun ⟨blocks, hblocks⟩ => ?_
    rw [← hblocks, decode_blocks] at hfault
    cases hfault
  obtain ⟨fault', hfault', hkind⟩ := hfails
  obtain rfl : fault = fault' := Except.error.inj (hfault.symm.trans hfault')
  exact hkind

/-! ## Classes -/

namespace ClassDefinition

/-- What an index stands for: everything, or what each id of the list is resolved to. -/
def resolved {α : Type} (full : List α) (resolve : Int → Except Fault α) (noList : Fault)
    (lists : List (List Int)) (index : Int) : Except Fault (List α) :=
  if index = everything then .ok full
  else match entry? lists index with
    | some ids => ids.mapM resolve
    | none => .error noList

theorem mem_of_entry {α : Type} {items : List α} {index : Int} {x : α}
    (h : entry? items index = some x) : x ∈ items := by
  unfold entry? at h
  split at h
  · exact List.mem_of_getElem? h
  · cases h

theorem resolved_faults {α : Type} {P : Fault → Prop} {full : List α}
    {resolve : Int → Except Fault α} {noList : Fault} {lists : List (List Int)}
    (hresolve : ∀ ids ∈ lists, ∀ id ∈ ids, FailsOnly P (resolve id)) (hlist : P noList)
    (index : Int) : FailsOnly P (resolved full resolve noList lists index) := by
  rw [resolved]
  split
  · exact failsOnly_ok _
  · split
    · rename_i ids hids
      exact FailsOnly.mapM (hresolve ids (mem_of_entry hids))
    · exact failsOnly_error.mpr hlist

/-- Whichever reference of a row leads nowhere, the fault that is raised has the property. -/
structure RefusedOnly (P : Fault → Prop) (d : SideData) (r : Row) : Prop where
  armor : P (Fault.badArmorCode r.armorCode).reported
  shieldList : P (Fault.badShieldIndex r.shieldIndex).reported
  shield : ∀ ids ∈ d.allowedShieldsLists, ∀ id ∈ ids,
    P (Fault.badShieldId id r.shieldIndex).reported
  weaponList : P (Fault.badWeaponIndex r.weaponIndex).reported
  weapon : ∀ ids ∈ d.allowedWeaponsLists, ∀ id ∈ ids,
    P (Fault.badWeaponId id r.weaponIndex).reported
  lockpicking : P (Fault.badLockpickingDivisor r.divisor).reported

theorem ofRow_faults {P : Fault → Prop} {d : SideData} {r : Row} (h : RefusedOnly P d r) :
    FailsOnly P (ofRow d r) := by
  have harmor : FailsOnly P (armorsFor r.armorCode) := by
    rw [armorsFor]
    split
    · exact failsOnly_ok _
    · exact failsOnly_error.mpr h.armor
  have hshields : FailsOnly P (shieldsFor r.shieldIndex d.allowedShieldsLists) := by
    refine resolved_faults (fun ids hids id hid => ?_) h.shieldList r.shieldIndex
    rw [shieldOf]
    split
    · exact failsOnly_ok _
    · exact failsOnly_error.mpr (h.shield ids hids id hid)
  have hweapons : FailsOnly P (weaponsFor r.weaponIndex d.allowedWeaponsLists) := by
    refine resolved_faults (fun ids hids id hid => ?_) h.weaponList r.weaponIndex
    rw [weaponOf]
    split
    · exact failsOnly_ok _
    · exact failsOnly_error.mpr (h.weapon ids hids id hid)
  have hlockpicking : FailsOnly P (lockpickingFor r.divisor) := by
    rw [lockpickingFor]
    split
    · exact failsOnly_error.mpr h.lockpicking
    · exact failsOnly_ok _
  refine harmor.bind fun armors _ => ?_
  refine hshields.bind fun shields _ => ?_
  refine hweapons.bind fun weapons _ => ?_
  exact hlockpicking.bind fun lockpicking _ => failsOnly_ok _

theorem all_faults {P : Fault → Prop} {d : SideData}
    (h : ∀ place < SideData.classCount, RefusedOnly P d (row d place)) : FailsOnly P (all d) :=
  FailsOnly.mapM fun place hplace => ofRow_faults (h place (List.mem_range.mp hplace))

/-- The fault says that the tables are malformed, or that a number in them cannot be shown. -/
def Unusable (fault : Fault) : Prop := fault.Malformed ∨ fault = .tooManyDigits

theorem unusable_reported {fault : Fault} (h : fault.Malformed) : Unusable fault.reported := by
  by_cases hmessage : fault.hasMessage = true
  · rw [Fault.reported_of_hasMessage hmessage]
    exact Or.inl h
  · exact Or.inr (Fault.reported_of_not_hasMessage hmessage)

theorem all_unusable (d : SideData) : FailsOnly Unusable (all d) :=
  all_faults fun _ _ => ⟨unusable_reported rfl, unusable_reported rfl,
    fun _ _ _ _ => unusable_reported rfl, unusable_reported rfl,
    fun _ _ _ _ => unusable_reported rfl, unusable_reported rfl⟩

/-- The numbers of the tables that refer to something, or divide. -/
def references (d : SideData) : List Int :=
  d.allowedArmors ++ d.allowedShieldsIndices ++ d.allowedWeaponsIndices ++ d.lockpickingDivisors ++
    d.allowedShieldsLists.flatten ++ d.allowedWeaponsLists.flatten

/-- If all of these can be shown, so can those of each row, and nothing but malformed tables is
found. -/
theorem all_malformed {d : SideData} (h : ∀ n ∈ references d, Text.shows n = true) :
    FailsOnly Malformed (all d) := by
  simp only [references, List.mem_append, or_imp, forall_and, List.mem_flatten,
    forall_exists_index, and_imp] at h
  obtain ⟨⟨⟨⟨⟨harmor, hshield⟩, hweapon⟩, hdivisor⟩, hshields⟩, hweapons⟩ := h
  have hentry {column : List Int} (hcolumn : ∀ n ∈ column, Text.shows n = true) (place : Nat) :
      Text.shows ((column[place]?).getD 0) = true := by
    cases hget : column[place]? with
    | none => exact Text.shows_of_lt (by decide)
    | some n => exact hcolumn n (List.mem_of_getElem? hget)
  have hreported {fault : Fault} (hkind : fault.Malformed)
      (hnumbers : ∀ n ∈ fault.numbers, Text.shows n = true) : fault.reported.Malformed :=
    hkind.reported (Fault.hasMessage_iff.mpr hnumbers)
  refine all_faults fun place _ => ⟨hreported rfl ?_, hreported rfl ?_,
    fun ids hids id hid => hreported rfl ?_, hreported rfl ?_,
    fun ids hids id hid => hreported rfl ?_, hreported rfl ?_⟩
  · simpa [Fault.numbers, row] using hentry harmor place
  · simpa [Fault.numbers, row] using hentry hshield place
  · simpa [Fault.numbers] using ⟨hshields id ids hids hid, hentry hshield place⟩
  · simpa [Fault.numbers, row] using hentry hweapon place
  · simpa [Fault.numbers] using ⟨hweapons id ids hids hid, hentry hweapon place⟩
  · simpa [Fault.numbers, row] using hentry hdivisor place

end ClassDefinition

/-! ## Names -/

/-- The number of chunks that the game's rules make use of. -/
def RuleTable.chunkCount : Nat := 58

theorem RuleTable.mentioned_standard : ∃ mentioned, NameRule.mentioned standard = .ok mentioned ∧
    ∀ index ∈ mentioned, 0 ≤ index ∧ index < chunkCount := by
  have hcheck : ((NameRule.mentioned standard).toOption.any fun mentioned =>
      mentioned.all fun index => 0 ≤ index && index < chunkCount) = true := by decide +kernel
  cases hmentioned : NameRule.mentioned standard with
  | error fault => simp [hmentioned, Except.toOption] at hcheck
  | ok mentioned => exact ⟨mentioned, rfl, by simpa [hmentioned, Except.toOption] using hcheck⟩

/-- A table of recognized rules can only mention chunks that are not there. -/
theorem NameGenerator.build_faults {rules : RuleTable} {mentioned : List Int}
    (h : NameRule.mentioned rules = .ok mentioned)
    (hshown : ∀ index ∈ mentioned, Text.shows index = true) (chunks : List NameChunk) :
    FailsOnly Malformed (build chunks rules) := by
  unfold build
  split
  · rename_i fault hfault
    rw [h] at hfault
    cases hfault
  · rename_i mentioned' hmentioned
    obtain rfl : mentioned = mentioned' := Except.ok.inj (h.symm.trans hmentioned)
    split
    · rename_i index hindex
      have hdangling : (Fault.danglingRule index chunks.length).Malformed := rfl
      refine failsOnly_error.mpr (hdangling.reported ?_)
      simp [Fault.hasMessage, Fault.numbers, hshown index (List.mem_of_find?_eq_some hindex)]
    · exact failsOnly_ok _

theorem NameGenerator.exists_build {chunks : List NameChunk} {rules : RuleTable}
    {mentioned : List Int} (h : NameRule.mentioned rules = .ok mentioned)
    (hchunks : ∀ index ∈ mentioned, 0 ≤ index ∧ index < chunks.length) :
    ∃ generator, build chunks rules = .ok generator := by
  unfold build
  split
  · rename_i fault hfault
    rw [h] at hfault
    cases hfault
  · rename_i mentioned' hmentioned
    obtain rfl : mentioned = mentioned' := Except.ok.inj (h.symm.trans hmentioned)
    split
    · rename_i index hindex
      have hmem := List.mem_of_find?_eq_some hindex
      have hbad := List.find?_some hindex
      simp [isChunk, hchunks index hmem] at hbad
    · exact ⟨_, rfl⟩

end ArenaData
