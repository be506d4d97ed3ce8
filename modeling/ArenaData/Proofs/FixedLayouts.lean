import ArenaData.Proofs.DecodedShapes
import Mathlib.Data.List.Flatten
import Mathlib.Data.List.SplitLengths

/-!
# Files of a fixed layout

The spell file and the class file have every value in a fixed place. Their decoders are `Lossless`:
what they give can be written down again, and that is the front of the file, byte for byte. So each
byte there is told by the result, and those behind it are not. For a spell even more is shown: its
fields, written one by one, are the pieces that its record is cut into, so no byte of the record is
part of two fields.
-/

namespace ArenaData

/-! ## Decoders that lose nothing -/

section Lossless

variable {α : Type} {size : Nat} {decode : Bytes → Except Fault α} {Complete : α → Prop}
  {write : α → Bytes}

/-- The decoder refuses data below a size. From longer data it gives a complete result, which is
written as the front of the data, and every complete result is given for what it is written as. -/
structure Lossless (size : Nat) (decode : Bytes → Except Fault α) (Complete : α → Prop)
    (write : α → Bytes) : Prop where
  malformed : ∀ data, data.length < size → Fails .malformedRecord (decode data)
  written : ∀ data, size ≤ data.length →
    ∃ a, decode data = .ok a ∧ Complete a ∧ write a = data.take size
  restored : ∀ a rest, Complete a → decode (write a ++ rest) = .ok a

theorem Lossless.of_injective
    (hmalformed : ∀ data, data.length < size → Fails .malformedRecord (decode data))
    (hwritten : ∀ data, size ≤ data.length →
      ∃ a, decode data = .ok a ∧ Complete a ∧ write a = data.take size)
    (hlength : ∀ a, Complete a → (write a).length = size)
    (hinjective : ∀ a b, Complete a → Complete b → write a = write b → a = b) :
    Lossless size decode Complete write := by
  refine ⟨hmalformed, hwritten, ?_⟩
  intro a rest ha
  have hsize := hlength a ha
  have hlong : size ≤ (write a ++ rest).length := by
    rw [List.length_append]
    omega
  obtain ⟨b, hb, hcomplete, hwrite⟩ := hwritten (write a ++ rest) hlong
  rw [← hsize, List.take_left] at hwrite
  rw [hb, hinjective b a hcomplete ha hwrite]

theorem Lossless.written_of_ok (h : Lossless size decode Complete write) {data : Bytes} {a : α}
    (ha : decode data = .ok a) : Complete a ∧ write a = data.take size := by
  by_cases hlong : size ≤ data.length
  · obtain ⟨b, hb, hcomplete, hwrite⟩ := h.written data hlong
    obtain rfl : b = a := Except.ok.inj (hb.symm.trans ha)
    exact ⟨hcomplete, hwrite⟩
  · exact absurd ha ((h.malformed data (Nat.not_le.mp hlong)).ne_ok a)

/-- Two results are the same just when the fronts of the data are. -/
theorem Lossless.eq_iff (h : Lossless size decode Complete write) {data data' : Bytes} {a a' : α}
    (ha : decode data = .ok a) (ha' : decode data' = .ok a') :
    a = a' ↔ data.take size = data'.take size := by
  obtain ⟨hcomplete, hwrite⟩ := h.written_of_ok ha
  obtain ⟨hcomplete', hwrite'⟩ := h.written_of_ok ha'
  rw [← hwrite, ← hwrite']
  constructor
  · intro heq
    rw [heq]
  · intro heq
    have hback := h.restored a [] hcomplete
    rw [heq, h.restored a' [] hcomplete'] at hback
    exact (Except.ok.inj hback).symm

end Lossless

/-! ## Windows -/

theorem take_drop_eq_iff {α : Type} {l l' : List α} {start size : Nat} :
    (l.drop start).take size = (l'.drop start).take size ↔
      ∀ j, start ≤ j → j < start + size → l[j]? = l'[j]? := by
  constructor
  · intro h j hlow hhigh
    have hget := congrArg (·[j - start]?) h
    have hback : start + (j - start) = j := by omega
    simpa only [List.getElem?_take_of_lt (show j - start < size by omega), List.getElem?_drop,
      hback] using hget
  · intro h
    apply List.ext_getElem?
    intro i
    by_cases hi : i < size
    · rw [List.getElem?_take_of_lt hi, List.getElem?_take_of_lt hi, List.getElem?_drop,
        List.getElem?_drop]
      exact h (start + i) (by omega) (by omega)
    · rw [List.getElem?_take_eq_none (by omega), List.getElem?_take_eq_none (by omega)]

/-- Windows of one size one after the other are a front part. -/
theorem flatMap_windows {α : Type} (l : List α) (size count : Nat) :
    ((List.range count).flatMap fun i => (l.drop (size * i)).take size) =
      l.take (size * count) := by
  induction count with
  | zero => rfl
  | succ count ih =>
    rw [List.range_succ, List.flatMap_append, ih, List.flatMap_singleton, Nat.mul_succ,
      List.take_add]

/-! ## Words -/

/-- The bytes of a 16-bit number, the least significant first. -/
def Bytes.ofWord (w : UInt16) : Bytes := ofUInt16 w.toNat

theorem Bytes.ofWord_injective : Function.Injective ofWord := by
  intro w w' h
  have hvalue (w : UInt16) : littleEndian (ofWord w) = w.toNat :=
    littleEndian_ofUInt16 (Nat.le_of_lt_succ w.toNat_lt)
  apply UInt16.toNat_inj.mp
  rw [← hvalue w, ← hvalue w', h]

theorem Triple.toList_injective {α : Type} : Function.Injective (toList (α := α)) := by
  intro t t' h
  cases t
  cases t'
  simp only [toList, List.cons.injEq, and_true] at h
  obtain ⟨rfl, rfl, rfl⟩ := h
  rfl

theorem Triple.flatMap_ofWord_injective :
    Function.Injective fun t : Triple UInt16 => t.toList.flatMap Bytes.ofWord := by
  intro t t' h
  cases t
  cases t'
  simp only [toList, List.flatMap_cons] at h
  obtain ⟨hfirst, h⟩ := List.append_inj h rfl
  obtain ⟨hsecond, h⟩ := List.append_inj h rfl
  obtain ⟨hthird, -⟩ := List.append_inj h rfl
  obtain rfl := Bytes.ofWord_injective hfirst
  obtain rfl := Bytes.ofWord_injective hsecond
  obtain rfl := Bytes.ofWord_injective hthird
  rfl

namespace Spell

variable {record : Bytes} {offset : Nat}

theorem ofWord_wordAt (h : offset + 2 ≤ record.length) :
    Bytes.ofWord (wordAt record offset) = (record.drop offset).take 2 := by
  have hlength : ((record.drop offset).take 2).length = 2 := by
    rw [List.length_take, List.length_drop]
    omega
  obtain ⟨low, high, hpair⟩ := List.length_eq_two.mp hlength
  have hlow := low.toNat_lt
  have hhigh := high.toNat_lt
  have hvalue : (wordAt record offset).toNat = low.toNat + 256 * high.toNat := by
    rw [wordAt, hpair, Bytes.littleEndian_pair, UInt16.toNat_ofNat']
    omega
  rw [Bytes.ofWord, hvalue, hpair, Bytes.ofUInt16_pair]

theorem singleton_byteAt (h : offset + 1 ≤ record.length) :
    [byteAt record offset] = (record.drop offset).take 1 := by
  have hlt : offset < record.length := h
  rw [byteAt, List.getElem?_eq_getElem hlt, Option.getD_some, List.drop_eq_getElem_cons hlt]
  rfl

theorem toList_bytesAt (h : offset + 3 ≤ record.length) :
    (bytesAt record offset).toList = (record.drop offset).take 3 := by
  have hfirst := singleton_byteAt (show offset + 1 ≤ record.length by omega)
  have hsecond := singleton_byteAt (show offset + 1 + 1 ≤ record.length by omega)
  have hthird := singleton_byteAt (show offset + 2 + 1 ≤ record.length by omega)
  rw [List.take_add (i := 1) (j := 2), List.take_add (i := 1) (j := 1), List.drop_drop,
    List.drop_drop, ← hfirst, ← hsecond, ← hthird]
  rfl

theorem flatMap_wordsAt (h : offset + 6 ≤ record.length) :
    (wordsAt record offset).toList.flatMap Bytes.ofWord = (record.drop offset).take 6 := by
  have hfirst := ofWord_wordAt (show offset + 2 ≤ record.length by omega)
  have hsecond := ofWord_wordAt (show offset + 2 + 2 ≤ record.length by omega)
  have hthird := ofWord_wordAt (show offset + 4 + 2 ≤ record.length by omega)
  rw [List.take_add (i := 2) (j := 4), List.take_add (i := 2) (j := 2), List.drop_drop,
    List.drop_drop, ← hfirst, ← hsecond, ← hthird]
  rfl

/-! ## Spells -/

/-- The bytes of each field, in the order of the record. -/
def fieldBytes (s : Spell) : List Bytes :=
  (s.params.map fun t => t.toList.flatMap Bytes.ofWord) ++
    [[s.targetType], [s.unknown], [s.element], Bytes.ofWord s.flags, s.effects.toList,
      s.subEffects.toList, s.affectedAttributes.toList, Bytes.ofWord s.cost, s.nameBytes]

/-- The sizes of the fields. -/
def fieldSizes : List Nat := List.replicate 6 6 ++ [1, 1, 1, 2, 3, 3, 3, 2, 33]

/-- The record of a spell. -/
def bytes (s : Spell) : Bytes := s.fieldBytes.flatten

/-- The spell has all of its parameters and a full name. -/
def IsComplete (s : Spell) : Prop := s.params.length = paramCount ∧ s.nameBytes.length = nameSize

variable {s s' : Spell}

theorem isComplete_ofRecord (h : record.length = recordSize) : (ofRecord record).IsComplete := by
  constructor
  · rw [ofRecord, List.length_map, List.length_range]
  · rw [ofRecord, List.length_drop, h, nameSize]

/-- The fields of a spell are the pieces that its record is cut into. -/
theorem fieldBytes_ofRecord (h : record.length = recordSize) :
    (ofRecord record).fieldBytes = fieldSizes.splitLengths record := by
  rw [recordSize] at h
  have hparams : ((ofRecord record).params.map fun t => t.toList.flatMap Bytes.ofWord) =
      (List.range 6).map fun i => (record.drop (6 * i)).take 6 := by
    rw [ofRecord, List.map_map]
    apply List.map_congr_left
    intro i hi
    have hi : i < 6 := List.mem_range.mp hi
    exact flatMap_wordsAt (by omega)
  have hname : (ofRecord record).nameBytes = (record.drop 52).take 33 := by
    rw [List.take_of_length_le]
    · rfl
    · rw [List.length_drop]
      omega
  rw [fieldBytes, hparams, hname]
  simp only [ofRecord]
  rw [singleton_byteAt (by omega), singleton_byteAt (by omega), singleton_byteAt (by omega),
    ofWord_wordAt (by omega), toList_bytesAt (by omega), toList_bytesAt (by omega),
    toList_bytesAt (by omega), ofWord_wordAt (by omega)]
  simp only [fieldSizes, List.replicate, List.cons_append, List.nil_append,
    List.splitLengths_cons, List.splitLengths_nil, List.drop_drop]
  rfl

theorem bytes_ofRecord (h : record.length = recordSize) : (ofRecord record).bytes = record := by
  have hsizes : record.length ≤ fieldSizes.sum := by
    rw [h]
    decide
  rw [bytes, fieldBytes_ofRecord h, List.flatten_splitLengths _ _ hsizes]

theorem map_length_fieldBytes (h : s.IsComplete) : s.fieldBytes.map List.length = fieldSizes := by
  have hparams : (s.params.map fun t => t.toList.flatMap Bytes.ofWord).map List.length =
      List.replicate 6 6 := by
    have hsix : s.params.map (List.length ∘ fun t => t.toList.flatMap Bytes.ofWord) =
        List.replicate s.params.length 6 := List.map_eq_replicate_iff.mpr fun _ _ => rfl
    rw [List.map_map, hsix, h.1]
    rfl
  have hname : s.nameBytes.length = 33 := h.2
  rw [fieldBytes, List.map_append, hparams, fieldSizes, ← hname]
  rfl

theorem length_bytes (h : s.IsComplete) : s.bytes.length = recordSize := by
  rw [bytes, List.length_flatten, map_length_fieldBytes h]
  rfl

/-- The fields of a spell are told by their bytes. -/
theorem eq_of_fieldBytes_eq (h : s.IsComplete) (h' : s'.IsComplete)
    (heq : s.fieldBytes = s'.fieldBytes) : s = s' := by
  have hlength : (s.params.map fun t => t.toList.flatMap Bytes.ofWord).length =
      (s'.params.map fun t => t.toList.flatMap Bytes.ofWord).length := by
    rw [List.length_map, List.length_map, h.1, h'.1]
  obtain ⟨hparams, hrest⟩ := List.append_inj heq hlength
  have hparams : s.params = s'.params :=
    List.map_injective_iff.mpr Triple.flatMap_ofWord_injective hparams
  cases s
  cases s'
  simp only [List.cons.injEq, and_true] at hrest
  obtain ⟨rfl, rfl, rfl, hflags, heffects, hsub, haffected, hcost, rfl⟩ := hrest
  obtain rfl := hparams
  obtain rfl := Bytes.ofWord_injective hflags
  obtain rfl := Triple.toList_injective heffects
  obtain rfl := Triple.toList_injective hsub
  obtain rfl := Triple.toList_injective haffected
  obtain rfl := Bytes.ofWord_injective hcost
  rfl

/-- A complete spell is the one of its record. -/
theorem ofRecord_bytes (h : s.IsComplete) : ofRecord s.bytes = s := by
  have hlength := length_bytes h
  have hcomplete := isComplete_ofRecord hlength
  refine eq_of_fieldBytes_eq hcomplete h (List.eq_iff_flatten_eq.mpr ⟨bytes_ofRecord hlength, ?_⟩)
  rw [map_length_fieldBytes hcomplete, map_length_fieldBytes h]

/-! ## The spell file -/

/-- The records of the spells one after the other. -/
def fileBytes (spells : List Spell) : Bytes := spells.flatMap bytes

/-- There are all spells, and each is complete. -/
def AreComplete (spells : List Spell) : Prop :=
  spells.length = count ∧ ∀ s ∈ spells, s.IsComplete

/-- The record at a place of the file. -/
def recordIn (data : Bytes) (i : Nat) : Bytes := (data.drop (recordSize * i)).take recordSize

variable {data data' : Bytes} {spells spells' : List Spell} {i : Nat}

theorem length_recordIn (h : count * recordSize ≤ data.length) (hi : i < count) :
    (recordIn data i).length = recordSize := by
  have hend : recordSize * (i + 1) ≤ recordSize * count := Nat.mul_le_mul_left _ hi
  rw [Nat.mul_succ, Nat.mul_comm recordSize count] at hend
  rw [recordIn, List.length_take, List.length_drop]
  omega

theorem decodeAll_eq_ok_iff : decodeAll data = .ok spells ↔
    count * recordSize ≤ data.length ∧
      (List.range count).map (fun i => ofRecord (recordIn data i)) = spells := by
  rw [decodeAll]
  by_cases h : data.length < count * recordSize
  · simp only [if_pos h]
    exact iff_of_false error_ne_ok fun heq => Nat.not_le.mpr h heq.1
  · simp only [if_neg h]
    exact ⟨fun heq => ⟨Nat.not_lt.mp h, Except.ok.inj heq⟩, fun heq => congrArg Except.ok heq.2⟩

theorem map_length_bytes (h : AreComplete spells) :
    (spells.map bytes).map List.length = List.replicate count recordSize := by
  rw [List.map_map, ← h.1, List.map_eq_replicate_iff]
  intro s hs
  exact length_bytes (h.2 s hs)

theorem length_fileBytes (h : AreComplete spells) :
    (fileBytes spells).length = count * recordSize := by
  rw [fileBytes, List.flatMap_def, List.length_flatten, map_length_bytes h,
    List.sum_replicate_nat]

/-- Complete spells are told by their file. -/
theorem eq_of_fileBytes_eq (h : AreComplete spells) (h' : AreComplete spells')
    (heq : fileBytes spells = fileBytes spells') : spells = spells' := by
  have hback {spells : List Spell} (h : AreComplete spells) :
      (spells.map bytes).map ofRecord = spells := by
    rw [List.map_map]
    exact (List.map_congr_left fun s hs => ofRecord_bytes (h.2 s hs)).trans (List.map_id spells)
  have hpieces : spells.map bytes = spells'.map bytes :=
    List.eq_iff_flatten_eq.mpr ⟨heq, (map_length_bytes h).trans (map_length_bytes h').symm⟩
  rw [← hback h, hpieces, hback h']

theorem lossless_decodeAll :
    Lossless (count * recordSize) decodeAll AreComplete fileBytes := by
  refine .of_injective ?_ ?_ (fun _ => length_fileBytes) (fun _ _ => eq_of_fileBytes_eq)
  · intro data h
    have hnone : ¬ ∃ spells, decodeAll data = .ok spells := by
      rintro ⟨spells, hspells⟩
      exact Nat.not_le.mpr h (decodeAll_eq_ok_iff.mp hspells).1
    exact (decodeAll_faults data).fails_iff.mpr hnone
  · intro data h
    have hspells : decodeAll data = .ok _ := decodeAll_eq_ok_iff.mpr ⟨h, rfl⟩
    refine ⟨_, hspells, shape_of_decodeAll hspells, ?_⟩
    have hbytes : ∀ i ∈ List.range count, (ofRecord (recordIn data i)).bytes = recordIn data i := by
      intro i hi
      exact bytes_ofRecord (length_recordIn h (List.mem_range.mp hi))
    rw [fileBytes, List.flatMap_map, List.flatMap_congr hbytes, Nat.mul_comm]
    exact flatMap_windows data recordSize count

/-- A spell changes just when a byte of its record does. -/
theorem getElem?_ne_iff (h : decodeAll data = .ok spells) (h' : decodeAll data' = .ok spells')
    (hi : i < count) : spells[i]? ≠ spells'[i]? ↔
      ∃ j, recordSize * i ≤ j ∧ j < recordSize * i + recordSize ∧ data[j]? ≠ data'[j]? := by
  obtain ⟨hlong, rfl⟩ := decodeAll_eq_ok_iff.mp h
  obtain ⟨hlong', rfl⟩ := decodeAll_eq_ok_iff.mp h'
  have hspell : ofRecord (recordIn data i) = ofRecord (recordIn data' i) ↔
      recordIn data i = recordIn data' i := by
    constructor
    · intro heq
      rw [← bytes_ofRecord (length_recordIn hlong hi), heq,
        bytes_ofRecord (length_recordIn hlong' hi)]
    · intro heq
      rw [heq]
  rw [List.getElem?_map, List.getElem?_map, List.getElem?_range hi, Option.map_some,
    Option.map_some, ne_eq, Option.some.injEq, hspell, recordIn, recordIn, take_drop_eq_iff]
  push Not
  rfl

end Spell

/-! ## The class file -/

namespace ClassFlags

/-- The flag number of a byte. -/
def byte (f : ClassFlags) : UInt8 :=
  UInt8.ofNat (f.id + 32 * f.isSpellcaster.toNat + 64 * f.hasCriticalHit.toNat +
    128 * f.isThief.toNat)

theorem toNat_bit (n k : Nat) : (bit n k).toNat = n / 2 ^ k % 2 := by
  have hvalue : (n : Int) >>> k % 2 = (n / 2 ^ k % 2 : Nat) := by
    rw [Int.shiftRight_eq_div_pow]
    push_cast
    rfl
  rw [bit, hvalue]
  rcases Nat.mod_two_eq_zero_or_one (n / 2 ^ k) with h | h
  · rw [h]
    rfl
  · rw [h]
    rfl

theorem bit_eq_of_toNat {n k : Nat} {b : Bool} (h : n / 2 ^ k % 2 = b.toNat) : bit n k = b := by
  have hinjective : ∀ a b : Bool, a.toNat = b.toNat → a = b := by decide
  apply hinjective
  rw [toNat_bit, h]

theorem byte_ofInt (b : UInt8) : (ofInt b.toNat).byte = b := by
  have hb := b.toNat_lt
  have hid : ((b.toNat : Int) % 32).toNat = b.toNat % 32 := by omega
  apply UInt8.toNat_inj.mp
  rw [byte, UInt8.toNat_ofNat', ofInt]
  simp only [toNat_bit, hid]
  omega

theorem ofInt_byte {f : ClassFlags} (h : f.id < 32) : ofInt f.byte.toNat = f := by
  have h1 := f.isSpellcaster.toNat_le
  have h2 := f.hasCriticalHit.toNat_le
  have h3 := f.isThief.toNat_le
  have hbyte : f.byte.toNat = f.id + 32 * f.isSpellcaster.toNat + 64 * f.hasCriticalHit.toNat +
      128 * f.isThief.toNat := by
    rw [byte, UInt8.toNat_ofNat']
    omega
  have hid : ((f.byte.toNat : Int) % 32).toNat = f.id := by omega
  have hspellcaster : bit f.byte.toNat 5 = f.isSpellcaster := bit_eq_of_toNat (by omega)
  have hcritical : bit f.byte.toNat 6 = f.hasCriticalHit := bit_eq_of_toNat (by omega)
  have hthief : bit f.byte.toNat 7 = f.isThief := bit_eq_of_toNat (by omega)
  rw [ofInt, hid, hspellcaster, hcritical, hthief]

end ClassFlags

namespace ClassGeneration

/-- The class file with this content. -/
def file (g : ClassGeneration) : Bytes :=
  g.classes.map ClassFlags.byte ++ g.choices.flatMap Triple.toList

/-- There are flags for all classes, with ids of five bits, and all choices. -/
def IsComplete (g : ClassGeneration) : Prop :=
  g.classes.length = classCount ∧ (∀ flags ∈ g.classes, flags.id < 32) ∧
    g.choices.length = choiceCount

variable {g g' : ClassGeneration}

theorem length_file (h : g.IsComplete) : g.file.length = fileSize := by
  have hthree : (g.choices.map fun t => t.toList.length) = List.replicate choiceCount 3 := by
    rw [← h.2.2, List.map_eq_replicate_iff]
    intro t _
    rfl
  rw [file, List.length_append, List.length_map, h.1, List.length_flatMap, hthree,
    List.sum_replicate_nat]
  rfl

/-- A complete content is told by its file. -/
theorem eq_of_file_eq (h : g.IsComplete) (h' : g'.IsComplete) (heq : g.file = g'.file) :
    g = g' := by
  have hlength : (g.classes.map ClassFlags.byte).length =
      (g'.classes.map ClassFlags.byte).length := by
    rw [List.length_map, List.length_map, h.1, h'.1]
  obtain ⟨hbytes, htriples⟩ := List.append_inj heq hlength
  have hback {g : ClassGeneration} (h : g.IsComplete) :
      (g.classes.map ClassFlags.byte).map (fun b => ClassFlags.ofInt b.toNat) = g.classes := by
    rw [List.map_map]
    exact (List.map_congr_left fun flags hflags =>
      ClassFlags.ofInt_byte (h.2.1 flags hflags)).trans (List.map_id g.classes)
  have hclasses : g.classes = g'.classes := by rw [← hback h, hbytes, hback h']
  have hchoices : g.choices = g'.choices := by
    rw [← Triple.ofList_flatMap_toList g.choices, htriples, Triple.ofList_flatMap_toList]
  cases g
  cases g'
  obtain rfl := hclasses
  obtain rfl := hchoices
  rfl

theorem lossless_decode : Lossless fileSize decode IsComplete file := by
  refine .of_injective ?_ ?_ (fun _ => length_file) (fun _ _ => eq_of_file_eq)
  · intro data h
    rw [decode]
    simp only [if_pos h]
    exact fails_error.mpr rfl
  · intro data h
    have hsize : fileSize = classCount + 3 * choiceCount := rfl
    obtain ⟨g, hg⟩ := exists_decode h
    refine ⟨g, hg, shape_of_decode hg, ?_⟩
    rw [decode] at hg
    simp only [if_neg (Nat.not_lt.mpr h)] at hg
    obtain rfl := Except.ok.inj hg
    have hclasses : ((data.take classCount).map fun b => ClassFlags.ofInt b.toNat).map
        ClassFlags.byte = data.take classCount := by
      rw [List.map_map]
      exact (List.map_congr_left fun b _ => ClassFlags.byte_ofInt b).trans (List.map_id _)
    have hlength : ((data.take fileSize).drop classCount).length = choiceCount * 3 := by
      rw [List.length_drop, List.length_take]
      omega
    have hfront : data.take classCount = (data.take fileSize).take classCount := by
      rw [List.take_take]
      rfl
    rw [file, hclasses, (Triple.flatMap_toList_ofList hlength).1, hfront, List.take_append_drop]

end ClassGeneration

/-! ## No byte is lost -/

/-- The spell file is read from 10880 bytes on, and the class file from 216 bytes on; shorter ones
are malformed. What is read tells those bytes and no others: it can be written down again as they
are, and all that is complete is read back from what it is written as. So two files have the same
spells or classes iff they have the same bytes there, and a spell changes iff one of its 85 bytes
does. The fields of a spell are the pieces of its record, none of which overlap. -/
theorem fixedLayouts_lossless :
    Lossless 10880 Spell.decodeAll Spell.AreComplete Spell.fileBytes ∧
    Lossless 216 ClassGeneration.decode ClassGeneration.IsComplete ClassGeneration.file ∧
    (∀ data data' spells spells', Spell.decodeAll data = .ok spells →
      Spell.decodeAll data' = .ok spells' →
        (spells = spells' ↔ data.take 10880 = data'.take 10880) ∧
        ∀ i < 128, (spells[i]? ≠ spells'[i]? ↔
          ∃ j, 85 * i ≤ j ∧ j ≤ 85 * i + 84 ∧ data[j]? ≠ data'[j]?)) ∧
    (∀ data data' g g', ClassGeneration.decode data = .ok g → ClassGeneration.decode data' = .ok g' →
      (g = g' ↔ data.take 216 = data'.take 216)) ∧
    (∀ record, record.length = 85 →
      (Spell.ofRecord record).fieldBytes = Spell.fieldSizes.splitLengths record) ∧
    ∀ s : Spell, s.IsComplete → s.bytes.length = 85 ∧ Spell.ofRecord s.bytes = s := by
  refine ⟨Spell.lossless_decodeAll, ClassGeneration.lossless_decode, ?_, ?_, ?_, ?_⟩
  · intro data data' spells spells' h h'
    refine ⟨Spell.lossless_decodeAll.eq_iff h h', ?_⟩
    intro i hi
    rw [Spell.getElem?_ne_iff h h' hi]
    simp only [Spell.recordSize, Nat.lt_iff_le_pred (show 0 < 85 * i + 85 by omega)]
    rfl
  · intro data data' g g' h h'
    exact ClassGeneration.lossless_decode.eq_iff h h'
  · intro record h
    exact Spell.fieldBytes_ofRecord h
  · intro s h
    exact ⟨Spell.length_bytes h, Spell.ofRecord_bytes h⟩

/-- Files of zeros. A change in the cost of the spell at place 3 changes this spell only, and a
change of the first byte of the class file changes the classes. -/
theorem fixedLayouts_lossless_of_zeros :
    (∃ spells spells', Spell.decodeAll (List.replicate 10880 0) = .ok spells ∧
      Spell.decodeAll ((List.replicate 10880 0).set 305 1) = .ok spells' ∧
      spells[3]? ≠ spells'[3]? ∧ ∀ i < 128, i ≠ 3 → spells[i]? = spells'[i]?) ∧
    ∃ g g', ClassGeneration.decode (List.replicate 216 0) = .ok g ∧
      ClassGeneration.decode ((List.replicate 216 0).set 0 33) = .ok g' ∧ g ≠ g' := by
  obtain ⟨hspells, hclasses, hspell, hclass, -, -⟩ := fixedLayouts_lossless
  constructor
  · obtain ⟨spells, h, -⟩ :=
      hspells.written (List.replicate 10880 0) (by rw [List.length_replicate])
    obtain ⟨spells', h', -⟩ := hspells.written ((List.replicate 10880 0).set 305 1)
      (by rw [List.length_set, List.length_replicate])
    have hchanged := (hspell _ _ spells spells' h h').2
    refine ⟨spells, spells', h, h',
      (hchanged 3 (by decide)).mpr ⟨305, by decide, by decide, ?_⟩, ?_⟩
    · rw [List.getElem?_replicate, List.getElem?_set_self (by rw [List.length_replicate]; decide)]
      decide
    · intro i hi hne
      by_contra hdiffers
      obtain ⟨j, hlow, hhigh, hj⟩ := (hchanged i hi).mp hdiffers
      have hother : 305 ≠ j := by omega
      exact hj (List.getElem?_set_ne hother).symm
  · obtain ⟨g, h, -⟩ := hclasses.written (List.replicate 216 0) (by rw [List.length_replicate])
    obtain ⟨g', h', -⟩ := hclasses.written ((List.replicate 216 0).set 0 33)
      (by rw [List.length_set, List.length_replicate])
    refine ⟨g, g', h, h', ?_⟩
    intro heq
    have hfronts := (hclass _ _ g g' h h').mp heq
    exact absurd hfronts (by decide)

end ArenaData
