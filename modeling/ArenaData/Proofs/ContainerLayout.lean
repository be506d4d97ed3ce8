import ArenaData.Archive.Basic
import ArenaData.Proofs.Keyed
import ArenaData.Proofs.Outcome
import Mathlib.Algebra.Order.Ring.Nat

/-!
# The layout of containers

Where things are in the bytes of a container, said of the bytes alone: the footer records by their
number, and from them names, sizes and the starts of the payloads, which are sums of sizes. Reading
the footer walks over the records with the start of the next payload in hand; its invariant is that
this start is the sum of the sizes so far and does not lie behind the start of the footer.
-/

namespace ArenaData.Container

/-! ## Records and payloads -/

/-- The number of entries that the header states. -/
def countIn (data : Bytes) : Nat := Bytes.littleEndian (data.take 2)

/-- Where the footer starts if it takes 18 bytes for each entry. -/
def footerStart (data : Bytes) : Nat := data.length - 18 * countIn data

/-- The record of a number among records of 18 bytes each. -/
def recordAt (records : Bytes) (k : Nat) : Bytes := (records.drop (18 * k)).take 18

/-- The name in a record: its first 12 bytes up to the first zero byte. -/
def nameOf (record : Bytes) : Text := Bytes.latin1 ((record.take 12).takeWhile (· != 0))

/-- The size in a record: its last 4 bytes. -/
def sizeOf (record : Bytes) : Nat := Bytes.littleEndian ((record.drop 14).take 4)

/-- The footer record of an entry. -/
def footerRecord (data : Bytes) (k : Nat) : Bytes := recordAt (data.drop (footerStart data)) k

/-- The name of an entry. -/
def nameAt (data : Bytes) (k : Nat) : Text := nameOf (footerRecord data k)

/-- The size of the payload of an entry. -/
def sizeAt (data : Bytes) (k : Nat) : Nat := sizeOf (footerRecord data k)

/-- Where the payload of an entry starts: behind the header and the payloads of all entries before
it. -/
def startAt (data : Bytes) (k : Nat) : Nat := 2 + ((List.range k).map (sizeAt data)).sum

/-- The payload of an entry. -/
def payloadAt (data : Bytes) (k : Nat) : Bytes := (data.drop (startAt data k)).take (sizeAt data k)

/-- Header, payloads and footer have room in the bytes. -/
structure HasRoom (data : Bytes) : Prop where
  /-- The header takes two bytes. -/
  header : 2 ≤ data.length
  /-- Header and footer do not overlap. -/
  footer : 2 + 18 * countIn data ≤ data.length
  /-- The payloads end before the footer. -/
  payloads : 2 + ((List.range (countIn data)).map (sizeAt data)).sum ≤
    data.length - 18 * countIn data

instance (data : Bytes) : Decidable (HasRoom data) :=
  decidable_of_iff (2 ≤ data.length ∧ 2 + 18 * countIn data ≤ data.length ∧
      2 + ((List.range (countIn data)).map (sizeAt data)).sum ≤ data.length - 18 * countIn data)
    ⟨fun ⟨hheader, hfooter, hpayloads⟩ => ⟨hheader, hfooter, hpayloads⟩,
      fun h => ⟨h.header, h.footer, h.payloads⟩⟩

/-- Payloads follow each other without a gap. -/
theorem startAt_succ (data : Bytes) (k : Nat) :
    startAt data (k + 1) = startAt data k + sizeAt data k := by
  rw [startAt, startAt, List.range_succ, List.map_append, List.sum_append, List.map_singleton,
    List.sum_singleton]
  omega

theorem two_le_startAt (data : Bytes) (k : Nat) : 2 ≤ startAt data k := by
  rw [startAt]
  omega

theorem startAt_mono (data : Bytes) {j k : Nat} (h : j ≤ k) : startAt data j ≤ startAt data k := by
  induction h with
  | refl => exact Nat.le_refl _
  | step _ ih =>
    rw [startAt_succ]
    omega

/-- A payload ends before any later one starts. -/
theorem stop_le_startAt (data : Bytes) {j k : Nat} (h : j < k) :
    startAt data j + sizeAt data j ≤ startAt data k := by
  rw [← startAt_succ]
  exact startAt_mono data h

theorem HasRoom.stop_le {data : Bytes} (h : HasRoom data) {k : Nat} (hk : k < countIn data) :
    startAt data k + sizeAt data k ≤ footerStart data :=
  Nat.le_trans (stop_le_startAt data hk) h.payloads

theorem HasRoom.length_payloadAt {data : Bytes} (h : HasRoom data) {k : Nat}
    (hk : k < countIn data) : (payloadAt data k).length = sizeAt data k := by
  have hstop := h.stop_le hk
  rw [footerStart] at hstop
  rw [payloadAt, List.length_take, List.length_drop]
  omega

/-! ## Reading the footer -/

theorem recordAt_drop (records : Bytes) (k : Nat) :
    recordAt (records.drop entrySize) k = recordAt records (k + 1) := by
  rw [recordAt, recordAt, List.drop_drop, entrySize, Nat.mul_succ, Nat.add_comm]

/-- The sizes of the first records of a footer. -/
def sizeSum (records : Bytes) (count : Nat) : Nat :=
  ((List.range count).map fun k => sizeOf (recordAt records k)).sum

theorem sizeSum_succ (records : Bytes) (count : Nat) :
    sizeSum records (count + 1) =
      sizeOf (recordAt records 0) + sizeSum (records.drop entrySize) count := by
  rw [sizeSum, sizeSum, List.range_succ_eq_map, List.map_cons, List.sum_cons, List.map_map]
  congr 3
  funext k
  exact congrArg sizeOf (recordAt_drop records k).symm

theorem stop_entryOf (offset : Nat) (records : Bytes) :
    (entryOf offset (records.take entrySize)).stop = offset + sizeOf (recordAt records 0) := rfl

/-- If the payloads have room, the footer is read, each entry with the start that the sizes before
it make. -/
theorem entriesFrom_of_le {label : Text} {stop : Nat} (count offset : Nat) (records : Bytes)
    (h : offset + sizeSum records count ≤ stop) :
    entriesFrom label stop count offset records =
      .ok ((List.range count).map fun k => entryOf (offset + sizeSum records k)
        (recordAt records k)) := by
  induction count generalizing offset records with
  | zero => rfl
  | succ count ih =>
    rw [sizeSum_succ, ← Nat.add_assoc] at h
    rw [entriesFrom, stop_entryOf]
    have hstop : ¬ stop < offset + sizeOf (recordAt records 0) := by omega
    simp only [if_neg hstop, ih _ _ h, ok_bind]
    rw [List.range_succ_eq_map, List.map_cons, List.map_map]
    refine congrArg Except.ok (congrArg₂ List.cons rfl (List.map_congr_left fun k _ => ?_))
    show entryOf (offset + sizeOf (recordAt records 0) + sizeSum (records.drop entrySize) k)
        (recordAt (records.drop entrySize) k) =
      entryOf (offset + sizeSum records (k + 1)) (recordAt records (k + 1))
    rw [sizeSum_succ, Nat.add_assoc, recordAt_drop]

theorem entriesFrom_of_lt {label : Text} {stop : Nat} (count offset : Nat) (records : Bytes)
    (hoffset : offset ≤ stop) (h : stop < offset + sizeSum records count) :
    Fails .malformedRecord (entriesFrom label stop count offset records) := by
  induction count generalizing offset records with
  | zero => exact absurd h (Nat.not_lt.mpr hoffset)
  | succ count ih =>
    rw [sizeSum_succ, ← Nat.add_assoc] at h
    rw [entriesFrom, stop_entryOf]
    by_cases hstop : stop < offset + sizeOf (recordAt records 0)
    · simp only [if_pos hstop]
      exact fails_error.mpr rfl
    · simp only [if_neg hstop]
      exact (ih _ _ (Nat.not_lt.mp hstop) h).bind _

/-! ## Opening a container -/

/-- The entry of a number. -/
def entryAt (data : Bytes) (k : Nat) : Entry := entryOf (startAt data k) (footerRecord data k)

theorem entryAt_name (data : Bytes) (k : Nat) : (entryAt data k).name = nameAt data k := rfl

/-- What is opened when bytes with room are. -/
def opened (data : Bytes) (label : Text) : Container :=
  ⟨data, label, (List.range (countIn data)).map (entryAt data)⟩

theorem ofBytes_eq (data : Bytes) (label : Text) :
    ofBytes data label =
      if data.length < 2 then .error (.containerTooShort label)
      else if data.length < 2 + 18 * countIn data then
        .error (.footerTooLong label (countIn data) data.length)
      else
        entriesFrom label (footerStart data) (countIn data) 2 (data.drop (footerStart data)) >>=
          fun footer => .ok ⟨data, label, footer⟩ := by
  rw [ofBytes]
  simp only [entrySize, Nat.mul_comm _ 18]
  rfl

theorem ofBytes_of_hasRoom {data : Bytes} {label : Text} (h : HasRoom data) :
    ofBytes data label = .ok (opened data label) := by
  have hpayloads : 2 + sizeSum (data.drop (footerStart data)) (countIn data) ≤ footerStart data :=
    h.payloads
  rw [ofBytes_eq, if_neg (Nat.not_lt.mpr h.header), if_neg (Nat.not_lt.mpr h.footer),
    entriesFrom_of_le _ _ _ hpayloads]
  rfl

theorem ofBytes_of_not_hasRoom {data : Bytes} {label : Text} (h : ¬ HasRoom data) :
    Fails .malformedRecord (ofBytes data label) := by
  rw [ofBytes_eq]
  split
  · exact fails_error.mpr rfl
  rename_i hheader
  split
  · exact fails_error.mpr rfl
  rename_i hfooter
  -- Header and footer have room, so the payloads must be what has not.
  have hpayloads : footerStart data <
      2 + sizeSum (data.drop (footerStart data)) (countIn data) :=
    Nat.lt_of_not_le fun hp => h ⟨Nat.not_lt.mp hheader, Nat.not_lt.mp hfooter, hp⟩
  have hstart : 2 ≤ footerStart data := by
    rw [footerStart]
    omega
  exact (entriesFrom_of_lt _ _ _ hstart hpayloads).bind _

theorem opened_names (data : Bytes) (label : Text) :
    (opened data label).names =
      ((List.range (countIn data)).filter fun k => ∀ j < k, nameAt data j ≠ nameAt data k).map
        (nameAt data) := by
  rw [names, entries, opened, Keyed.map_firsts, List.map_map, ← Keyed.eraseDups_map_range]
  rfl

/-- Under a name the payload of the first entry with it is found. -/
theorem opened_find?_of_first {data : Bytes} {label : Text} {k : Nat} (hk : k < countIn data)
    (hfirst : ∀ j < k, nameAt data j ≠ nameAt data k) :
    (opened data label).find? (nameAt data k) = some (payloadAt data k) := by
  have hentry : (List.range (countIn data)).find? (fun j => nameAt data j == nameAt data k) =
      some k := by
    rw [List.find?_range_eq_some]
    exact ⟨beq_self_eq_true _, List.mem_range.mpr hk, fun j hj => by simpa using hfirst j hj⟩
  rw [find?, opened, List.find?_map]
  show (((List.range (countIn data)).find? fun j => nameAt data j == nameAt data k).map
    (entryAt data)).map _ = _
  rw [hentry]
  rfl

/-- Under a name that no entry has, nothing is found. -/
theorem opened_find?_of_absent {data : Bytes} {label name : Text}
    (h : ∀ k < countIn data, nameAt data k ≠ name) : (opened data label).find? name = none := by
  rw [find?, Option.map_eq_none_iff, List.find?_eq_none]
  intro e he
  obtain ⟨k, hk, rfl⟩ := List.mem_map.mp he
  rw [entryAt_name, beq_iff_eq]
  exact h k (List.mem_range.mp hk)

/-! ## The layout -/

theorem read_container (tree : FileTree) (name : Text) (c : Container) :
    (Archive.container c).read tree .exact name =
      match c.find? name with
      | some data => (.ok data, .container c)
      | none => (.error (.resourceNotFound name c.label), .container c) := by
  show Archive.readPlain tree .exact name (.container c) = _
  rw [Archive.readPlain]
  simp only [Archive.stored?, Option.getD_some]
  cases c.find? name with
  | some data => rfl
  | none => rfl

/-- Bytes are opened as a container iff header, payloads and footer have room in them, and refused
as malformed otherwise. The names are those of the entries, each once, in the order in which they
come first; under a name the payload of the first entry with it is read, which starts where all
payloads before it end, those of repeated names included. No payload overlaps header, footer or
another payload. -/
theorem ofBytes_layout (data : Bytes) (label : Text) :
    ((∃ c, ofBytes data label = .ok c) ↔ HasRoom data) ∧
    (Fails .malformedRecord (ofBytes data label) ↔ ¬ HasRoom data) ∧
    ∀ (c : Container) (tree : FileTree), ofBytes data label = .ok c →
      (Archive.container c).names tree =
        .ok (((List.range (countIn data)).filter fun k =>
          ∀ j < k, nameAt data j ≠ nameAt data k).map (nameAt data)) ∧
      (∀ k < countIn data, (∀ j < k, nameAt data j ≠ nameAt data k) →
        (Archive.container c).read tree .exact (nameAt data k) =
          (.ok (payloadAt data k), .container c)) ∧
      (∀ name, (∀ k < countIn data, nameAt data k ≠ name) →
        Fails .resourceNotFound ((Archive.container c).read tree .exact name).1) ∧
      ∀ k < countIn data,
        (payloadAt data k).length = sizeAt data k ∧
        2 ≤ startAt data k ∧ startAt data k + sizeAt data k ≤ footerStart data ∧
        ∀ j < k, startAt data j + sizeAt data j ≤ startAt data k := by
  by_cases h : HasRoom data
  · have hopen : ofBytes data label = .ok (opened data label) := ofBytes_of_hasRoom h
    refine ⟨iff_of_true ⟨_, hopen⟩ h, ?_, ?_⟩
    · rw [hopen]
      exact iff_of_false not_fails_ok (not_not_intro h)
    · intro c tree hc
      obtain rfl : opened data label = c := Except.ok.inj (hopen.symm.trans hc)
      refine ⟨?_, ?_, ?_, ?_⟩
      · show Except.ok (opened data label).names = _
        rw [opened_names]
      · intro k hk hfirst
        rw [read_container, opened_find?_of_first hk hfirst]
      · intro name habsent
        rw [read_container, opened_find?_of_absent habsent]
        exact fails_error.mpr rfl
      · intro k hk
        exact ⟨h.length_payloadAt hk, two_le_startAt data k, h.stop_le hk,
          fun j hj => stop_le_startAt data hj⟩
  · have hfail : Fails .malformedRecord (ofBytes data label) := ofBytes_of_not_hasRoom h
    refine ⟨iff_of_false ?_ h, iff_of_true hfail h, ?_⟩
    · rintro ⟨c, hc⟩
      exact hfail.ne_ok c hc
    · intro c tree hc
      exact absurd hc (hfail.ne_ok c)

/-- A container with an entry under a name of 12 characters, another one under the same name and a
third one, and a byte of no use before its footer. -/
def repeatedNames : Bytes :=
  [3, 0] ++ [0x78, 0x79, 0x7A, 0x77] ++ [0xFF] ++
    (List.replicate 12 0x41 ++ [0, 0, 1, 0, 0, 0]) ++
    (List.replicate 12 0x41 ++ [0, 0, 1, 0, 0, 0]) ++
    (0x42 :: List.replicate 11 0 ++ [0, 0, 2, 0, 0, 0])

/-- The payload of a repeated name is passed over, but it takes its place. -/
theorem read_repeatedNames :
    ∃ c, ofBytes repeatedNames defaultLabel = .ok c ∧
      (Archive.container c).names (.empty []) = .ok [List.replicate 12 'A', ['B']] ∧
      (Archive.container c).read (.empty []) .exact (List.replicate 12 'A') =
        (.ok [0x78], .container c) ∧
      (Archive.container c).read (.empty []) .exact ['B'] =
        (.ok [0x7A, 0x77], .container c) := by
  obtain ⟨hopen, -, hlayout⟩ := ofBytes_layout repeatedNames defaultLabel
  obtain ⟨c, hc⟩ := hopen.mpr (by decide)
  obtain ⟨hnames, hread, -, -⟩ := hlayout c (.empty []) hc
  exact ⟨c, hc, hnames.trans rfl, hread 0 (by decide) (by decide), hread 2 (by decide) (by decide)⟩

end ArenaData.Container
