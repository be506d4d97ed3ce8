import ArenaData.Proofs.DecodedShapes
import Mathlib.Data.List.Range

/-!
# Dialogue by position

A block of strings has no structure but its order, so which line a string is comes from its place
alone. The places of a block are an arithmetic progression: cutting a list into triples makes the
places of the triples one with step 3, and cutting those into fives one with step 15. What a file
holds is therefore written down without any reading, as a function of its strings.
-/

namespace ArenaData

/-! ## The strings of a file -/

/-- The string in place `k`, counted from 0; empty if there are not so many. -/
def Bytes.stringAt (data : Bytes) (k : Nat) : Text := latin1 (data.strings[k]?.getD [])

/-- Behind `k` strings with their zero bytes, the string in place `k` goes on to the next one. -/
theorem Bytes.stringAt_ended_append {front : List Bytes} (hfront : ∀ t ∈ front, 0 ∉ t) {s : Bytes}
    (hs : 0 ∉ s) (rest : Bytes) :
    (ended front ++ (s ++ 0 :: rest)).stringAt front.length = latin1 s := by
  rw [stringAt, strings_ended_append hfront, strings_append_zero hs,
    List.getElem?_append_right (Nat.le_refl _), Nat.sub_self, List.getElem?_cons_zero,
    Option.getD_some]

theorem Bytes.map_latin1_take_strings {data : Bytes} {count : Nat} (h : count ≤ data.count 0) :
    (data.strings.take count).map latin1 = (List.range' 0 count).map data.stringAt := by
  have hlength : count ≤ data.strings.length := by rwa [length_strings]
  apply List.ext_getElem
  · simp only [List.length_map, List.length_take, List.length_range']
    omega
  · intro k hk _
    have hlt : k < data.strings.length := by
      rw [List.length_map, List.length_take] at hk
      omega
    simp [stringAt, List.getElem?_eq_getElem hlt]

theorem Bytes.take_strings_append {front : Bytes} {count : Nat} (h : count ≤ front.count 0)
    (rest : Bytes) : (front ++ rest).strings.take count = front.strings.take count := by
  obtain ⟨tail, -, hback⟩ := exists_ended_strings_append front
  have hzeroFree : ∀ s ∈ front.strings, 0 ∉ s := fun s hs => zero_notMem_of_mem_strings hs
  have hstrings : (front ++ rest).strings = front.strings ++ (tail ++ rest).strings := by
    have hcut := strings_ended_append hzeroFree (tail ++ rest)
    rwa [← List.append_assoc, hback] at hcut
  rw [hstrings, List.take_append_of_le_length (by rwa [length_strings])]

/-! ## Filling by place -/

/-- The decoder uses the first `count` strings of a file, each by its place alone: it puts them into
its result, finds the file malformed if there are fewer, and passes over what is behind them. -/
structure StringBlock.FillsByPlace {α : Type} (decode : Bytes → Text → Except Fault α)
    (count : Nat) (fill : (Nat → Text) → α) : Prop where
  /-- Just the files with so many zero bytes are decoded. -/
  eq_ok_iff : ∀ data source result,
    decode data source = .ok result ↔ count ≤ data.count 0 ∧ fill data.stringAt = result
  /-- All others are malformed. -/
  fails_iff : ∀ data source, Fails .malformedRecord (decode data source) ↔ data.count 0 < count
  /-- The bytes behind a part with so many zero bytes do not matter. -/
  decode_append : ∀ front rest source, count ≤ front.count 0 →
    decode (front ++ rest) source = decode front source

theorem StringBlock.fillsByPlace_of_read {α : Type} {decode : Bytes → Text → Except Fault α}
    {count : Nat} {cut : List Text → α} {fill : (Nat → Text) → α}
    (hdecode : ∀ data source, decode data source = read source count data >>= fun strings =>
      pure (cut strings))
    (hcut : ∀ s : Nat → Text, cut ((List.range' 0 count).map s) = fill s) :
    FillsByPlace decode count fill := by
  have hok (data : Bytes) (source : Text) (result : α) : decode data source = .ok result ↔
      count ≤ data.count 0 ∧ fill data.stringAt = result := by
    rw [hdecode, bind_eq_ok]
    constructor
    · rintro ⟨texts, hread, hresult⟩
      obtain ⟨hcount, rfl⟩ := readFrom_eq_ok_iff.mp hread
      rw [Bytes.map_latin1_take_strings hcount, hcut] at hresult
      exact ⟨hcount, Except.ok.inj hresult⟩
    · rintro ⟨hcount, rfl⟩
      refine ⟨_, readFrom_of_le 0 hcount, ?_⟩
      rw [Bytes.map_latin1_take_strings hcount, hcut]
      rfl
  constructor
  · exact hok
  · intro data source
    have hfaults : FailsOnly Fault.Malformed (decode data source) := by
      rw [hdecode]
      exact (readFrom_faults _ _ _ _).bind fun _ _ => failsOnly_ok _
    have hexists : (∃ result, decode data source = .ok result) ↔ count ≤ data.count 0 := by
      constructor
      · rintro ⟨result, hresult⟩
        exact ((hok data source result).mp hresult).1
      · intro hcount
        exact ⟨_, (hok data source _).mpr ⟨hcount, rfl⟩⟩
    exact hfaults.fails_iff.trans (hexists.not.trans Nat.not_le)
  · intro front rest source hcount
    have hlong : count ≤ (front ++ rest).count 0 := by
      rw [List.count_append]
      omega
    have hread : read source count (front ++ rest) = read source count front := by
      rw [read, read, readFrom_of_le 0 hlong, readFrom_of_le 0 hcount,
        Bytes.take_strings_append hcount]
    rw [hdecode, hdecode, hread]

/-! ## Places in steps -/

/-- The three variants that start in place `k`. -/
def Variants.startingAt (s : Nat → Text) (k : Nat) : Variants := ⟨s k, s (k + 1), s (k + 2)⟩

theorem Triple.ofList_map_range' (s : Nat → Text) (k n : Nat) :
    ofList ((List.range' k (3 * n)).map s) = (List.range' k n 3).map (Variants.startingAt s) := by
  induction n generalizing k with
  | zero => rfl
  | succ n ih =>
    show _ :: ofList ((List.range' (k + 3) (3 * n)).map s) = _
    rw [ih]
    rfl

theorem TradeTalk.ofLines_map_range' (line : Nat → Variants) (k n : Nat) :
    ofLines ((List.range' k (5 * n) 3).map line) =
      (List.range' k n 15).map fun j => (List.range' j 5 3).map line := by
  induction n generalizing k with
  | zero => rfl
  | succ n ih =>
    show _ :: ofLines ((List.range' (k + 15) (5 * n) 3).map line) = _
    rw [ih]
    rfl

theorem ArtifactTalk.toList_injective : Function.Injective toList := by
  intro t u h
  cases t
  cases u
  simpa [toList] using h

theorem ArtifactTalk.ofList_map_range' (line : Nat → Variants) (k n : Nat) :
    ofList ((List.range' k (5 * n) 3).map line) = (List.range' k n 15).map fun j =>
      ⟨line j, line (j + 3), line (j + 6), line (j + 9), line (j + 12)⟩ := by
  apply List.map_injective_iff.mpr toList_injective
  rw [map_toList_ofList, TradeTalk.ofLines_map_range', List.map_map]
  rfl

/-- The exchanges of a tavern: 15 strings each, three for every line. -/
def ArtifactTalk.ofPlaces (s : Nat → Text) : List ArtifactTalk :=
  (List.range 16).map fun block =>
    { greetings := Variants.startingAt s (15 * block)
      barterSuccess := Variants.startingAt s (15 * block + 3)
      offerRefused := Variants.startingAt s (15 * block + 6)
      barterFailure := Variants.startingAt s (15 * block + 9)
      counterOffer := Variants.startingAt s (15 * block + 12) }

/-- The lines of the shopkeepers: 15 strings for every function, three for every personality. -/
def TradeTalk.ofPlaces (s : Nat → Text) : TradeTalk :=
  (List.range 15).map fun function => (List.range 5).map fun personality =>
    Variants.startingAt s (15 * function + 3 * personality)

theorem ArtifactTalk.ofList_strings (s : Nat → Text) :
    ofList (Triple.ofList ((List.range' 0 stringCount).map s)) = ofPlaces s := by
  show ofList (Triple.ofList ((List.range' 0 (3 * (5 * 16))).map s)) = _
  rw [Triple.ofList_map_range', ofList_map_range']
  rfl

theorem TradeTalk.ofLines_strings (s : Nat → Text) :
    ofLines (Triple.ofList ((List.range' 0 stringCount).map s)) = ofPlaces s := by
  show ofLines (Triple.ofList ((List.range' 0 (3 * (5 * 15))).map s)) = _
  rw [Triple.ofList_map_range', ofLines_map_range']
  rfl

/-- The talk in taverns is decoded from just the files with 240 zero bytes and the talk in shops
from those with 225, and each line has its strings from the places that belong to it. -/
theorem dialogue_fillsByPlace :
    StringBlock.FillsByPlace ArtifactTalk.decode 240 ArtifactTalk.ofPlaces ∧
      StringBlock.FillsByPlace TradeTalk.decode 225 TradeTalk.ofPlaces := by
  constructor
  · exact StringBlock.fillsByPlace_of_read (fun _ _ => rfl) ArtifactTalk.ofList_strings
  · exact StringBlock.fillsByPlace_of_read (fun _ _ => rfl) TradeTalk.ofLines_strings

end ArenaData
