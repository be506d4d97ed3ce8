import ArenaData.Proofs.DecodedShapes
import Mathlib.Data.List.Flatten

/-!
# The masks in their file

The masks take up one window of their file: put together in order, their data is the window. So a
file is read iff it goes on to the end of the window, two files have the same masks iff they have
the same window, and every byte of the window belongs to exactly one mask. Which region a mask has,
and whether it is the exit, does not depend on the file, and neither does the size of its data.
-/

namespace ArenaData

/-! ## Pieces of a list -/

/-- Where one element of a list changes, exactly one of its pieces does. -/
theorem existsUnique_piece_ne {α : Type} {pieces pieces' : List (List α)} {place : Nat} {a : α}
    (hlengths : pieces'.map List.length = pieces.map List.length)
    (hset : pieces'.flatten = pieces.flatten.set place a) (hplace : place < pieces.flatten.length)
    (ha : pieces.flatten[place]? ≠ some a) : ∃! i : Nat, pieces'[i]? ≠ pieces[i]? := by
  induction pieces generalizing pieces' place with
  | nil => exact absurd hplace (Nat.not_lt_zero place)
  | cons piece pieces ih =>
    obtain ⟨piece', pieces', rfl⟩ : ∃ piece' rest, pieces' = piece' :: rest := by
      cases pieces' with
      | nil => cases hlengths
      | cons piece' rest => exact ⟨piece', rest, rfl⟩
    have hlength : piece'.length = piece.length := (List.cons.inj hlengths).1
    have hothers : pieces'.map List.length = pieces.map List.length := (List.cons.inj hlengths).2
    rw [List.flatten_cons] at ha hplace
    rw [List.flatten_cons, List.flatten_cons] at hset
    -- The changed element is in the first piece, or the others have it.
    by_cases hfirst : place < piece.length
    · rw [List.set_append_left _ _ hfirst] at hset
      have hlengthSet : piece'.length = (piece.set place a).length := by
        rw [List.length_set, hlength]
      obtain ⟨hpiece, hrest⟩ := List.append_inj hset hlengthSet
      have hsame : pieces' = pieces := List.eq_iff_flatten_eq.mpr ⟨hrest, hothers⟩
      rw [List.getElem?_append_left hfirst] at ha
      refine ⟨0, ?_, ?_⟩
      · intro heq
        have hkept : piece' = piece := Option.some.inj heq
        rw [← hkept, hpiece, List.getElem?_set_self hfirst] at ha
        exact ha rfl
      · intro i hi
        cases i with
        | zero => rfl
        | succ i => exact absurd (congrArg (·[i]?) hsame) hi
    · have hbehind : piece.length ≤ place := Nat.not_lt.mp hfirst
      rw [List.set_append_right _ _ hbehind] at hset
      obtain ⟨hpiece, hrest⟩ := List.append_inj hset hlength
      rw [List.getElem?_append_right hbehind] at ha
      rw [List.length_append] at hplace
      obtain ⟨i, hi, hunique⟩ := ih hothers hrest (by omega) ha
      refine ⟨i + 1, hi, ?_⟩
      intro j hj
      cases j with
      | zero => exact absurd (congrArg some hpiece) hj
      | succ j => exact congrArg (· + 1) (hunique j hj)

namespace Mask

variable {data data' : Bytes} {source source' : Text} {masks masks' : List Mask}

/-! ## Masks of the same regions -/

/-- What a mask has besides its data. -/
def frame (m : Mask) : Rect × Bool := (m.rect, m.isExit)

theorem eq_of_frame_eq {m m' : Mask} (hframe : m.frame = m'.frame) (hdata : m.data = m'.data) :
    m = m' := by
  cases m
  cases m'
  obtain ⟨rfl, rfl⟩ := Prod.mk.inj hframe
  obtain rfl := hdata
  rfl

theorem getElem?_eq_iff (hframes : masks.map frame = masks'.map frame) (i : Nat) :
    masks[i]? = masks'[i]? ↔ (masks.map Mask.data)[i]? = (masks'.map Mask.data)[i]? := by
  have hframe := congrArg (·[i]?) hframes
  simp only [List.getElem?_map] at hframe ⊢
  cases hm : masks[i]? with
  | none =>
    cases hm' : masks'[i]? with
    | none => simp
    | some m' => simp
  | some m =>
    cases hm' : masks'[i]? with
    | none => simp
    | some m' =>
      rw [hm, hm'] at hframe
      have hframe : m.frame = m'.frame := Option.some.inj hframe
      simp only [Option.map_some, Option.some.injEq]
      exact ⟨congrArg Mask.data, eq_of_frame_eq hframe⟩

theorem eq_iff_map_data_eq (hframes : masks.map frame = masks'.map frame) :
    masks = masks' ↔ masks.map Mask.data = masks'.map Mask.data := by
  constructor
  · intro h
    rw [h]
  · intro h
    apply List.ext_getElem?
    intro i
    rw [getElem?_eq_iff hframes, h]

/-- Masks of the same regions are equally large. -/
theorem map_length_data_eq (hframes : masks.map frame = masks'.map frame) :
    (masks.map Mask.data).map List.length = (masks'.map Mask.data).map List.length := by
  have hsizes (masks : List Mask) : (masks.map Mask.data).map List.length =
      (masks.map frame).map fun f => (maskSize f.1).toNat := by
    rw [List.map_map, List.map_map]
    apply List.map_congr_left
    intro m _
    have hsize := m.size_eq
    show m.data.length = (maskSize m.rect).toNat
    omega
  rw [hsizes, hsizes, hframes]

/-! ## The window -/

/-- The part of a file that the masks take up. -/
def window (data : Bytes) : Bytes := (data.drop dataOffset).take totalSize

theorem length_window (h : dataOffset + totalSize ≤ data.length) :
    (window data).length = totalSize := by
  rw [window, List.length_take, List.length_drop]
  omega

theorem window_set {place : Nat} (hplace : dataOffset ≤ place) (b : UInt8) :
    window (data.set place b) = (window data).set (place - dataOffset) b := by
  rw [window, window, List.drop_set, if_neg (by omega), List.take_set]

/-- Masks that have been read lie one after the other from the offset on. If there are any, the file
goes on to the end of the last one. -/
theorem flatten_of_decodeFrom {offset : Nat} {regions : List (Rect × Nat)}
    (hsizes : ∀ region ∈ regions, 0 ≤ maskSize region.1)
    (h : decodeFrom data source offset regions = .ok masks) :
    let size := (regions.map fun region => (maskSize region.1).toNat).sum
    offset + size ≤ max offset data.length ∧
      (masks.map Mask.data).flatten = (data.drop offset).take size := by
  induction regions generalizing offset masks with
  | nil =>
    obtain rfl := Except.ok.inj h
    exact ⟨Nat.le_max_left _ _, rfl⟩
  | cons region regions ih =>
    obtain ⟨hsize, hsizes⟩ := List.forall_mem_cons.mp hsizes
    obtain ⟨bytes, hread, h⟩ := bind_eq_ok.mp h
    obtain ⟨mask, hmask, h⟩ := bind_eq_ok.mp h
    obtain ⟨others, hothers, h⟩ := bind_eq_ok.mp h
    obtain rfl := Except.ok.inj h
    have hcast : maskSize region.1 = ((maskSize region.1).toNat : Int) := by omega
    rw [hcast] at hread
    rw [hcast, ← Int.natCast_add] at hothers
    obtain ⟨hle, hbytes⟩ := Bytes.read_eq_ok_iff.mp hread
    obtain ⟨hrest, hflatten⟩ := ih hsizes hothers
    have hdata : mask.data = bytes := by
      rw [ofData] at hmask
      split at hmask
      · rw [← Except.ok.inj hmask]
      · cases hmask
    intro size
    have hsum : size = (maskSize region.1).toNat +
        (regions.map fun region => (maskSize region.1).toNat).sum := List.sum_cons
    constructor
    · omega
    · rw [List.map_cons, List.flatten_cons, hdata, ← hbytes, hflatten, hsum, List.take_add,
        List.drop_drop]

theorem flatten_of_decodeAll (h : decodeAll data source = .ok masks) :
    dataOffset + totalSize ≤ data.length ∧ (masks.map Mask.data).flatten = window data := by
  have hsizes : ∀ region ∈ regions.zipIdx, 0 ≤ maskSize region.1 := by decide
  have hsum : (regions.zipIdx.map fun region => (maskSize region.1).toNat).sum = totalSize := by
    decide
  have htotal : 0 < totalSize := by decide
  obtain ⟨hlong, hflatten⟩ := flatten_of_decodeFrom hsizes h
  rw [hsum] at hlong hflatten
  exact ⟨by omega, hflatten⟩

theorem exists_decodeAll_iff :
    (∃ masks, decodeAll data source = .ok masks) ↔ dataOffset + totalSize ≤ data.length := by
  constructor
  · rintro ⟨masks, h⟩
    exact (flatten_of_decodeAll h).1
  · exact exists_decodeAll source

theorem map_frame_of_decodeAll (h : decodeAll data source = .ok masks)
    (h' : decodeAll data' source' = .ok masks') : masks.map frame = masks'.map frame :=
  (map_of_decodeFrom h).trans (map_of_decodeFrom h').symm

theorem eq_iff_window_eq (h : decodeAll data source = .ok masks)
    (h' : decodeAll data' source' = .ok masks') : masks = masks' ↔ window data = window data' := by
  have hframes := map_frame_of_decodeAll h h'
  rw [eq_iff_map_data_eq hframes, ← (flatten_of_decodeAll h).2, ← (flatten_of_decodeAll h').2]
  constructor
  · intro hdata
    rw [hdata]
  · intro hflatten
    exact List.eq_iff_flatten_eq.mpr ⟨hflatten, map_length_data_eq hframes⟩

/-- A file is read as masks iff it goes on to the end of their window, and else it is malformed. The
masks have the regions in order, and their data, put together, is the window. Hence two files have
the same masks iff they have the same window, and a change of one byte in the window changes exactly
one mask. -/
theorem decodeAll_tiles (data : Bytes) (source : Text) :
    ((∃ masks, decodeAll data source = .ok masks) ↔ dataOffset + totalSize ≤ data.length) ∧
    (Fails .malformedRecord (decodeAll data source) ↔ data.length < dataOffset + totalSize) ∧
    ∀ masks, decodeAll data source = .ok masks →
      masks.map Mask.rect = regions ∧ (masks.map Mask.data).flatten = window data ∧
      (∀ data' source' masks', decodeAll data' source' = .ok masks' →
        (masks = masks' ↔ window data = window data')) ∧
      ∀ place b, dataOffset ≤ place → place < dataOffset + totalSize → data[place]? ≠ some b →
        ∃ masks', decodeAll (data.set place b) source = .ok masks' ∧
          ∃! i : Nat, masks'[i]? ≠ masks[i]? := by
  refine ⟨exists_decodeAll_iff, ?_, ?_⟩
  · have hfails := (decodeAll_faults data source).fails_iff
    exact hfails.trans (exists_decodeAll_iff.not.trans Nat.not_le)
  intro masks h
  obtain ⟨hlong, hflatten⟩ := flatten_of_decodeAll h
  refine ⟨rects_of_decodeAll h, hflatten, fun _ _ _ h' => eq_iff_window_eq h h', ?_⟩
  intro place b hlow hhigh hb
  have hlong' : dataOffset + totalSize ≤ (data.set place b).length := by rwa [List.length_set]
  obtain ⟨masks', h'⟩ := exists_decodeAll_iff.mpr hlong'
  have hframes := map_frame_of_decodeAll h' h
  have hset : (masks'.map Mask.data).flatten =
      (masks.map Mask.data).flatten.set (place - dataOffset) b := by
    rw [hflatten, (flatten_of_decodeAll h').2, window_set hlow]
  have hplace : place - dataOffset < (masks.map Mask.data).flatten.length := by
    rw [hflatten, length_window hlong]
    omega
  have hne : (masks.map Mask.data).flatten[place - dataOffset]? ≠ some b := by
    have hback : dataOffset + (place - dataOffset) = place := by omega
    rwa [hflatten, window, List.getElem?_take_of_lt (by omega), List.getElem?_drop, hback]
  obtain ⟨i, hi, hunique⟩ := existsUnique_piece_ne (map_length_data_eq hframes) hset hplace hne
  refine ⟨masks', h', i, fun hsame => hi ((getElem?_eq_iff hframes i).mp hsame), ?_⟩
  intro j hj
  exact hunique j fun hsame => hj ((getElem?_eq_iff hframes j).mpr hsame)

/-- A file of zeros with nothing behind the window, and its first byte of the second mask changed.
-/
theorem decodeAll_tiles_of_zeros :
    let zeros : Bytes := List.replicate (dataOffset + totalSize) 0
    let place := dataOffset + 627
    (dataOffset ≤ place ∧ place < dataOffset + totalSize ∧ zeros[place]? ≠ some 1) ∧
    ∃ masks masks', decodeAll zeros [] = .ok masks ∧
      decodeAll (zeros.set place 1) [] = .ok masks' ∧ masks ≠ masks' ∧
      ∃! i : Nat, masks'[i]? ≠ masks[i]? := by
  intro zeros place
  have hlow : dataOffset ≤ place := by decide
  have hhigh : place < dataOffset + totalSize := by decide
  have hne : zeros[place]? ≠ some 1 := by
    rw [List.getElem?_replicate, if_pos hhigh]
    decide
  obtain ⟨hread, -, htiles⟩ := decodeAll_tiles zeros []
  obtain ⟨masks, h⟩ := hread.mpr (by rw [List.length_replicate])
  obtain ⟨-, -, -, hchange⟩ := htiles masks h
  obtain ⟨masks', h', i, hi, hunique⟩ := hchange place 1 hlow hhigh hne
  refine ⟨⟨hlow, hhigh, hne⟩, masks, masks', h, h', ?_, i, hi, hunique⟩
  intro hsame
  exact hi (by rw [hsame])

end Mask

end ArenaData
