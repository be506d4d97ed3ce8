import ArenaData.WorldMap.Terrain
import Mathlib.Algebra.Order.Ring.Int
import Mathlib.Data.List.Range

/-!
# The search for land

The terrain near a pixel is the first land in a list of places: the pixel's own place, and then, for
each distance up to 199, the places that many rows below and above it and that many pixels behind
and before it. Places are counted through the rows and go around at the end of the map, so a pixel
and its search are given by one number. The rows that are searched make up the whole column of the
place: two places of one column lie less than 200 rows apart, and every difference of fewer rows is
tried in both directions.
-/

namespace ArenaData.Terrain

variable (t : Terrain) {i j x y : Int}

/-! ## Places -/

/-- Where the search for a pixel starts. -/
def origin (x y : Int) : Int := (x + 320 * y - 12) % 64000

theorem toNat_emod_lt (i : Int) : (i % 64000).toNat < t.cells.size := by
  have hsize : t.cells.size = 64000 := t.size_eq
  omega

/-- The terrain at a place, counted through the rows of the map and around its end. -/
def cellAt (i : Int) : UInt8 :=
  have hlt := t.toNat_emod_lt i
  t.cells[(i % 64000).toNat]

/-- The places at a distance from another one. -/
def ring (i : Int) (distance : Nat) : List Int :=
  [i + 320 * distance, i - 320 * distance, i + distance, i - distance]

/-- The places that are searched, in their order. -/
def searched (i : Int) : List Int := i :: (List.range' 1 199).flatMap (ring i)

/-- The first land of the search. -/
def firstLand? (i : Int) : Option UInt8 := ((searched i).map t.cellAt).find? (· != sea)

theorem cellAt_congr (h : i % 64000 = j % 64000) : t.cellAt i = t.cellAt j := by
  simp only [cellAt, h]

theorem shiftedAt_eq (x y : Int) : t.shiftedAt x y = t.cellAt (x + 320 * y - 12) := by
  have hplace : place x y = ((x + 320 * y - 12) % 64000).toNat := by
    rw [place, Int.mul_comm 320 y]
    rfl
  have hlt : place x y < t.cells.size := by
    rw [hplace]
    exact t.toNat_emod_lt _
  rw [shiftedAt, Array.getElem?_eq_getElem hlt, Option.getD_some]
  simp only [hplace, cellAt]

/-- Going around once more leads to the same place. -/
theorem shiftedAt_eq_cellAt (h : i % 64000 = (x + 320 * y - 12) % 64000) :
    t.shiftedAt x y = t.cellAt i := by
  rw [shiftedAt_eq]
  exact t.cellAt_congr h.symm

theorem around_eq (x y : Int) (distance : Nat) :
    t.around x y distance = (ring (origin x y) distance).map t.cellAt := by
  have hbelow : t.shiftedAt x (y + distance) = t.cellAt (origin x y + 320 * distance) :=
    t.shiftedAt_eq_cellAt (by rw [origin]; omega)
  have habove : t.shiftedAt x (y - distance) = t.cellAt (origin x y - 320 * distance) :=
    t.shiftedAt_eq_cellAt (by rw [origin]; omega)
  have hright : t.shiftedAt (x + distance) y = t.cellAt (origin x y + distance) :=
    t.shiftedAt_eq_cellAt (by rw [origin]; omega)
  have hleft : t.shiftedAt (x - distance) y = t.cellAt (origin x y - distance) :=
    t.shiftedAt_eq_cellAt (by rw [origin]; omega)
  rw [around, hbelow, habove, hright, hleft]
  rfl

/-! ## The search -/

theorem findLand_eq (x y : Int) (steps distance : Nat) :
    t.findLand x y steps distance =
      (((List.range' distance steps).flatMap (ring (origin x y))).map t.cellAt).find?
        (· != sea) := by
  induction steps generalizing distance with
  | zero => rfl
  | succ steps ih =>
    rw [findLand, around_eq, List.range'_succ, List.flatMap_cons, List.map_append,
      List.find?_append, ih]
    cases ((ring (origin x y) distance).map t.cellAt).find? (· != sea) with
    | none => rfl
    | some land => rfl

theorem failSafeAt_eq (x y : Int) :
    t.failSafeAt x y = (t.firstLand? (origin x y)).getD lastResort := by
  have hhere : t.shiftedAt x y = t.cellAt (origin x y) :=
    t.shiftedAt_eq_cellAt (by rw [origin]; omega)
  have hland := t.findLand_eq x y 199 1
  rw [failSafeAt, firstLand?, searched, List.map_cons, List.find?_cons, hhere]
  cases h : t.cellAt (origin x y) != sea with
  | true => rfl
  | false =>
    simp only [Bool.false_eq_true, if_false]
    rw [← hland]
    rfl

theorem ne_sea_of_firstLand? {land : UInt8} (h : t.firstLand? i = some land) : land ≠ sea := by
  have hfound := List.find?_some h
  exact bne_iff_ne.mp hfound

/-! ## What the search covers -/

/-- Up and down the column and along the row the search goes by 199 steps. -/
theorem mem_searched : j ∈ searched i ↔
    ∃ k : Int, -199 ≤ k ∧ k ≤ 199 ∧ (j = i + 320 * k ∨ j = i + k) := by
  have hrange (d : Nat) : d ∈ List.range' 1 199 ↔ 1 ≤ d ∧ d ≤ 199 := by
    rw [List.mem_range'_1]
    omega
  have hmem : j ∈ searched i ↔ j = i ∨ ∃ d : Nat, 1 ≤ d ∧ d ≤ 199 ∧
      (j = i + 320 * d ∨ j = i - 320 * d ∨ j = i + d ∨ j = i - d) := by
    simp only [searched, ring, List.mem_cons, List.mem_flatMap, hrange, List.not_mem_nil, or_false,
      and_assoc]
  rw [hmem]
  constructor
  · rintro (rfl | ⟨d, hd, hd', rfl | rfl | rfl | rfl⟩)
    · exact ⟨0, by omega, by omega, by omega⟩
    · exact ⟨d, by omega, by omega, by omega⟩
    · exact ⟨-d, by omega, by omega, by omega⟩
    · exact ⟨d, by omega, by omega, by omega⟩
    · exact ⟨-d, by omega, by omega, by omega⟩
  · rintro ⟨k, hlow, hhigh, hj⟩
    rcases lt_trichotomy k 0 with hneg | rfl | hpos
    · exact Or.inr ⟨(-k).toNat, by omega, by omega, by omega⟩
    · exact Or.inl (by omega)
    · exact Or.inr ⟨k.toNat, by omega, by omega, by omega⟩

/-- The pixel lies in the column of a place, or before or behind it within the distance that is
searched. -/
def Reaches (i : Int) (p : Nat) : Prop :=
  (p : Int) % 320 = i % 320 ∨ ∃ d : Int, -199 ≤ d ∧ d ≤ 199 ∧ (i + d) % 64000 = p

/-- The places that are searched are the pixels that are reached. -/
theorem exists_searched_iff {p : Nat} (hi : 0 ≤ i ∧ i < 64000) (hp : p < 64000) :
    (∃ j ∈ searched i, j % 64000 = p) ↔ Reaches i p := by
  constructor
  · rintro ⟨j, hj, hjp⟩
    obtain ⟨k, hlow, hhigh, rfl | rfl⟩ := mem_searched.mp hj
    · exact Or.inl (by omega)
    · exact Or.inr ⟨k, hlow, hhigh, hjp⟩
  · rintro (hcolumn | ⟨d, hlow, hhigh, hdp⟩)
    · -- The pixel is `k` rows from the place, and there are only 200 rows.
      obtain ⟨k, hk⟩ : ∃ k : Int, (p : Int) = i + 320 * k := ⟨(p - i) / 320, by omega⟩
      have hmem : i + 320 * k ∈ searched i :=
        mem_searched.mpr ⟨k, by omega, by omega, Or.inl rfl⟩
      exact ⟨i + 320 * k, hmem, by omega⟩
    · exact ⟨i + d, mem_searched.mpr ⟨d, hlow, hhigh, Or.inr rfl⟩, hdp⟩

/-- No land is found iff all that is reached is sea. -/
theorem firstLand?_eq_none_iff (hi : 0 ≤ i ∧ i < 64000) :
    t.firstLand? i = none ↔
      ∀ (p : Nat) (h : p < t.cells.size), Reaches i p → t.cells[p] = sea := by
  have hsize : t.cells.size = 64000 := t.size_eq
  have hnone : t.firstLand? i = none ↔ ∀ j ∈ searched i, t.cellAt j = sea := by
    simp [firstLand?]
  rw [hnone]
  constructor
  · intro h p hp hreaches
    obtain ⟨j, hj, hjp⟩ := (exists_searched_iff hi (hsize ▸ hp)).mpr hreaches
    have hcell := h j hj
    simp only [cellAt, hjp, Int.toNat_natCast] at hcell
    exact hcell
  · intro h j hj
    have hlt : (j % 64000).toNat < 64000 := by omega
    have hreaches : Reaches i (j % 64000).toNat :=
      (exists_searched_iff hi hlt).mp ⟨j, hj, by omega⟩
    exact h _ (hsize ▸ hlt) hreaches

theorem origin_bounds (x y : Int) : 0 ≤ origin x y ∧ origin x y < 64000 := by
  rw [origin]
  omega

/-! ## Climates -/

/-- The byte is one of the six terrains on land. -/
def IsLand (b : UInt8) : Prop := b ∈ [254, 251, 249, 250, 253, 252]

theorem exists_climateOf {b : UInt8} (h : IsLand b) :
    ∃ climate, climateOf b.toNat = .ok climate := by
  simp only [IsLand, List.mem_cons, List.not_mem_nil, or_false] at h
  rcases h with rfl | rfl | rfl | rfl | rfl | rfl
  · exact ⟨.temperate, rfl⟩
  · exact ⟨.temperate, rfl⟩
  · exact ⟨.mountain, rfl⟩
  · exact ⟨.mountain, rfl⟩
  · exact ⟨.desert, rfl⟩
  · exact ⟨.desert, rfl⟩

theorem isLand_failSafeAt (h : ∀ b ∈ t.cells, b = sea ∨ IsLand b) (x y : Int) :
    IsLand (t.failSafeAt x y) := by
  rw [failSafeAt_eq]
  cases hland : t.firstLand? (origin x y) with
  | none => exact List.mem_cons_self
  | some land =>
    obtain ⟨j, -, hj⟩ := List.mem_map.mp (List.mem_of_find?_eq_some hland)
    have hmem : land ∈ t.cells := by
      rw [← hj, cellAt]
      exact Array.getElem_mem _
    exact (h land hmem).resolve_left (t.ne_sea_of_firstLand? hland)

/-! ## The terrain near a pixel -/

/-- The terrain near a pixel is the first land in the order of the search, and temperate land if
there is none. It is never sea, it is temperate land of the first kind iff that is what is found
or the whole column of the place and all that lies within 199 places of it are sea, and it depends
on nothing but where the pixel lies in the map when its rows are gone through and around. On a map
of sea and the six terrains it always has a climate. -/
theorem failSafeAt_searches (t : Terrain) :
    (∀ x y, t.failSafeAt x y = (t.firstLand? (origin x y)).getD 254) ∧
    (∀ x y, t.failSafeAt x y ≠ sea) ∧
    (∀ x y, t.failSafeAt x y = 254 ↔
      (∀ (p : Nat) (h : p < t.cells.size), Reaches (origin x y) p → t.cells[p] = sea) ∨
        t.firstLand? (origin x y) = some 254) ∧
    (∀ x y x' y', (x + 320 * y) % 64000 = (x' + 320 * y') % 64000 →
      t.failSafeAt x y = t.failSafeAt x' y') ∧
    ((∀ b ∈ t.cells, b = sea ∨ IsLand b) →
      ∀ x y, ∃ climate, climateOf (t.failSafeAt x y).toNat = .ok climate) := by
  refine ⟨t.failSafeAt_eq, fun x y => ?_, fun x y => ?_, fun x y x' y' h => ?_, fun h x y => ?_⟩
  · rw [failSafeAt_eq]
    cases hland : t.firstLand? (origin x y) with
    | none => decide
    | some land => exact t.ne_sea_of_firstLand? hland
  · rw [failSafeAt_eq, ← t.firstLand?_eq_none_iff (origin_bounds x y)]
    cases t.firstLand? (origin x y) with
    | none => simp [lastResort]
    | some land => simp
  · have horigin : origin x y = origin x' y' := by
      rw [origin, origin]
      omega
    rw [failSafeAt_eq, failSafeAt_eq, horigin]
  · exact exists_climateOf (t.isLand_failSafeAt h x y)

/-- A map with mountains at one place, 50 rows above that of the upper left pixel. -/
def island : Terrain where
  cells := (Array.replicate 64000 sea).set 47988 249 (by rw [Array.size_replicate]; decide)
  size_eq := by rw [Array.size_set, Array.size_replicate]; rfl

theorem cellAt_island (i : Int) :
    island.cellAt i = if 47988 = (i % 64000).toNat then 249 else sea := by
  simp only [cellAt, island, Array.getElem_set, Array.getElem_replicate]

/-- Across the upper edge of the map the mountains are found, and from a pixel on another row and
far off to the right alike. -/
theorem failSafeAt_of_island :
    ((0 + 320 * 0 : Int) % 64000 = (640 + 320 * 198) % 64000 ∧
      island.failSafeAt 0 0 = island.failSafeAt 640 198) ∧
    (∀ b ∈ island.cells, b = sea ∨ IsLand b) ∧ island.failSafeAt 0 0 = 249 ∧
    ∃ climate, climateOf (island.failSafeAt 0 0).toNat = .ok climate := by
  obtain ⟨hsearch, -, -, hplace, hclimate⟩ := failSafeAt_searches island
  have hsame : (0 + 320 * 0 : Int) % 64000 = (640 + 320 * 198) % 64000 := by decide
  have hcells : ∀ b ∈ island.cells, b = sea ∨ IsLand b := by
    intro b hb
    obtain ⟨p, hp, rfl⟩ := Array.getElem_of_mem hb
    simp only [island, Array.getElem_set, Array.getElem_replicate]
    split
    · exact Or.inr (by rw [IsLand]; decide)
    · exact Or.inl rfl
  have hfound : island.firstLand? (origin 0 0) = some 249 := by
    rw [firstLand?, funext cellAt_island]
    decide +kernel
  exact ⟨⟨hsame, hplace 0 0 640 198 hsame⟩, hcells, by rw [hsearch, hfound]; rfl,
    hclimate hcells 0 0⟩

end ArenaData.Terrain
