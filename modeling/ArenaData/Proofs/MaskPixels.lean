import ArenaData.WorldMap.Mask
import Mathlib.Algebra.Order.Ring.Int
import Mathlib.Data.Nat.Bitwise

/-!
# The pixels of masks

A mask answers for a pixel by one bit of its data. The address of that bit lies in the data for
every pixel of the region, two pixels never share it, and the picture of the mask shows the same
bit. So the bits of the data are the pixels of the region, one for one, and the bits that fill up
the last byte of a row belong to none of them: flipping a bit changes the answer for its own pixel,
if it has one, and for no other.
-/

namespace ArenaData

/-! ## Bits -/

/-- Bit `i` of a byte, counted from the highest one. -/
def bitOf (b : UInt8) (i : Nat) : Bool := b.toNat.testBit (7 - i)

/-- The byte with its bit `i` turned over. -/
def flipBit (i : Nat) (b : UInt8) : UInt8 := b ^^^ UInt8.ofNat (2 ^ (7 - i))

theorem bitOf_flipBit (b : UInt8) {i j : Nat} (hi : i < 8) (hj : j < 8) :
    bitOf (flipBit i b) j = if i = j then !bitOf b j else bitOf b j := by
  have hpow : 2 ^ (7 - i) < 2 ^ 8 := Nat.pow_lt_pow_right (by decide) (by omega)
  rw [bitOf, flipBit, UInt8.toNat_xor, UInt8.toNat_ofNat', Nat.mod_eq_of_lt hpow, Nat.testBit_xor,
    Nat.testBit_two_pow, bitOf]
  by_cases h : i = j
  · simp [h]
  · have hne : ¬ 7 - i = 7 - j := by omega
    simp [h, hne]

namespace Mask

theorem bitOf_eq (b : UInt8) (i : Nat) : (b.toNat >>> (7 - i) % 2 == 1) = bitOf b i := by
  rw [bitOf, Nat.testBit_eq_decide_div_mod_eq, Nat.shiftRight_eq_div_pow,
    Bool.beq_eq_decide_eq]

theorem bitAt_eq {row : Bytes} {column : Nat} (h : column / 8 < row.length) :
    bitAt row column = bitOf row[column / 8] (column % 8) := by
  rw [bitAt, List.getElem?_eq_getElem h, Option.getD_some, bitOf_eq]

theorem getElem?_bits (b : UInt8) {i : Nat} (h : i < 8) : (bits b)[i]? = some (bitOf b i) := by
  rw [bits, List.getElem?_map, List.getElem?_range h, Option.map_some, bitOf_eq]

theorem length_bits (b : UInt8) : (bits b).length = 8 := by
  rw [bits, List.length_map, List.length_range]

/-- Bytes one after the other have their bits one after the other, eight to a byte. -/
theorem getElem?_flatMap_bits (row : Bytes) (column : Nat) :
    (row.flatMap bits)[column]? = row[column / 8]?.map (bitOf · (column % 8)) := by
  induction row generalizing column with
  | nil => rfl
  | cons b row ih =>
    rw [List.flatMap_cons]
    by_cases h : column < 8
    · have hdiv : column / 8 = 0 := by omega
      have hmod : column % 8 = column := by omega
      rw [List.getElem?_append_left (by rw [length_bits]; exact h), getElem?_bits b h, hdiv, hmod]
      rfl
    · have hdiv : column / 8 = (column - 8) / 8 + 1 := by omega
      have hmod : (column - 8) % 8 = column % 8 := by omega
      rw [List.getElem?_append_right (by rw [length_bits]; omega), length_bits, ih, hdiv, hmod,
        List.getElem?_cons_succ]

/-! ## Addresses -/

variable (m : Mask) {row column : Nat} {x y : Int}

/-- The number of bytes for a row. -/
def rowSize : Nat := (paddedWidth m.rect.width).toNat

/-- The byte of the data that holds a column of a row. -/
def address (row column : Nat) : Nat := row * m.rowSize + column / 8

/-- The point of the screen is that of a row and a column of the region. -/
def HasPixel (row column : Nat) (x y : Int) : Prop :=
  (row : Int) < m.rect.height ∧ (column : Int) < m.rect.width ∧
    x = m.rect.x + column ∧ y = m.rect.y + row

theorem contains_iff : m.rect.contains x y = true ↔ ∃ row column, m.HasPixel row column x y := by
  simp only [Rect.contains, Bool.and_eq_true, decide_eq_true_eq]
  rw [Rect.right, Rect.bottom]
  constructor
  · rintro ⟨⟨⟨hleft, hright⟩, habove⟩, hbelow⟩
    exact ⟨(y - m.rect.y).toNat, (x - m.rect.x).toNat, by omega, by omega, by omega, by omega⟩
  · rintro ⟨row, column, hrow, hcolumn, rfl, rfl⟩
    omega

variable {m}

/-- A region has one pixel at most for a point. -/
theorem HasPixel.unique {row' column' : Nat} (h : m.HasPixel row column x y)
    (h' : m.HasPixel row' column' x y) : row = row' ∧ column = column' := by
  obtain ⟨-, -, hx, hy⟩ := h
  obtain ⟨-, -, hx', hy'⟩ := h'
  omega

theorem HasPixel.column_lt (h : m.HasPixel row column x y) : column < 8 * m.rowSize := by
  have hcolumn := h.2.1
  rw [rowSize, paddedWidth]
  omega

/-- The rows of a region fill its data. -/
theorem length_data (hrow : (row : Int) < m.rect.height) (hcolumn : column < 8 * m.rowSize) :
    m.data.length = m.rect.height.toNat * m.rowSize := by
  have hsize : (m.data.length : Int) = paddedWidth m.rect.width * m.rect.height := m.size_eq
  have hheight : m.rect.height = m.rect.height.toNat := by omega
  have hpadded : paddedWidth m.rect.width = m.rowSize := by
    rw [rowSize] at hcolumn ⊢
    omega
  rw [hpadded, hheight, Int.mul_comm] at hsize
  exact_mod_cast hsize

/-- Every bit of every row has its byte in the data. -/
theorem address_lt (hrow : (row : Int) < m.rect.height) (hcolumn : column < 8 * m.rowSize) :
    m.address row column < m.data.length := by
  have hrows : (row + 1) * m.rowSize ≤ m.rect.height.toNat * m.rowSize :=
    Nat.mul_le_mul_right _ (by omega)
  rw [Nat.add_mul, Nat.one_mul] at hrows
  rw [length_data hrow hcolumn, address]
  omega

/-- Bits in different places have different bytes, or are different bits of one byte. -/
theorem address_inj {row' column' : Nat} (hcolumn : column < 8 * m.rowSize)
    (hcolumn' : column' < 8 * m.rowSize) (haddress : m.address row column = m.address row' column')
    (hbit : column % 8 = column' % 8) : row = row' ∧ column = column' := by
  have hbyte : column / 8 < m.rowSize := by omega
  have hbyte' : column' / 8 < m.rowSize := by omega
  have hdiv := congrArg (· / m.rowSize) haddress
  have hmod := congrArg (· % m.rowSize) haddress
  simp only [address, Nat.mul_comm _ m.rowSize] at hdiv hmod
  rw [Nat.mul_add_div (by omega), Nat.mul_add_div (by omega), Nat.div_eq_of_lt hbyte,
    Nat.div_eq_of_lt hbyte'] at hdiv
  rw [Nat.mul_add_mod, Nat.mul_add_mod, Nat.mod_eq_of_lt hbyte, Nat.mod_eq_of_lt hbyte'] at hmod
  omega

/-! ## Answers -/

theorem get_of_not_hasPixel (h : ∀ row column, ¬ m.HasPixel row column x y) :
    m.get x y = false := by
  have hout : ¬ m.rect.contains x y = true := by
    rw [contains_iff]
    exact fun ⟨row, column, hpixel⟩ => h row column hpixel
  rw [get, if_neg hout]

/-- For a point of the region the answer is the bit at the address of its pixel. -/
theorem HasPixel.get_eq (h : m.HasPixel row column x y)
    (hlt : m.address row column < m.data.length) :
    m.get x y = bitOf m.data[m.address row column] (column % 8) := by
  have hin : m.rect.contains x y = true := m.contains_iff.mpr ⟨row, column, h⟩
  have hcolumn := h.column_lt
  obtain ⟨hrow, hwidth, rfl, rfl⟩ := h
  have hx : (m.rect.x + column - m.rect.x).toNat = column := by omega
  have hy : (m.rect.y + row - m.rect.y).toNat = row := by omega
  have hbyte : column / 8 < (m.data.drop (row * m.rowSize)).length := by
    rw [address] at hlt
    rw [List.length_drop]
    omega
  rw [get, if_pos hin]
  simp only [hx, hy]
  show bitAt (m.data.drop (row * m.rowSize)) column = _
  rw [bitAt_eq hbyte, List.getElem_drop]
  rfl

/-! ## The picture -/

/-- The rows of the picture of a mask, if there is room for it. -/
def pixels (m : Mask) : List (List Bool) :=
  rowsFrom m.rect.width.toNat m.rowSize m.rect.height.toNat m.data

theorem length_flatMap_bits (row : Bytes) : (row.flatMap bits).length = 8 * row.length := by
  induction row with
  | nil => rfl
  | cons b row ih =>
    rw [List.flatMap_cons, List.length_append, length_bits, ih, List.length_cons]
    omega

/-- There are as many rows as are asked for, and data that fills them gives each its full width. -/
theorem map_length_rowsFrom {width padded : Nat} (hwidth : width ≤ 8 * padded) {count : Nat}
    {data : Bytes} (h : data.length = count * padded) :
    (rowsFrom width padded count data).map List.length = List.replicate count width := by
  induction count generalizing data with
  | zero => rfl
  | succ count ih =>
    rw [Nat.succ_mul] at h
    have hrow : (((data.take padded).flatMap bits).take width).length = width := by
      rw [List.length_take, length_flatMap_bits, List.length_take]
      omega
    have hrest : (data.drop padded).length = count * padded := by
      rw [List.length_drop]
      omega
    rw [rowsFrom, List.map_cons, hrow, ih hrest, List.replicate_succ]

theorem getElem?_rowsFrom (width padded : Nat) {count : Nat} (data : Bytes) (h : row < count) :
    (rowsFrom width padded count data)[row]? =
      some ((((data.drop (row * padded)).take padded).flatMap bits).take width) := by
  induction count generalizing row data with
  | zero => exact absurd h (Nat.not_lt_zero row)
  | succ count ih =>
    rw [rowsFrom]
    cases row with
    | zero => rw [List.getElem?_cons_zero, Nat.zero_mul, List.drop_zero]
    | succ row =>
      rw [List.getElem?_cons_succ, ih (data.drop padded) (Nat.lt_of_succ_lt_succ h), List.drop_drop,
        Nat.succ_mul, Nat.add_comm padded]

/-- The picture shows at a row and column what the mask answers for their point. -/
theorem HasPixel.getElem?_pixels (h : m.HasPixel row column x y) :
    m.pixels[row]?.bind (·[column]?) = some (m.get x y) := by
  have hlt := address_lt h.1 h.column_lt
  have hcolumn := h.column_lt
  have hbyte : column / 8 < m.rowSize := by omega
  have hwidth : column < m.rect.width.toNat := by
    have hlow := h.2.1
    omega
  have hrow : row < m.rect.height.toNat := by
    have hlow := h.1
    omega
  rw [pixels, getElem?_rowsFrom _ _ _ hrow, Option.bind_some, List.getElem?_take_of_lt hwidth,
    getElem?_flatMap_bits, List.getElem?_take_of_lt hbyte, List.getElem?_drop, h.get_eq hlt]
  show Option.map _ m.data[m.address row column]? = _
  rw [List.getElem?_eq_getElem hlt, Option.map_some]

/-! ## Flipped bits -/

/-- The mask with one bit of a row turned over, be it that of a pixel or behind the last one. -/
def flip (m : Mask) (row column : Nat) : Mask where
  data := m.data.modify (m.address row column) (flipBit (column % 8))
  rect := m.rect
  isExit := m.isExit
  size_eq := by rw [List.length_modify]; exact m.size_eq

@[simp]
theorem data_flip (m : Mask) (row column : Nat) :
    (m.flip row column).data = m.data.modify (m.address row column) (flipBit (column % 8)) := rfl

@[simp]
theorem address_flip (m : Mask) (row column : Nat) :
    (m.flip row column).address = m.address := rfl

@[simp]
theorem hasPixel_flip (m : Mask) (row column : Nat) :
    (m.flip row column).HasPixel = m.HasPixel := rfl

theorem HasPixel.get_flip (h : m.HasPixel row column x y) (row' column' : Nat) :
    (m.flip row' column').get x y =
      if m.address row' column' = m.address row column ∧ column' % 8 = column % 8 then
        !m.get x y else m.get x y := by
  have hflipped : (m.flip row' column').HasPixel row column x y := by rwa [hasPixel_flip]
  have hbit (column : Nat) : column % 8 < 8 := Nat.mod_lt column (by decide)
  rw [hflipped.get_eq (address_lt h.1 h.column_lt), h.get_eq (address_lt h.1 h.column_lt)]
  simp only [data_flip, address_flip, List.getElem_modify]
  by_cases haddress : m.address row' column' = m.address row column
  · rw [if_pos haddress, bitOf_flipBit _ (hbit column') (hbit column)]
    simp only [haddress, true_and]
  · rw [if_neg haddress, if_neg fun hboth => haddress hboth.1]

/-- A flipped bit changes the answer for the point of its own pixel only. -/
theorem get_flip_ne_iff (row : Nat) (hcolumn : column < 8 * m.rowSize) (x y : Int) :
    (m.flip row column).get x y ≠ m.get x y ↔ m.HasPixel row column x y := by
  by_cases hin : ∃ row' column', m.HasPixel row' column' x y
  · obtain ⟨row', column', hpixel⟩ := hin
    rw [hpixel.get_flip row column]
    constructor
    · intro hne
      have hboth : m.address row column = m.address row' column' ∧ column % 8 = column' % 8 := by
        by_contra hnot
        exact hne (if_neg hnot)
      obtain ⟨rfl, rfl⟩ := address_inj hcolumn hpixel.column_lt hboth.1 hboth.2
      exact hpixel
    · intro hown
      obtain ⟨rfl, rfl⟩ := hown.unique hpixel
      simp
  · have hout : ∀ row' column', ¬ m.HasPixel row' column' x y :=
      fun row' column' h => hin ⟨row', column', h⟩
    have hflipped : ∀ row' column', ¬ (m.flip row column).HasPixel row' column' x y := by
      rwa [hasPixel_flip]
    rw [get_of_not_hasPixel hout, get_of_not_hasPixel hflipped]
    exact iff_of_false (fun h => h rfl) (hout row column)

/-! ## Masks and their pictures -/

theorem map_length_pixels (hwidth : 1 ≤ m.rect.width) (hheight : 1 ≤ m.rect.height) :
    m.pixels.map List.length = List.replicate m.rect.height.toNat m.rect.width.toNat := by
  have hpixel : m.HasPixel 0 (m.rect.width.toNat - 1) (m.rect.x + (m.rect.width.toNat - 1 : Nat))
      (m.rect.y + (0 : Nat)) := ⟨by omega, by omega, rfl, rfl⟩
  have hcolumn := hpixel.column_lt
  exact map_length_rowsFrom (by omega) (length_data hpixel.1 hcolumn)

/-- A region that is not too large for a picture has one. -/
theorem rows_eq_ok_iff (hwidth : 1 ≤ m.rect.width) (hheight : 1 ≤ m.rect.height) :
    m.rows = .ok m.pixels ↔ m.rect.width ≤ maxWidth ∧ m.rect.height < sideBound := by
  have hbound : maxWidth < sideBound := by decide
  rw [rows, if_neg (by omega)]
  by_cases hlarge : sideBound ≤ m.rect.width ∨ sideBound ≤ m.rect.height
  · rw [if_pos hlarge]
    exact iff_of_false (fun h => nomatch h) (by omega)
  · rw [if_neg hlarge]
    by_cases hwide : maxWidth < m.rect.width
    · rw [if_pos hwide]
      exact iff_of_false (fun h => nomatch h) (by omega)
    · rw [if_neg hwide]
      exact iff_of_true rfl (by omega)

/-- A mask answers no for every point outside its region. For a point inside, the bit that answers
lies in the data, and it is the one that the picture of the mask shows there; the picture has the
sides of the region. A bit of a row, up to its last byte, is the answer for one point if it is that
of a pixel, and for none if it lies behind the last pixel. -/
theorem get_eq_pixel (m : Mask) (hwidth : 1 ≤ m.rect.width) (hheight : 1 ≤ m.rect.height) :
    (∀ x y, (¬ ∃ row column, m.HasPixel row column x y) → m.get x y = false) ∧
    (∀ row column x y, m.HasPixel row column x y →
      (∃ h : m.address row column < m.data.length,
        m.get x y = bitOf m.data[m.address row column] (column % 8)) ∧
      m.pixels[row]?.bind (·[column]?) = some (m.get x y)) ∧
    m.pixels.map List.length = List.replicate m.rect.height.toNat m.rect.width.toNat ∧
    (m.rows = .ok m.pixels ↔ m.rect.width ≤ maxWidth ∧ m.rect.height < sideBound) ∧
    ∀ row column, column < 8 * m.rowSize →
      ∀ x y, (m.flip row column).get x y ≠ m.get x y ↔ m.HasPixel row column x y := by
  refine ⟨fun x y h => ?_, fun row column x y h => ⟨?_, h.getElem?_pixels⟩, ?_, ?_, ?_⟩
  · exact get_of_not_hasPixel fun row column hpixel => h ⟨row, column, hpixel⟩
  · exact ⟨address_lt h.1 h.column_lt, h.get_eq _⟩
  · exact map_length_pixels hwidth hheight
  · exact rows_eq_ok_iff hwidth hheight
  · exact fun row column hcolumn x y => get_flip_ne_iff row hcolumn x y

/-- Two rows of twelve pixels, two bytes each. -/
def twoRows : Mask := ⟨[0x40, 0x10, 0, 0], ⟨10, 20, 12, 2⟩, false, by decide⟩

/-- The last pixel of the first row is set. Turning it over clears it, and turning over the bit
behind it changes no answer. -/
theorem get_twoRows :
    (1 ≤ twoRows.rect.width ∧ 1 ≤ twoRows.rect.height) ∧ twoRows.HasPixel 0 11 21 20 ∧
      twoRows.get 21 20 = true ∧ (twoRows.flip 0 11).get 21 20 = false ∧
      ∀ x y, (twoRows.flip 0 12).get x y = twoRows.get x y := by
  have hwidth : 1 ≤ twoRows.rect.width := by decide
  have hheight : 1 ≤ twoRows.rect.height := by decide
  obtain ⟨-, hget, -, -, hflip⟩ := get_eq_pixel twoRows hwidth hheight
  have hpixel : twoRows.HasPixel 0 11 21 20 := ⟨by decide, by decide, rfl, rfl⟩
  have hset : twoRows.get 21 20 = true := by
    obtain ⟨⟨h, hbit⟩, -⟩ := hget 0 11 21 20 hpixel
    have hone : bitOf 0x10 3 = true := by decide
    exact hbit.trans hone
  have hcleared := (hflip 0 11 (by decide) 21 20).mpr hpixel
  rw [hset] at hcleared
  refine ⟨⟨hwidth, hheight⟩, hpixel, hset, by simpa using hcleared, fun x y => ?_⟩
  by_contra hne
  have hbehind := (hflip 0 12 (by decide) x y).mp hne
  exact absurd hbehind.2.1 (by decide)

end Mask

end ArenaData
