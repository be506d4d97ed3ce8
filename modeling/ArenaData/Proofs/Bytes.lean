import ArenaData.Bytes.Basic
import Mathlib.Algebra.Order.Ring.Nat
import Mathlib.Data.List.TakeDrop
import Mathlib.Data.List.TakeWhile

/-!
# Numbers and texts in bytes

Numbers of two bytes, Latin-1, and the strings that zero bytes end. `Bytes.strings` cuts a sequence
of bytes at its zero bytes: every string has its zero byte, so what stands behind the last zero byte
is no string. `Bytes.ended` writes strings down, and reading what it wrote gives the strings back
unless one of them has a zero byte of its own.
-/

namespace ArenaData.Bytes

/-! ## Numbers of two bytes -/

theorem littleEndian_pair (low high : UInt8) :
    littleEndian [low, high] = low.toNat + 256 * high.toNat := rfl

theorem littleEndian_ofUInt16 {n : Nat} (h : n ≤ 0xFFFF) : littleEndian (ofUInt16 n) = n := by
  rw [ofUInt16, littleEndian_pair, UInt8.toNat_ofNat', UInt8.toNat_ofNat']
  omega

theorem ofUInt16_pair (low high : UInt8) :
    ofUInt16 (low.toNat + 256 * high.toNat) = [low, high] := by
  have hl := low.toNat_lt
  have hh := high.toNat_lt
  have e1 : UInt8.ofNat (low.toNat + 256 * high.toNat) = low := by
    apply UInt8.toNat_inj.mp
    rw [UInt8.toNat_ofNat']
    omega
  have e2 : UInt8.ofNat ((low.toNat + 256 * high.toNat) / 256) = high := by
    apply UInt8.toNat_inj.mp
    rw [UInt8.toNat_ofNat']
    omega
  rw [ofUInt16, e1, e2]

/-! ## Latin-1 -/

theorem toNat_ofUInt8 (b : UInt8) : (Char.ofUInt8 b).toNat = b.toNat := rfl

theorem toUInt8_ofUInt8 (b : UInt8) : (Char.ofUInt8 b).toUInt8 = b := by
  apply UInt8.toNat_inj.mp
  show (Char.ofUInt8 b).val.toUInt8.toNat = b.toNat
  rw [UInt32.toNat_toUInt8]
  exact Nat.mod_eq_of_lt b.toNat_lt

theorem ofUInt8_toUInt8 {c : Char} (h : c.toNat ≤ 0xFF) : Char.ofUInt8 c.toUInt8 = c := by
  apply Char.toNat_inj.mp
  rw [toNat_ofUInt8]
  show c.val.toUInt8.toNat = c.toNat
  rw [UInt32.toNat_toUInt8]
  exact Nat.mod_eq_of_lt (Nat.lt_succ_of_le h)

theorem latin1_injective : Function.Injective latin1 := by
  intro a b h
  have := congrArg (List.map Char.toUInt8) h
  simpa [latin1, Function.comp_def, toUInt8_ofUInt8] using this

theorem toNat_le_of_mem_latin1 {b : Bytes} {c : Char} (h : c ∈ latin1 b) : c.toNat ≤ 0xFF := by
  obtain ⟨x, _, rfl⟩ := List.mem_map.mp h
  exact Nat.le_of_lt_succ x.toNat_lt

/-- The bytes of a text are those that read as it. -/
theorem ofLatin1_eq_ok {t : Text} {b : Bytes} : ofLatin1 t = .ok b ↔ latin1 b = t := by
  unfold ofLatin1
  split
  · rename_i c hc
    have hmem := List.mem_of_find?_eq_some hc
    have hbig : 0xFF < c.toNat := by simpa using List.find?_some hc
    simp only [reduceCtorEq, false_iff]
    rintro rfl
    have := toNat_le_of_mem_latin1 hmem
    omega
  · rename_i hc
    have hall : ∀ c ∈ t, c.toNat ≤ 0xFF := by simpa using hc
    have hback : latin1 (t.map Char.toUInt8) = t := by
      rw [latin1, List.map_map]
      exact (List.map_congr_left fun c hm => ofUInt8_toUInt8 (hall c hm)).trans (List.map_id t)
    constructor
    · intro h
      rw [← Except.ok.inj h, hback]
    · intro h
      rw [latin1_injective (hback.trans h.symm)]

/-- A text has bytes iff no character lies beyond U+00FF. -/
theorem exists_latin1_iff {t : Text} : (∃ b, latin1 b = t) ↔ ∀ c ∈ t, c.toNat ≤ 0xFF := by
  constructor
  · rintro ⟨b, rfl⟩ c hc
    exact toNat_le_of_mem_latin1 hc
  · intro h
    refine ⟨t.map Char.toUInt8, ofLatin1_eq_ok.mp ?_⟩
    have hnone : t.find? (0xFF < ·.toNat) = none := by simpa using h
    rw [ofLatin1, hnone]

theorem zero_mem_latin1 {b : Bytes} : Char.ofNat 0 ∈ latin1 b ↔ 0 ∈ b := by
  constructor
  · intro h
    obtain ⟨x, hx, h0⟩ := List.mem_map.mp h
    have : x = 0 := by rw [← toUInt8_ofUInt8 x, h0]; rfl
    exact this ▸ hx
  · intro h
    exact List.mem_map.mpr ⟨0, h, rfl⟩

/-! ## Strings -/

/-- The strings of the bytes, in order, each without the zero byte that ends it. -/
def strings (b : Bytes) : List Bytes := (b.splitOn 0).dropLast

/-- Strings one after the other, each with the zero byte that ends it. -/
def ended (strings : List Bytes) : Bytes := strings.flatMap (· ++ [0])

@[simp]
theorem ended_nil : ended [] = [] := rfl

@[simp]
theorem ended_cons (s : Bytes) (l : List Bytes) : ended (s :: l) = s ++ 0 :: ended l := by
  simp [ended]

theorem ended_append (l m : List Bytes) : ended (l ++ m) = ended l ++ ended m := by
  simp [ended]

theorem length_ended (l : List Bytes) : (ended l).length = (l.map fun s => s.length + 1).sum := by
  simp [ended, List.length_flatMap]

theorem strings_of_zero_notMem {b : Bytes} (h : 0 ∉ b) : strings b = [] := by
  rw [strings, List.splitOn_eq_singleton h]
  rfl

theorem strings_append_zero {s : Bytes} (h : 0 ∉ s) (b : Bytes) :
    strings (s ++ 0 :: b) = s :: strings b := by
  rw [strings, List.splitOn_append_cons_self_of_not_mem h,
    List.dropLast_cons_of_ne_nil (List.splitOn_ne_nil _ _), strings]

/-- Bytes without a zero byte have no strings, all others have a first one: the induction that
follows the strings of the bytes. -/
@[elab_as_elim]
theorem string_induction {motive : Bytes → Prop} (b : Bytes)
    (unended : ∀ b, 0 ∉ b → motive b)
    (string : ∀ s b, 0 ∉ s → motive b → motive (s ++ 0 :: b)) : motive b := by
  induction hn : b.length using Nat.strongRecOn generalizing b with
  | ind n ih =>
    by_cases h : 0 ∈ b
    · obtain ⟨s, r, rfl, hs⟩ := List.eq_append_cons_of_mem h
      have hlt : r.length < n := by
        rw [← hn, List.length_append, List.length_cons]
        omega
      exact string s r hs (ih r.length hlt r rfl)
    · exact unended b h

/-- There is a string for each zero byte. -/
theorem length_strings (b : Bytes) : (strings b).length = b.count 0 := by
  induction b using string_induction with
  | unended b h => rw [strings_of_zero_notMem h, List.count_eq_zero_of_not_mem h, List.length_nil]
  | string s b h ih =>
    rw [strings_append_zero h, List.length_cons, ih, List.count_append, List.count_cons_self,
      List.count_eq_zero_of_not_mem h]
    omega

theorem zero_notMem_of_mem_strings {b s : Bytes} (hs : s ∈ strings b) : 0 ∉ s := by
  induction b using string_induction with
  | unended b h =>
    rw [strings_of_zero_notMem h] at hs
    exact absurd hs (List.not_mem_nil)
  | string t b h ih =>
    rw [strings_append_zero h] at hs
    rcases List.mem_cons.mp hs with rfl | hs
    · exact h
    · exact ih hs

/-- The strings, written down again, are a front part of the bytes; no zero byte is behind it. -/
theorem exists_ended_strings_append (b : Bytes) :
    ∃ rest, 0 ∉ rest ∧ ended (strings b) ++ rest = b := by
  induction b using string_induction with
  | unended b h => exact ⟨b, h, by rw [strings_of_zero_notMem h]; rfl⟩
  | string s b h ih =>
    obtain ⟨rest, hr, hb⟩ := ih
    refine ⟨rest, hr, ?_⟩
    rw [strings_append_zero h, ended_cons, List.append_assoc, List.cons_append, hb]

/-- What was written down is read again, if no string has a zero byte of its own. -/
theorem strings_ended_append {l : List Bytes} (h : ∀ s ∈ l, 0 ∉ s) (rest : Bytes) :
    strings (ended l ++ rest) = l ++ strings rest := by
  induction l with
  | nil => rfl
  | cons s l ih =>
    rw [ended_cons, List.append_assoc, List.cons_append, strings_append_zero (h s (by simp)),
      ih fun t ht => h t (by simp [ht]), List.cons_append]

/-- Strings that are written down bring at least one zero byte each. -/
theorem length_le_count_ended (l : List Bytes) : l.length ≤ (ended l).count 0 := by
  induction l with
  | nil => simp
  | cons s l ih =>
    rw [ended_cons, List.count_append, List.count_cons_self, List.length_cons]
    omega

/-! ## Finding the end of a string -/

theorem ne_zero_of_zero_notMem {b : Bytes} (h : 0 ∉ b) : ∀ x ∈ b, (x != 0) = true :=
  fun _ hx => bne_iff_ne.mpr fun e => h (e ▸ hx)

theorem untilZero_of_zero_notMem {b : Bytes} (h : 0 ∉ b) : untilZero b = b :=
  List.takeWhile_eq_self_iff.mpr (ne_zero_of_zero_notMem h)

theorem untilZero_append_zero {s : Bytes} (h : 0 ∉ s) (b : Bytes) :
    untilZero (s ++ 0 :: b) = s := by
  rw [untilZero, List.takeWhile_append_of_pos (ne_zero_of_zero_notMem h)]
  simp

theorem span_of_zero_notMem {b : Bytes} (h : 0 ∉ b) : b.span (· != 0) = (b, []) := by
  rw [List.span_eq_takeWhile_dropWhile, ← untilZero, untilZero_of_zero_notMem h,
    List.dropWhile_eq_nil_iff.mpr (ne_zero_of_zero_notMem h)]

theorem span_append_zero {s : Bytes} (h : 0 ∉ s) (b : Bytes) :
    (s ++ 0 :: b).span (· != 0) = (s, 0 :: b) := by
  rw [List.span_eq_takeWhile_dropWhile, ← untilZero, untilZero_append_zero h,
    List.dropWhile_append_of_pos (ne_zero_of_zero_notMem h)]
  simp

end ArenaData.Bytes
