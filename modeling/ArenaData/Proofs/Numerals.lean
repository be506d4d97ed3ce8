import ArenaData.Decimal.Number
import ArenaData.Text.Digit
import Mathlib.Data.List.Basic
import Mathlib.Tactic.SplitIfs

/-!
# The characters of numerals

Numbers are written with the ten digits of ASCII and a few marks: signs, the point, and the letters
of exponents and of the numbers that are not finite.
-/

namespace ArenaData

variable {c : Char} {n : Nat} {s t : Text}

theorem isPlainDigit_iff : isPlainDigit c = true ↔ 0x30 ≤ c.toNat ∧ c.toNat ≤ 0x39 := by
  simp [isPlainDigit, Char.le_def, UInt32.le_iff_toNat_le]

namespace Text

theorem isPlainDigit_of_mem_ofNat (h : c ∈ ofNat n) : isPlainDigit c = true := by
  have hdigit : c.isDigit = true := Nat.isDigit_of_mem_toDigits (by decide) (by decide) h
  rw [isPlainDigit_iff]
  simpa [Char.isDigit, UInt32.le_iff_toNat_le] using hdigit

/-- The characters of numerals that are no digits. -/
def numeralMarks : Text := "+-.einfa".toList

/-- The text has no other characters than numerals have. -/
def IsNumeral (t : Text) : Prop := ∀ c ∈ t, isPlainDigit c = true ∨ c ∈ numeralMarks

instance (t : Text) : Decidable (IsNumeral t) := List.decidableBAll _ t

theorem IsNumeral.append (hs : IsNumeral s) (ht : IsNumeral t) : IsNumeral (s ++ t) :=
  List.forall_mem_append.mpr ⟨hs, ht⟩

theorem IsNumeral.mark (hc : c ∈ numeralMarks) (ht : IsNumeral t) : IsNumeral (c :: t) :=
  List.forall_mem_cons.mpr ⟨Or.inr hc, ht⟩

theorem IsNumeral.of_subset (ht : IsNumeral t) (h : s ⊆ t) : IsNumeral s :=
  fun c hc => ht c (h hc)

theorem IsNumeral.notMem (ht : IsNumeral t) (hdigit : isPlainDigit c = false)
    (hmark : c ∉ numeralMarks) : c ∉ t := by
  intro hc
  rcases ht c hc with h | h
  · rw [hdigit] at h
    cases h
  · exact hmark h

theorem isNumeral_zeros (n : Nat) : IsNumeral (List.replicate n '0') := by
  intro c hc
  obtain rfl := List.eq_of_mem_replicate hc
  exact Or.inl rfl

theorem isNumeral_ofNat (n : Nat) : IsNumeral (ofNat n) :=
  fun _ hc => Or.inl (isPlainDigit_of_mem_ofNat hc)

theorem isNumeral_ofInt (n : Int) : IsNumeral (ofInt n) := by
  unfold ofInt
  split
  · exact (isNumeral_ofNat _).mark (by decide)
  · exact isNumeral_ofNat _

end Text

namespace Decimal

open Text (IsNumeral isNumeral_zeros isNumeral_ofNat)

theorem isNumeral_significant (ht : IsNumeral t) : IsNumeral (significant t) := by
  unfold significant
  split
  · exact isNumeral_zeros 1
  · refine ht.of_subset fun c hc => ?_
    exact List.mem_reverse.mp ((List.dropWhile_sublist _).subset (List.mem_reverse.mp hc))

theorem isNumeral_positional (ht : IsNumeral t) (point : Int) : IsNumeral (positional t point) := by
  unfold positional
  split
  · have hfront : IsNumeral "0.".toList := by decide
    exact (hfront.append (isNumeral_zeros _)).append ht
  · dsimp only
    split
    · have hend : IsNumeral ".0".toList := by decide
      exact (ht.append (isNumeral_zeros _)).append hend
    · have hfraction := ht.of_subset (List.drop_subset point.toNat t)
      exact (ht.of_subset (List.take_subset _ t)).append (hfraction.mark (by decide))

theorem isNumeral_scientific (ht : IsNumeral t) (point : Int) : IsNumeral (scientific t point) := by
  have hexponent : IsNumeral (Text.padLeft '0' 2 (Text.ofNat (point - 1).natAbs)) :=
    (isNumeral_zeros _).append (isNumeral_ofNat _)
  have hsign : (if point - 1 < 0 then '-' else '+') ∈ Text.numeralMarks := by
    split
    · decide
    · decide
  have hfraction : IsNumeral (if (t.drop 1).isEmpty then [] else '.' :: t.drop 1) := by
    split
    · exact fun _ hc => absurd hc List.not_mem_nil
    · exact (ht.of_subset (List.drop_subset 1 t)).mark (by decide)
  exact ((ht.of_subset (List.take_subset 1 t)).append hfraction).append
    ((hexponent.mark hsign).mark (by decide))

theorem isNumeral_text (d : Digits) : IsNumeral d.text := by
  have hdigits : IsNumeral (significant (Text.ofNat d.number)) :=
    isNumeral_significant (isNumeral_ofNat _)
  unfold Digits.text
  dsimp only
  split
  · exact isNumeral_positional hdigits d.point
  · exact isNumeral_scientific hdigits d.point

end Decimal

theorem Binary64.isNumeral_text (x : Binary64) : Text.IsNumeral x.text := by
  cases x with
  | finite negative mantissa exponent =>
    have hsize : Text.IsNumeral
        (if mantissa = 0 then "0.0".toList else (Decimal.shortest mantissa exponent).text) := by
      split
      · decide
      · exact Decimal.isNumeral_text _
    rw [Binary64.text]
    split
    · exact hsize.mark (by decide)
    · exact hsize
  | infinite negative =>
    cases negative with
    | false => decide
    | true => decide
  | notANumber => decide

theorem Number.isNumeral_text (x : Number) : Text.IsNumeral x.text := by
  cases x with
  | whole n => exact Text.isNumeral_ofInt n
  | real x => exact x.isNumeral_text

end ArenaData
