import ArenaData.Proofs.Decoders
import Mathlib.Data.Nat.Digits.Defs

/-!
# The integer at the front of a text

`parseIndex` reads blanks, a sign and as many decimal digits as there are. `StartsWith` says the
same of the text itself: it is these three pieces one after the other, and a rest behind them. No
digit is blank or a sign, so the pieces are found by looking at the first character that is not
blank.
-/

namespace ArenaData

/-! ## Digits -/

namespace Text

variable {c : Char} {digits rest t : Text} {values : List Nat}

/-- The characters are decimal digits of these values. -/
def AreDigits (digits : Text) (values : List Nat) : Prop :=
  List.Forall₂ (fun c value => digitValue? c = some value) digits values

theorem numberOf_eq_ofDigits (values : List Nat) :
    numberOf values = Nat.ofDigits 10 values.reverse := by
  rw [numberOf, Nat.ofDigits_eq_foldr, List.foldr_reverse]
  simp only [Nat.add_comm, Nat.cast_id]

theorem isBlank_of_digitValue? {value : Nat} (h : digitValue? c = some value) :
    isBlank c = false := by
  obtain ⟨first, hfirst, -⟩ := Option.map_eq_some_iff.mp h
  have hrange := List.find?_some hfirst
  simp only [Bool.and_eq_true, decide_eq_true_eq] at hrange
  -- The runs of ten digits stand in the gaps between the blanks.
  have hgaps : ∀ first ∈ digitZeros, (0x20 < first ∧ first + 9 < 0x85) ∨
      (0xA0 < first ∧ first + 9 < 0x1680) ∨ (0x1680 < first ∧ first + 9 < 0x2000) ∨
      0x3000 < first := by decide
  have hgap := hgaps first (List.mem_of_find?_eq_some hfirst)
  simp only [isBlank, Bool.or_eq_false_iff, Bool.and_eq_false_iff, decide_eq_false_iff_not,
    beq_eq_false_iff_ne]
  omega

theorem digitRun_append (h : AreDigits digits values)
    (hrest : ∀ c ∈ rest.head?, digitValue? c = none) : digitRun (digits ++ rest) = values := by
  induction h with
  | nil =>
    cases rest with
    | nil => rfl
    | cons c rest =>
      have hc := hrest c rfl
      rw [List.nil_append, digitRun]
      simp only [hc]
  | cons hvalue _ ih =>
    rw [List.cons_append, digitRun]
    simp only [hvalue, ih]

theorem exists_areDigits (t : Text) : ∃ digits rest, t = digits ++ rest ∧
    AreDigits digits (digitRun t) ∧ ∀ c ∈ rest.head?, digitValue? c = none := by
  induction t with
  | nil => exact ⟨[], [], rfl, .nil, by simp⟩
  | cons c t ih =>
    cases hc : digitValue? c with
    | none =>
      have hrun : digitRun (c :: t) = [] := by
        rw [digitRun]
        simp only [hc]
      rw [hrun]
      exact ⟨[], c :: t, rfl, .nil, by simpa using hc⟩
    | some value =>
      obtain ⟨digits, rest, ht, hdigits, hrest⟩ := ih
      have hrun : digitRun (c :: t) = value :: digitRun t := by
        rw [digitRun]
        simp only [hc]
      rw [hrun]
      exact ⟨c :: digits, rest, by rw [ht, List.cons_append], .cons hc hdigits, hrest⟩

end Text

namespace SpellMaker

variable {t sign rest : Text} {factor size : Int} {fault : Fault}

/-! ## The sign -/

/-- What may stand before the digits of an integer, and what it multiplies them with. -/
inductive Sign : Text → Int → Prop where
  /-- Nothing. -/
  | none : Sign [] 1
  /-- A plus. -/
  | plus : Sign ['+'] 1
  /-- A minus. -/
  | minus : Sign ['-'] (-1)

/-- Without a sign the rest does not look like one. -/
def Bare (sign rest : Text) : Prop :=
  sign = [] → rest.head? ≠ some '-' ∧ rest.head? ≠ some '+'

theorem exists_sign (t : Text) : ∃ sign rest factor, t = sign ++ rest ∧ Sign sign factor ∧
    Bare sign rest := by
  by_cases hminus : t.head? = some '-'
  · obtain ⟨rest, rfl⟩ := List.head?_eq_some_iff.mp hminus
    exact ⟨['-'], rest, -1, rfl, .minus, fun h => nomatch h⟩
  by_cases hplus : t.head? = some '+'
  · obtain ⟨rest, rfl⟩ := List.head?_eq_some_iff.mp hplus
    exact ⟨['+'], rest, 1, rfl, .plus, fun h => nomatch h⟩
  exact ⟨[], t, 1, rfl, .none, fun _ => ⟨hminus, hplus⟩⟩

/-- The index of a text whose sign has been found. -/
theorem parseIndex_eq (source : Text) (ht : t.trimLeft = sign ++ rest) (hsign : Sign sign factor)
    (hbare : Bare sign rest) : parseIndex t source =
      if (Text.digitRun rest).isEmpty then .error (.badIndex source t)
      else if Text.maxDigits < (Text.digitRun rest).length then .error .indexTooLong
      else .ok (factor * Text.numberOf (Text.digitRun rest)) := by
  cases hsign with
  | plus =>
    rw [parseIndex, ht]
    simp
  | minus =>
    rw [parseIndex, ht]
    simp
  | none =>
    obtain ⟨hminus, hplus⟩ := hbare rfl
    rw [List.nil_append] at ht
    rw [parseIndex, ht]
    split
    rename_i negative behind hmatch
    split at hmatch
    · exact absurd rfl hminus
    · exact absurd rfl hplus
    · obtain ⟨rfl, rfl⟩ := Prod.mk.inj hmatch
      simp

/-! ## The integer -/

/-- The text begins with the integer: blanks, a sign if there is one, and at least one decimal
digit. The digits go as far as there are any. -/
def StartsWith (t : Text) (size : Int) : Prop :=
  ∃ blanks sign digits rest values factor, t = blanks ++ (sign ++ (digits ++ rest)) ∧
    (∀ c ∈ blanks, isBlank c = true) ∧ Sign sign factor ∧ Text.AreDigits digits values ∧
    digits ≠ [] ∧ (∀ c ∈ rest.head?, digitValue? c = none) ∧
    size = factor * (Nat.ofDigits 10 values.reverse : Nat)

/-- Digits look neither like blanks nor like a sign. -/
theorem trimLeft_of_digits {blanks digits : Text} {values : List Nat} (rest : Text)
    (hblanks : ∀ c ∈ blanks, isBlank c = true) (hsign : Sign sign factor)
    (hdigits : Text.AreDigits digits values) (hne : digits ≠ []) :
    Text.trimLeft (blanks ++ (sign ++ (digits ++ rest))) = sign ++ (digits ++ rest) ∧
      Bare sign (digits ++ rest) := by
  cases hdigits with
  | nil => exact absurd rfl hne
  | @cons c value digits values hc hdigits =>
    have hdigit : isBlank c = false := Text.isBlank_of_digitValue? hc
    rw [Text.trimLeft, List.dropWhile_append_of_pos hblanks]
    constructor
    · cases hsign with
      | none => exact List.dropWhile_cons_of_neg (by simp [hdigit])
      | plus => exact List.dropWhile_cons_of_neg (by decide)
      | minus => exact List.dropWhile_cons_of_neg (by decide)
    · intro _
      have hminus : c ≠ '-' := by
        rintro rfl
        exact absurd hc (by simp [show digitValue? '-' = none by decide])
      have hplus : c ≠ '+' := by
        rintro rfl
        exact absurd hc (by simp [show digitValue? '+' = none by decide])
      exact ⟨by simpa using hminus, by simpa using hplus⟩

theorem parseIndex_eq_ok_iff (source : Text) (h : t.length ≤ Text.maxDigits) :
    parseIndex t source = .ok size ↔ StartsWith t size := by
  constructor
  · intro hparse
    obtain ⟨sign, rest, factor, ht, hsign, hbare⟩ := exists_sign t.trimLeft
    obtain ⟨digits, behind, rfl, hdigits, hbehind⟩ := Text.exists_areDigits rest
    rw [parseIndex_eq source ht hsign hbare] at hparse
    split at hparse
    · cases hparse
    rename_i hrun
    split at hparse
    · cases hparse
    obtain rfl := Except.ok.inj hparse
    have hblanks : t = t.takeWhile isBlank ++ (sign ++ (digits ++ behind)) := by
      rw [← ht, Text.trimLeft, List.takeWhile_append_dropWhile]
    have hne : digits ≠ [] := by
      rintro rfl
      rw [List.forall₂_nil_left_iff.mp hdigits] at hrun
      exact hrun rfl
    exact ⟨_, sign, digits, behind, _, factor, hblanks, fun c hc => List.mem_takeWhile_imp hc,
      hsign, hdigits, hne, hbehind, by rw [Text.numberOf_eq_ofDigits]⟩
  · rintro ⟨blanks, sign, digits, rest, values, factor, rfl, hblanks, hsign, hdigits, hne, hrest,
      rfl⟩
    obtain ⟨ht, hbare⟩ := trimLeft_of_digits rest hblanks hsign hdigits hne
    have hlength : digits.length = values.length := hdigits.length_eq
    have hvalues : ¬ values.isEmpty := by
      rw [List.isEmpty_iff, ← List.length_eq_zero_iff, ← hlength, List.length_eq_zero_iff]
      exact hne
    have hfits : ¬ Text.maxDigits < values.length := by
      simp only [List.length_append] at h
      omega
    rw [parseIndex_eq source ht hsign hbare, Text.digitRun_append hdigits hrest, if_neg hvalues,
      if_neg hfits, Text.numberOf_eq_ofDigits]

theorem eq_badIndex_of_parseIndex {source : Text} (h : t.length ≤ Text.maxDigits)
    (hparse : parseIndex t source = .error fault) : fault = .badIndex source t := by
  obtain ⟨sign, rest, factor, ht, hsign, hbare⟩ := exists_sign t.trimLeft
  have hrest : (Text.digitRun rest).length ≤ Text.maxDigits := by
    have hrun := length_digitRun_le rest
    have htrim := length_trimLeft_le t
    rw [ht, List.length_append] at htrim
    omega
  rw [parseIndex_eq source ht hsign hbare, if_neg (Nat.not_lt.mpr hrest)] at hparse
  split at hparse
  · exact (Except.error.inj hparse).symm
  · cases hparse

theorem parseIndex_eq_error_iff (source : Text) (h : t.length ≤ Text.maxDigits) :
    parseIndex t source = .error fault ↔
      (¬ ∃ size, StartsWith t size) ∧ fault = .badIndex source t := by
  simp only [← parseIndex_eq_ok_iff source h]
  cases hparse : parseIndex t source with
  | ok size => simp
  | error other =>
    obtain rfl := eq_badIndex_of_parseIndex h hparse
    simp [eq_comm]

theorem StartsWith.unique {other : Int} (h : t.length ≤ Text.maxDigits) (hsize : StartsWith t size)
    (hother : StartsWith t other) : size = other := by
  rw [← parseIndex_eq_ok_iff [] h] at hsize hother
  exact Except.ok.inj (hsize.symm.trans hother)

end SpellMaker

end ArenaData
