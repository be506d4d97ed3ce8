import ArenaData.Log.Format
import ArenaData.Proofs.Numerals

/-!
# Times in numbers

The patterns of the console and of the log file ask for numbers only, and copy what stands between
them. So whatever the time is, its text has the characters of numerals, blanks, and what the pattern
copies.
-/

namespace ArenaData.Log

open Text (IsNumeral numeralMarks)

variable {c : Char} {d : Directive} {m : Moment} {p : Pattern} {pattern : Text} {time : Number}

/-- The parts that a source of a pattern is read as when a moment is shown by it. -/
def partsOf (pattern : Text) : Pattern := Pattern.ofText (Pattern.room pattern.length) pattern

/-- Letters of directives that show a number. -/
def numberLetters : Text := "YmdHMS".toList

/-- The part is copied, or shows a number. -/
def PatternPart.isNumeric : PatternPart → Bool
  | .plain _ => true
  | .directive d => d.modifier.isNone && d.letter.any numberLetters.contains

theorem Directive.exists_number (h : (PatternPart.directive d).isNumeric) (m : Moment) :
    ∃ n digits blank, d.meaning? m = some (.number n digits blank) := by
  obtain ⟨hmodifier, hletter⟩ := Bool.and_eq_true_iff.mp h
  rw [Option.isNone_iff_eq_none] at hmodifier
  obtain ⟨letter, hletter, hmem⟩ := (Option.any_eq_true _ _).mp hletter
  have hmeaning : d.meaning? m = m.meaning? letter := by
    rw [Directive.meaning?, hletter, hmodifier]
    rfl
  have hletters : letter ∈ ['Y', 'm', 'd', 'H', 'M', 'S'] := List.contains_iff_mem.mp hmem
  simp only [List.mem_cons, List.not_mem_nil, or_false] at hletters
  rw [hmeaning]
  rcases hletters with rfl | rfl | rfl | rfl | rfl | rfl
  all_goals exact ⟨_, _, _, rfl⟩

theorem Directive.mem_numberText {n : Int} {digits : Nat} {blank : Bool}
    (hc : c ∈ d.numberText n digits blank) :
    c = ' ' ∨ isPlainDigit c = true ∨ c ∈ numeralMarks := by
  have hblanks (width : Nat) : c ∈ Text.padLeft ' ' width (Text.ofInt n) →
      c = ' ' ∨ isPlainDigit c = true ∨ c ∈ numeralMarks := by
    intro hmem
    rcases List.mem_append.mp hmem with hmem | hmem
    · exact Or.inl (List.eq_of_mem_replicate hmem)
    · exact Or.inr (Text.isNumeral_ofInt n c hmem)
  unfold numberText at hc
  split at hc
  · exact hblanks _ hc
  · exact hblanks _ hc
  · have hsign : IsNumeral (if n < 0 then ['-'] else []) := by
      split
      · decide
      · decide
    have hdigits : IsNumeral (Text.padLeft '0' (max digits d.width -
        (if n < 0 then ['-'] else []).length) (Text.ofNat n.natAbs)) :=
      (Text.isNumeral_zeros _).append (Text.isNumeral_ofNat _)
    exact Or.inr ((hsign.append hdigits) c hc)

theorem Pattern.mem_text (h : p.all PatternPart.isNumeric) (hc : c ∈ p.text m) :
    .plain c ∈ p ∨ c = ' ' ∨ isPlainDigit c = true ∨ c ∈ numeralMarks := by
  obtain ⟨part, hpart, hc⟩ := List.mem_flatMap.mp hc
  cases part with
  | plain copied =>
    obtain rfl := List.mem_singleton.mp hc
    exact Or.inl hpart
  | directive d =>
    obtain ⟨n, digits, blank, hmeaning⟩ :=
      Directive.exists_number (List.all_eq_true.mp h _ hpart) m
    have htext : d.text m = d.numberText n digits blank := by rw [Directive.text, hmeaning]
    rw [partText, htext] at hc
    exact Or.inr (Directive.mem_numberText hc)

theorem Moment.mem_format (h : (partsOf pattern).all PatternPart.isNumeric)
    (hc : c ∈ m.format pattern) :
    .plain c ∈ partsOf pattern ∨ c = ' ' ∨ isPlainDigit c = true ∨ c ∈ numeralMarks := by
  unfold format at hc
  dsimp only at hc
  split at hc
  · exact Pattern.mem_text h hc
  · exact absurd hc List.not_mem_nil

/-- What no number has, and the pattern does not copy, does not come into its times. -/
theorem notMem_timeText (hne : pattern ≠ []) (h : (partsOf pattern).all PatternPart.isNumeric)
    (hplain : .plain c ∉ partsOf pattern) (hblank : c ≠ ' ') (hdigit : isPlainDigit c = false)
    (hmark : c ∉ numeralMarks) : c ∉ timeText pattern time := by
  have hpattern : ¬ pattern.isEmpty := by simpa using hne
  intro hc
  rw [timeText, if_neg hpattern] at hc
  rcases Moment.mem_format h hc with hcopied | hspace | hnumber | hsign
  · exact hplain hcopied
  · exact hblank hspace
  · rw [hdigit] at hnumber
    cases hnumber
  · exact hmark hsign

theorem isNumeric_filePattern : (partsOf filePattern).all PatternPart.isNumeric := by decide

theorem isNumeric_consolePattern : (partsOf consolePattern).all PatternPart.isNumeric := by decide

end ArenaData.Log
