import ArenaData.Json.Reader
import ArenaData.Json.Writer
import ArenaData.Proofs.Numerals
import Mathlib.Data.List.TakeDrop
import Mathlib.Data.List.TakeWhile
import Mathlib.Tactic.SplitIfs

/-!
# Scanning what has been written

The scanner reads one character at a time, and a word or numeral is complete only when a character
comes that cannot belong to it. So what the scanner makes of a piece of text depends on what follows
the piece: `run?` is the scanner from some state to the end of a text, and each lemma here says that
a piece in front of a text amounts to its tokens. Behind words and numerals the text has to go on
with a character that ends them (`Ends`).
-/

namespace ArenaData.Json

variable {c : Char} {t letters digits done : Text} {tokens : List Token}

theorem isLetter_iff : isLetter c = true ↔
    (0x61 ≤ c.toNat ∧ c.toNat ≤ 0x7A) ∨ (0x41 ≤ c.toNat ∧ c.toNat ≤ 0x5A) := by
  simp [isLetter, Char.le_def, UInt32.le_iff_toNat_le]

/-! ## Integers in decimal -/

namespace Numeral

/-- The numeral of an integer. -/
def ofInt (n : Int) : Numeral where
  negative := decide (n < 0)
  digits := Text.ofNat n.natAbs
  exponent := 0
  places := (Text.ofNat n.natAbs).length
  whole := true

theorem plainNumber_ofNat (n : Nat) : plainNumber (Text.ofNat n) = n :=
  Nat.ofDigitChars_ten_toDigits

/-- Only zero is written with a zero in front. -/
theorem head?_ofNat {n : Nat} (h : 0 < n) : (Text.ofNat n).head? ≠ some '0' := by
  unfold Text.ofNat
  induction n using Nat.base_induction 10 (by decide) with
  | single m hm =>
    have hdigits : ∀ m < 10, 0 < m → Nat.digitChar m ≠ '0' := by decide
    rw [Nat.toDigits_of_lt_base hm]
    simpa using hdigits m hm h
  | digit m k hk hm ih =>
    obtain ⟨first, rest, hfirst⟩ :=
      List.exists_cons_of_ne_nil (Nat.toDigits_ne_nil (n := m) (b := 10))
    have hhead := ih hm
    rw [← Nat.toDigits_append_toDigits (by decide) hm hk, hfirst]
    rw [hfirst] at hhead
    exact hhead

theorem digits?_ofNat (n : Nat) : digits? (Text.ofNat n) = some (Text.ofNat n, []) := by
  have hall : ∀ c ∈ Text.ofNat n, isPlainDigit c = true :=
    fun _ hc => Text.isPlainDigit_of_mem_ofNat hc
  have hne : (Text.ofNat n).isEmpty = false := by simp [Text.ofNat]
  rw [digits?, List.span_eq_takeWhile_dropWhile, List.takeWhile_eq_self_iff.mpr hall,
    List.dropWhile_eq_nil_iff.mpr hall]
  simp [hne]

theorem ofText?_ofInt (n : Int) : ofText? (Text.ofInt n) = some (ofInt n) := by
  have hlead : ¬ (1 < (Text.ofNat n.natAbs).length ∧ (Text.ofNat n.natAbs).head? = some '0') := by
    rintro ⟨hlong, hzero⟩
    rcases Nat.eq_zero_or_pos n.natAbs with hn | hn
    · rw [hn] at hlong
      exact absurd hlong (by decide)
    · exact head?_ofNat hn hzero
  by_cases hn : n < 0
  · have htext : Text.ofInt n = '-' :: Text.ofNat n.natAbs := if_pos hn
    rw [htext]
    simp [ofText?, digits?_ofNat, hlead, fraction?, exponent?, ofInt, hn]
  · have htext : Text.ofInt n = Text.ofNat n.natAbs := if_neg hn
    have hsign : ∀ rest, Text.ofNat n.natAbs ≠ '-' :: rest := by
      intro rest hrest
      have hminus : isPlainDigit '-' = true :=
        Text.isPlainDigit_of_mem_ofNat (n := n.natAbs) (hrest ▸ List.mem_cons_self)
      cases hminus
    rw [htext, ofText?.eq_2 _ hsign]
    simp [digits?_ofNat, hlead, fraction?, exponent?, ofInt, hn]

/-- An integer of 64 bits is read as it is. -/
theorem bounded?_ofInt {n : Int} (hmin : minInteger ≤ n) (hmax : n ≤ maxInteger) :
    bounded? (ofInt n) = some (.int n) := by
  have hinteger : (ofInt n).integer = n := by
    rw [integer, ofInt]
    simp only [plainNumber_ofNat, decide_eq_true_eq]
    split
    · omega
    · omega
  have hlength : (ofInt n).digits.length ≤ 20 := by
    have hsize : n.natAbs < 10 ^ 20 := by
      rw [minInteger] at hmin
      rw [maxInteger] at hmax
      omega
    exact (Nat.length_toDigits_le_iff (by decide) (by decide)).mpr hsize
  have hword : integer64? (ofInt n) = some n := by
    have hwhole : (ofInt n).whole = true := rfl
    rw [integer64?, hinteger, hwhole]
    simp [hmin, hmax, hlength]
  rw [bounded?, hword]

end Numeral

namespace Scan

/-- The tokens found once the text has been read from this state on. -/
def run? (s : Scan) (t : Text) : Option (List Token) := do
  let last ← t.foldlM step? s
  let closed ← last.close?
  pure closed.tokens.reverse

theorem run?_cons (s : Scan) (c : Char) (t : Text) :
    run? s (c :: t) = (s.step? c).bind (run? · t) := by
  rw [run?, List.foldlM_cons]
  cases s.step? c with
  | none => rfl
  | some next => rfl

theorem run?_of_step {s next : Scan} (h : s.step? c = some next) :
    run? s (c :: t) = run? next t := by
  rw [run?_cons, h, Option.bind_some]

/-! ## Between tokens -/

theorem run?_separators {blanks : Text} (h : ∀ c ∈ blanks, isSeparator c = true) :
    run? ⟨tokens, .between⟩ (blanks ++ t) = run? ⟨tokens, .between⟩ t := by
  induction blanks with
  | nil => rfl
  | cons c blanks ih =>
    obtain ⟨hc, hblanks⟩ := List.forall_mem_cons.mp h
    have hstep : step? ⟨tokens, .between⟩ c = some ⟨tokens, .between⟩ := if_pos hc
    rw [List.cons_append, run?_of_step hstep, ih hblanks]

theorem run?_lineBreak (level : Nat) :
    run? ⟨tokens, .between⟩ (lineBreak level ++ t) = run? ⟨tokens, .between⟩ t := by
  refine run?_separators fun c hc => ?_
  rcases List.mem_cons.mp hc with rfl | hc
  · rfl
  · rw [List.eq_of_mem_replicate hc]
    rfl

theorem run?_punctuation {token : Token} (hc : isSeparator c = false)
    (h : punctuation? c = some token) :
    run? ⟨tokens, .between⟩ (c :: t) = run? ⟨token :: tokens, .between⟩ t := by
  have hstep : step? ⟨tokens, .between⟩ c = some ⟨token :: tokens, .between⟩ := by
    show begin? tokens c = _
    rw [begin?, hc, h]
    rfl
  exact run?_of_step hstep

/-! ## Words -/

/-- No word or numeral goes on with this text. -/
def Ends (t : Text) : Prop := ∀ c ∈ t.head?, isLetter c = false ∧ inNumeral c = false

theorem ends_cons : Ends (c :: t) ↔ isLetter c = false ∧ inNumeral c = false := by
  simp [Ends]

theorem run?_close_word (h : Ends t) :
    run? ⟨tokens, .word letters⟩ t = run? ⟨.word letters.reverse :: tokens, .between⟩ t := by
  cases t with
  | nil => rfl
  | cons c t =>
    obtain ⟨hletter, -⟩ := ends_cons.mp h
    have hstep : step? ⟨tokens, .word letters⟩ c = begin? (.word letters.reverse :: tokens) c := by
      show (if isLetter c = true then _ else _) = _
      rw [hletter]
      rfl
    rw [run?_cons, run?_cons, hstep]
    rfl

theorem run?_letters (hletters : ∀ c ∈ letters, isLetter c = true) (h : Ends t) :
    run? ⟨tokens, .word done⟩ (letters ++ t) =
      run? ⟨.word (done.reverse ++ letters) :: tokens, .between⟩ t := by
  induction letters generalizing done with
  | nil => rw [List.nil_append, run?_close_word h, List.append_nil]
  | cons c letters ih =>
    obtain ⟨hc, hletters⟩ := List.forall_mem_cons.mp hletters
    have hstep : step? ⟨tokens, .word done⟩ c = some ⟨tokens, .word (c :: done)⟩ := if_pos hc
    rw [List.cons_append, run?_of_step hstep, ih hletters]
    simp

/-- The characters that are told apart before words and numerals are thought of. -/
def marks : Text := [' ', '\t', '\n', '\r', '[', ']', '\x7b', '\x7d', ':', ',', '\x22']

theorem begin?_of_notMem_marks (h : c ∉ marks) : begin? tokens c =
    if c = '-' ∨ isPlainDigit c = true then some ⟨tokens, .numeral [c]⟩
    else if isLetter c = true then some ⟨tokens, .word [c]⟩ else none := by
  simp only [marks, List.mem_cons, List.not_mem_nil, or_false, not_or] at h
  obtain ⟨h1, h2, h3, h4, h5, h6, h7, h8, h9, h10, h11⟩ := h
  have hseparator : isSeparator c = false := by simp [isSeparator, h1, h2, h3, h4]
  have hpunctuation : punctuation? c = none := by simp [punctuation?, h5, h6, h7, h8, h9, h10]
  rw [begin?, hseparator, hpunctuation]
  simp only [Bool.false_eq_true, if_false, h11]

theorem begin?_letter (h : isLetter c = true) : begin? tokens c = some ⟨tokens, .word [c]⟩ := by
  have hmarks : ∀ d ∈ '-' :: marks, isLetter d = false := by simp [marks, isLetter]
  have hc : c ∉ '-' :: marks := fun hmem => by simp [hmarks c hmem] at h
  rw [List.mem_cons, not_or] at hc
  have hdigit : isPlainDigit c = false := by
    rw [isLetter_iff] at h
    rw [Bool.eq_false_iff, ne_eq, isPlainDigit_iff]
    omega
  rw [begin?_of_notMem_marks hc.2]
  simp [hc.1, hdigit, h]

theorem begin?_digit (h : isPlainDigit c = true) :
    begin? tokens c = some ⟨tokens, .numeral [c]⟩ := by
  have hmarks : ∀ d ∈ marks, isPlainDigit d = false := by simp [marks, isPlainDigit]
  have hc : c ∉ marks := fun hmem => by simp [hmarks c hmem] at h
  rw [begin?_of_notMem_marks hc, if_pos (Or.inr h)]

theorem run?_word (hne : letters ≠ []) (hletters : ∀ c ∈ letters, isLetter c = true) (h : Ends t) :
    run? ⟨tokens, .between⟩ (letters ++ t) = run? ⟨.word letters :: tokens, .between⟩ t := by
  obtain ⟨c, rest, rfl⟩ := List.exists_cons_of_ne_nil hne
  obtain ⟨hc, hrest⟩ := List.forall_mem_cons.mp hletters
  have hstep : step? ⟨tokens, .between⟩ c = some ⟨tokens, .word [c]⟩ := begin?_letter hc
  rw [List.cons_append, run?_of_step hstep, run?_letters hrest h]
  rfl

/-! ## Numerals -/

theorem run?_close_numeral (h : Ends t) : run? ⟨tokens, .numeral done⟩ t =
    (Numeral.ofText? done.reverse).bind fun n => run? ⟨.numeral n :: tokens, .between⟩ t := by
  cases t with
  | nil =>
    show ((Numeral.ofText? done.reverse).map _).bind _ = _
    cases Numeral.ofText? done.reverse with
    | none => rfl
    | some n => rfl
  | cons c t =>
    obtain ⟨hletter, hnumeral⟩ := ends_cons.mp h
    have hstep : step? ⟨tokens, .numeral done⟩ c =
        (Numeral.ofText? done.reverse).bind fun n => begin? (.numeral n :: tokens) c := by
      simp only [step?, hletter, hnumeral, close?, Bool.false_eq_true, and_false, if_false]
      cases Numeral.ofText? done.reverse with
      | none => rfl
      | some n => rfl
    rw [run?_cons, hstep]
    cases Numeral.ofText? done.reverse with
    | none => rfl
    | some n =>
      show (begin? (.numeral n :: tokens) c).bind _ = run? ⟨.numeral n :: tokens, .between⟩ (c :: t)
      rw [run?_cons]
      rfl

theorem run?_digits (hdigits : ∀ c ∈ digits, isPlainDigit c = true) (h : Ends t) :
    run? ⟨tokens, .numeral done⟩ (digits ++ t) =
      (Numeral.ofText? (done.reverse ++ digits)).bind fun n =>
        run? ⟨.numeral n :: tokens, .between⟩ t := by
  induction digits generalizing done with
  | nil => rw [List.nil_append, run?_close_numeral h, List.append_nil]
  | cons c digits ih =>
    obtain ⟨hc, hdigits⟩ := List.forall_mem_cons.mp hdigits
    have hletter : isLetter c = false := by
      rw [isPlainDigit_iff] at hc
      rw [Bool.eq_false_iff, ne_eq, isLetter_iff]
      omega
    have hnumeral : inNumeral c = true := by
      rw [inNumeral, hc]
      rfl
    have hstep : step? ⟨tokens, .numeral done⟩ c = some ⟨tokens, .numeral (c :: done)⟩ := by
      simp [step?, hletter, hnumeral]
    rw [List.cons_append, run?_of_step hstep, ih hdigits]
    simp

theorem run?_integer (n : Int) (h : Ends t) : run? ⟨tokens, .between⟩ (Text.ofInt n ++ t) =
    run? ⟨.numeral (.ofInt n) :: tokens, .between⟩ t := by
  have hspelled := Numeral.ofText?_ofInt n
  obtain ⟨c, digits, htext, hc, hdigits⟩ : ∃ c digits, Text.ofInt n = c :: digits ∧
      (c = '-' ∨ isPlainDigit c = true) ∧ ∀ d ∈ digits, isPlainDigit d = true := by
    have hall : ∀ d ∈ Text.ofNat n.natAbs, isPlainDigit d = true :=
      fun d hd => Text.isPlainDigit_of_mem_ofNat hd
    rw [Text.ofInt]
    split
    · exact ⟨'-', _, rfl, Or.inl rfl, hall⟩
    · obtain ⟨first, rest, hfirst⟩ :=
        List.exists_cons_of_ne_nil (Nat.toDigits_ne_nil (n := n.natAbs) (b := 10))
      rw [Text.ofNat, hfirst] at hall ⊢
      obtain ⟨hc, hdigits⟩ := List.forall_mem_cons.mp hall
      exact ⟨first, rest, rfl, Or.inr hc, hdigits⟩
  have hstep : step? ⟨tokens, .between⟩ c = some ⟨tokens, .numeral [c]⟩ := by
    rcases hc with rfl | hc
    · rfl
    · exact begin?_digit hc
  rw [htext] at hspelled
  rw [htext, List.cons_append, run?_of_step hstep, run?_digits hdigits h]
  show (Numeral.ofText? (c :: digits)).bind _ = _
  rw [hspelled, Option.bind_some]

/-! ## Strings -/

/-- Four hexadecimal digits of a number below 256 spell the character of this number. -/
theorem foldlM_unicode {a b : Nat}
    (hdigits : digits.map hexValue? = [some 0, some 0, some a, some b])
    (hsize : 16 * a + b < 0xD800) :
    digits.foldlM step? ⟨tokens, .unicode done none 4 0⟩ =
      some ⟨tokens, .string (Char.ofNat (16 * a + b) :: done)⟩ := by
  simp only [List.map_eq_cons_iff, List.map_eq_nil_iff] at hdigits
  obtain ⟨w, _, rfl, hw, x, _, rfl, hx, y, _, rfl, hy, z, _, rfl, hz, rfl⟩ := hdigits
  have hhigh : ¬ (0xD800 ≤ 16 * a + b ∧ 16 * a + b ≤ 0xDBFF) := by omega
  have hlow : ¬ (0xDC00 ≤ 16 * a + b ∧ 16 * a + b ≤ 0xDFFF) := by omega
  simp [step?, hw, hx, hy, hz, afterUnicode, hhigh, hlow]

theorem hexValue?_hex : ∀ n < 0x20,
    (Text.hex 4 n).map hexValue? = [some 0, some 0, some (n / 16), some (n % 16)] := by
  decide

/-- A character comes back from how it stands in a string. -/
theorem foldlM_stringChar (c : Char) :
    (stringChar c).foldlM step? ⟨tokens, .string done⟩ = some ⟨tokens, .string (c :: done)⟩ := by
  unfold stringChar
  split_ifs with hquote hb hf hn hr ht hcontrol
  · rcases hquote with rfl | rfl
    · rfl
    · rfl
  · rw [hb]
    rfl
  · rw [hf]
    rfl
  · rw [hn]
    rfl
  · rw [hr]
    rfl
  · rw [ht]
    rfl
  · have hvalue : 16 * (c.toNat / 16) + c.toNat % 16 = c.toNat := Nat.div_add_mod _ _
    have hunicode : (Text.hex 4 c.toNat).foldlM step? ⟨tokens, .unicode done none 4 0⟩ =
        some ⟨tokens, .string (c :: done)⟩ := by
      rw [foldlM_unicode (hexValue?_hex c.toNat hcontrol) (by omega), hvalue, Char.ofNat_toNat]
    exact hunicode
  · rw [not_or] at hquote
    simp [step?, hquote, hcontrol]

theorem run?_string (body : Text) :
    run? ⟨tokens, .string done⟩ (body.flatMap stringChar ++ '\x22' :: t) =
      run? ⟨.text (done.reverse ++ body) :: tokens, .between⟩ t := by
  induction body generalizing done with
  | nil =>
    rw [List.append_nil]
    exact run?_of_step rfl
  | cons c body ih =>
    have hchar : run? ⟨tokens, .string done⟩
        (stringChar c ++ (body.flatMap stringChar ++ '\x22' :: t)) =
          run? ⟨tokens, .string (c :: done)⟩ (body.flatMap stringChar ++ '\x22' :: t) := by
      rw [run?, List.foldlM_append, foldlM_stringChar]
      rfl
    rw [List.flatMap_cons, List.append_assoc, hchar, ih]
    simp

theorem run?_stringLiteral (body : Text) :
    run? ⟨tokens, .between⟩ (stringLiteral body ++ t) =
      run? ⟨.text body :: tokens, .between⟩ t := by
  have hopen : step? ⟨tokens, .between⟩ '\x22' = some ⟨tokens, .string []⟩ := rfl
  rw [stringLiteral, List.cons_append, run?_of_step hopen, List.append_assoc]
  exact run?_string body

end Scan

end ArenaData.Json
