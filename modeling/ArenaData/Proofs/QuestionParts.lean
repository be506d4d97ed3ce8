import ArenaData.Proofs.QuestionSegments
import Mathlib.Data.List.Perm.Basic

/-!
# The parts of a question

What the question of a segment is, without the reader: its description and its answers are the lines
that belong to them, and each answer names the category whose letter follows its first `(5`
(`IsQuestionOf`). A file has a question for each of its segments if every answer names a category,
and is refused otherwise; whatever is read from it has all of its lines.
-/

namespace ArenaData

/-- The letter that stands for a category in an answer. -/
def ClassCategory.letter : ClassCategory → Char
  | mage => 'l'
  | thief => 'c'
  | warrior => 'v'

namespace Question

open Text (newline ofLines Ended)

variable {t text rest : Text} {s : List Text} {segments : List (List Text)} {part : Part}
  {k : ClassCategory} {q : Question} {questions : List Question}

/-- The first `(5` of the text is followed by the letter of the category. -/
def SpeaksFor (text : Text) (category : ClassCategory) : Prop :=
  ∃ front back, text = front ++ '(' :: '5' :: category.letter :: back ∧ ¬ ['(', '5'] <:+: front

/-- The text of a part of a segment. -/
def textOf (part : Part) (s : List Text) : Text := ofLines (linesOf part s)

/-- The question has the texts of the segment, and its answers speak for their categories. -/
structure IsQuestionOf (s : List Text) (q : Question) : Prop where
  description : q.description = textOf .description s
  a : q.a.text = textOf .a s
  b : q.b.text = textOf .b s
  c : q.c.text = textOf .c s
  category_a : SpeaksFor q.a.text q.a.category
  category_b : SpeaksFor q.b.text q.b.category
  category_c : SpeaksFor q.c.text q.c.category

/-- The questions written down again, each with its answers in order. -/
def write (questions : List Question) : Text :=
  questions.flatMap fun q => q.description ++ q.a.text ++ q.b.text ++ q.c.text

/-! ## Categories -/

theorem afterMarker?_eq_some_iff : afterMarker? text = some rest ↔
    ∃ front, text = front ++ '(' :: '5' :: rest ∧ ¬ ['(', '5'] <:+: front := by
  constructor
  · intro h
    fun_induction afterMarker? text with
    | case1 behind =>
      obtain rfl := Option.some.inj h
      exact ⟨[], rfl, by simp⟩
    | case2 c behind hno ih =>
      obtain ⟨front, rfl, hfront⟩ := ih h
      refine ⟨c :: front, rfl, ?_⟩
      rw [List.infix_cons_iff]
      rintro (⟨back, hback⟩ | hinfix)
      · obtain ⟨hopen, hfive⟩ := List.cons.inj hback
        exact hno (back ++ '(' :: '5' :: rest) hopen.symm (by rw [← hfive]; rfl)
      · exact hfront hinfix
    | case3 => cases h
  · rintro ⟨front, rfl, hfront⟩
    induction front with
    | nil => rfl
    | cons c front ih =>
      rw [List.infix_cons_iff, not_or] at hfront
      have hno : ∀ behind, c = '(' → front ++ '(' :: '5' :: rest = '5' :: behind → False := by
        rintro behind rfl hbehind
        cases front with
        | nil => cases hbehind
        | cons d front =>
          obtain rfl : d = '5' := (List.cons.inj hbehind).1
          exact hfront.1 ⟨front, rfl⟩
      rw [List.cons_append, afterMarker?.eq_2 _ _ hno, ih hfront.2]

theorem categoryOf?_eq_some_iff {code : Char} :
    categoryOf? code = some k ↔ code = k.letter := by
  constructor
  · intro h
    unfold categoryOf? at h
    split at h
    · obtain rfl := Option.some.inj h
      assumption
    · split at h
      · obtain rfl := Option.some.inj h
        assumption
      · split at h
        · obtain rfl := Option.some.inj h
          assumption
        · cases h
  · rintro rfl
    cases k <;> rfl

theorem category_eq_ok_iff : category text = .ok k ↔ SpeaksFor text k := by
  constructor
  · intro h
    unfold category at h
    split at h
    · rename_i code back hmarker
      split at h
      · rename_i found hfound
        obtain rfl := Except.ok.inj h
        obtain rfl := categoryOf?_eq_some_iff.mp hfound
        obtain ⟨front, rfl, hfront⟩ := afterMarker?_eq_some_iff.mp hmarker
        exact ⟨front, back, rfl, hfront⟩
      · cases h
    · cases h
  · rintro ⟨front, back, rfl, hfront⟩
    have hmarker : afterMarker? (front ++ '(' :: '5' :: k.letter :: back) =
        some (k.letter :: back) := afterMarker?_eq_some_iff.mpr ⟨front, rfl, hfront⟩
    have hfound : categoryOf? k.letter = some k := categoryOf?_eq_some_iff.mpr rfl
    rw [category, hmarker]
    simp only [hfound]

/-! ## The question of a segment -/

theorem text_reverse (lines : List Text) : Draft.text lines.reverse = ofLines lines := by
  rw [Draft.text, List.reverse_reverse, ofLines]

theorem answer_eq_ok_iff {lines : List Text} {answer : Answer} :
    Draft.answer lines.reverse = .ok answer ↔
      answer.text = ofLines lines ∧ SpeaksFor answer.text answer.category := by
  rw [Draft.answer, text_reverse, bind_eq_ok]
  constructor
  · rintro ⟨found, hfound, hanswer⟩
    obtain rfl := Except.ok.inj hanswer
    exact ⟨rfl, category_eq_ok_iff.mp hfound⟩
  · rintro ⟨htext, hcategory⟩
    refine ⟨answer.category, category_eq_ok_iff.mpr (htext ▸ hcategory), ?_⟩
    rw [← htext]
    rfl

theorem questionOf_eq_ok_iff : questionOf s = .ok q ↔ IsQuestionOf s q := by
  unfold questionOf Draft.question
  constructor
  · intro h
    obtain ⟨a, ha, h⟩ := bind_eq_ok.mp h
    obtain ⟨b, hb, h⟩ := bind_eq_ok.mp h
    obtain ⟨c, hc, h⟩ := bind_eq_ok.mp h
    obtain rfl := Except.ok.inj h
    obtain ⟨htexta, ha⟩ := answer_eq_ok_iff.mp ha
    obtain ⟨htextb, hb⟩ := answer_eq_ok_iff.mp hb
    obtain ⟨htextc, hc⟩ := answer_eq_ok_iff.mp hc
    exact ⟨text_reverse _, htexta, htextb, htextc, ha, hb, hc⟩
  · intro h
    have ha := answer_eq_ok_iff.mpr ⟨h.a, h.category_a⟩
    have hb := answer_eq_ok_iff.mpr ⟨h.b, h.category_b⟩
    have hc := answer_eq_ok_iff.mpr ⟨h.c, h.category_c⟩
    refine bind_eq_ok.mpr ⟨q.a, ha, bind_eq_ok.mpr ⟨q.b, hb, bind_eq_ok.mpr ⟨q.c, hc, ?_⟩⟩⟩
    have hdescription : Draft.text (draftOf s).description = q.description :=
      (text_reverse _).trans h.description.symm
    rw [hdescription]
    rfl

theorem exists_questionOf_iff : (∃ q, questionOf s = .ok q) ↔
    ∀ part, part ≠ .description → ∃ category, SpeaksFor (textOf part s) category := by
  simp only [questionOf_eq_ok_iff]
  constructor
  · rintro ⟨q, h⟩ part hpart
    cases part with
    | description => exact absurd rfl hpart
    | a => exact ⟨q.a.category, h.a ▸ h.category_a⟩
    | b => exact ⟨q.b.category, h.b ▸ h.category_b⟩
    | c => exact ⟨q.c.category, h.c ▸ h.category_c⟩
  · intro h
    obtain ⟨a, ha⟩ := h .a (by simp)
    obtain ⟨b, hb⟩ := h .b (by simp)
    obtain ⟨c, hc⟩ := h .c (by simp)
    exact ⟨⟨textOf .description s, ⟨_, a⟩, ⟨_, b⟩, ⟨_, c⟩⟩, rfl, rfl, rfl, rfl, ha, hb, hc⟩

/-! ## All lines of a file -/

theorem write_eq_ofLines (h : List.Forall₂ IsQuestionOf segments questions) :
    write questions = ofLines (segments.flatMap sorted) := by
  induction h with
  | nil => rfl
  | cons hq _ ih =>
    rw [List.flatMap_cons, Text.ofLines_append, ← ih, write, List.flatMap_cons]
    simp only [hq.description, hq.a, hq.b, hq.c, textOf, sorted, Text.ofLines_append]
    rfl

theorem perm_flatMap_sorted (segments : List (List Text)) :
    (segments.flatMap sorted).Perm segments.flatten := by
  have hsegments : (segments.flatMap sorted).Perm (segments.flatMap id) :=
    List.Perm.flatMap_left segments fun s _ => perm_sorted s
  rwa [List.flatMap_id] at hsegments

theorem lines_write (hcut : IsCut t.lines segments)
    (h : List.Forall₂ IsQuestionOf segments questions) :
    (write questions).lines = segments.flatMap sorted := by
  rw [write_eq_ofLines h]
  refine Text.lines_ofLines fun line hline => ?_
  have hmem := (perm_flatMap_sorted segments).mem_iff.mp hline
  rw [hcut.flatten_eq] at hmem
  exact (Text.exists_of_mem_lines hmem).1

theorem parse_eq_ok_iff (hcut : IsCut t.lines segments) :
    parse t = .ok questions ↔ List.Forall₂ IsQuestionOf segments questions := by
  simp only [parse_eq_mapM hcut, mapM_eq_ok, questionOf_eq_ok_iff]

/-- A file has one cut into segments. Its questions are theirs, in order, if every answer of every
segment speaks for a category, and otherwise it is refused for its categories; no line of it gets
lost or comes twice. -/
theorem parse_segments (t : Text) : ∃ segments,
    (∀ s, IsCut t.lines s ↔ s = segments) ∧
    ((∃ questions, parse t = .ok questions) ↔ ∀ s ∈ segments, ∀ part, part ≠ .description →
      ∃ category, SpeaksFor (textOf part s) category) ∧
    (Fails .unrecognizedCategoryCode (parse t) ↔ ∃ s ∈ segments, ∃ part, part ≠ .description ∧
      ∀ category, ¬ SpeaksFor (textOf part s) category) ∧
    (∀ questions, parse t = .ok questions ↔ List.Forall₂ IsQuestionOf segments questions) ∧
    (∀ questions, parse t = .ok questions → (write questions).lines.Perm t.lines) ∧
    parse [] = .ok [] := by
  obtain ⟨segments, hcut⟩ := exists_isCut t.lines
  have hquestions : (∃ questions, parse t = .ok questions) ↔ ∀ s ∈ segments, ∀ part,
      part ≠ .description → ∃ category, SpeaksFor (textOf part s) category := by
    simp only [parse_eq_mapM hcut, exists_mapM_eq_ok_iff, exists_questionOf_iff]
  refine ⟨segments, ?_, hquestions, ?_, fun _ => parse_eq_ok_iff hcut, ?_, rfl⟩
  · intro s
    constructor
    · intro h
      exact hcut.unique h
    · rintro rfl
      exact hcut
  · rw [(parse_faults t).fails_iff, hquestions]
    push Not
    rfl
  · intro questions h
    have hsegments := (parse_eq_ok_iff hcut).mp h
    rw [lines_write hcut hsegments, ← hcut.flatten_eq]
    exact perm_flatMap_sorted segments

/-- A number in the question itself, answers out of order, one of them in two pieces, and a second
question whose last line has no line feed. -/
theorem parse_of_mixed_segments :
    let text : Text := "1 or\n2?\nb (5c\na (5l\n\nc (5v\nb\n3\na (5v(5l\nb (5v\nc (5l".toList
    let first : List Text :=
      ["1 or", "2?", "b (5c", "a (5l", "", "c (5v", "b"].map String.toList
    let second : List Text := ["3", "a (5v(5l", "b (5v", "c (5l"].map String.toList
    let questions : List Question :=
      [⟨"1 or\n2?\n".toList, ⟨"a (5l\n\n".toList, .mage⟩, ⟨"b (5c\nb\n".toList, .thief⟩,
          ⟨"c (5v\n".toList, .warrior⟩⟩,
        ⟨"3\n".toList, ⟨"a (5v(5l\n".toList, .warrior⟩, ⟨"b (5v\n".toList, .warrior⟩,
          ⟨"c (5l\n".toList, .mage⟩⟩]
    IsCut text.lines [first, second] ∧ parse text = .ok questions ∧
      List.Forall₂ IsQuestionOf [first, second] questions ∧
      (write questions).lines.Perm text.lines := by
  intro text first second questions
  have hlines : text.lines = first ++ second := rfl
  have hcut : IsCut text.lines [first, second] := by
    rw [hlines]
    decide
  have hread : parse text = .ok questions := rfl
  obtain ⟨segments, hunique, -, -, hquestions, hperm, -⟩ := parse_segments text
  obtain rfl := (hunique _).mp hcut
  exact ⟨hcut, hread, (hquestions _).mp hread, hperm _ hread⟩

end Question

end ArenaData
