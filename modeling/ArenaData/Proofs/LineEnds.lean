import ArenaData.Proofs.DungeonBlocks
import ArenaData.Proofs.PairedReturns
import ArenaData.Proofs.QuestionRoundTrip
import ArenaData.Proofs.TemplateSections

/-!
# Line ends

The game's texts come with line feeds as line ends, or with a carriage return before each of them.
The readers of templates and dungeons make nothing of the difference; the quiz keeps the carriage
returns in its texts, but goes by the same lines and finds the same categories. It makes no
difference either whether a text keeps to one of the two conventions, so everything but the last
theorem is said of texts whose carriage returns are paired.

Templates are compared by the entries of their sections and the quiz by its segments; the reader of
dungeons does the same with a line whether or not a return ends it.
-/

namespace ArenaData

open Text (newline carriageReturn ofLines Paired ReturnsLast withReturns withoutReturns)

variable {t u line : Text} {lines : List Text}

/-! ## Templates -/

namespace Template

theorem parse_eq_firsts {preamble : List Text} {sections : List Section}
    (h : IsCut t.lines preamble sections) : parse t =
      Keyed.firsts Prod.fst ((sections.map Section.entry).filter fun entry => entry.1 ≠ []) := by
  rw [parse_of_isCut h, List.filter_map, Keyed.firsts_map]
  rfl

theorem isKeyLine_withoutReturns (h : ReturnsLast line) :
    IsKeyLine (withoutReturns line) ↔ IsKeyLine line := h.head?_eq_some_iff (by decide)

/-- A section without its returns has the same key and the same text. -/
theorem Section.exists_withoutReturns (s : Section) (h : ∀ line ∈ s.lines, ReturnsLast line) :
    ∃ plain : Section, plain.lines = s.lines.map withoutReturns ∧ plain.entry = s.entry := by
  obtain ⟨hheader, hbody⟩ := List.forall_mem_cons.mp h
  have hplain : ∀ line ∈ s.body.map withoutReturns, ¬ IsKeyLine line := by
    intro line hline
    obtain ⟨other, hother, rfl⟩ := List.mem_map.mp hline
    rw [isKeyLine_withoutReturns (hbody other hother)]
    exact s.plain other hother
  refine ⟨⟨withoutReturns s.header, s.body.map withoutReturns, hplain⟩, ?_, ?_⟩
  · rw [Section.lines, Section.lines, List.map_cons, Text.withoutReturns_cons (by decide)]
  · have htext : clean (ofLines (s.body.map withoutReturns)) = clean s.text := by
      rw [← Text.withoutReturns_ofLines, clean,
        Text.normalizeNewlines_withoutReturns (Text.paired_ofLines hbody)]
      rfl
    exact Prod.ext hheader.of_cons.trim htext

theorem exists_isCut_withoutReturns {preamble : List Text} {sections : List Section}
    (hlines : ∀ line ∈ lines, ReturnsLast line) (h : IsCut lines preamble sections) :
    ∃ plain, IsCut (lines.map withoutReturns) (preamble.map withoutReturns) plain ∧
      plain.map Section.entry = sections.map Section.entry := by
  obtain ⟨rfl, hpreamble⟩ := h
  obtain ⟨hbefore, hsections⟩ := List.forall_mem_append.mp hlines
  have hmarks : ∀ line ∈ preamble.map withoutReturns, ¬ IsKeyLine line := by
    intro line hline
    obtain ⟨other, hother, rfl⟩ := List.mem_map.mp hline
    rw [isKeyLine_withoutReturns (hbefore other hother)]
    exact hpreamble other hother
  have hplain : ∃ plain : List Section, plain.flatMap Section.lines =
      (sections.flatMap Section.lines).map withoutReturns ∧
        plain.map Section.entry = sections.map Section.entry := by
    clear hlines
    induction sections with
    | nil => exact ⟨[], rfl, rfl⟩
    | cons s sections ih =>
      rw [List.flatMap_cons, List.forall_mem_append] at hsections
      obtain ⟨first, hfirst, hentry⟩ := s.exists_withoutReturns hsections.1
      obtain ⟨others, hothers, hentries⟩ := ih hsections.2
      refine ⟨first :: others, ?_, ?_⟩
      · rw [List.flatMap_cons, List.flatMap_cons, List.map_append, hfirst, hothers]
      · rw [List.map_cons, List.map_cons, hentry, hentries]
  obtain ⟨plain, hflat, hentries⟩ := hplain
  exact ⟨plain, ⟨by rw [List.map_append, hflat], hmarks⟩, hentries⟩

theorem parse_withoutReturns (h : Paired u) : parse u.withoutReturns = parse u := by
  obtain ⟨preamble, sections, hcut⟩ := exists_isCut u.lines
  obtain ⟨plain, hplain, hentries⟩ := exists_isCut_withoutReturns h.returnsLast_of_mem_lines hcut
  rw [← Text.lines_withoutReturns h] at hplain
  rw [parse_eq_firsts hplain, parse_eq_firsts hcut, hentries]

end Template

/-! ## Dungeons -/

namespace Dungeon

variable {r : Reading}

theorem Reading.step_withoutReturns (r : Reading) (h : ReturnsLast line) :
    r.step (withoutReturns line) = r.step line := by
  have hmark : (withoutReturns line).head? = some '#' ↔ line.head? = some '#' :=
    h.head?_eq_some_iff (by decide)
  by_cases hline : line.head? = some '#'
  · obtain ⟨rest, rfl⟩ := List.head?_eq_some_iff.mp hline
    obtain ⟨other, hother⟩ := List.head?_eq_some_iff.mp (hmark.mpr hline)
    rw [hother]
    rfl
  · have hplain := beq_eq_false_iff_ne.mpr hline
    have hplain' := beq_eq_false_iff_ne.mpr (hmark.not.mpr hline)
    rw [step_of_plain hplain, step_of_plain hplain', h.erase, h.normalizeNewlines]

theorem parse_withoutReturns (h : Paired u) : parse u.withoutReturns = parse u := by
  have hlines : (u.lines.map withoutReturns).foldl Reading.step Reading.start =
      u.lines.foldl Reading.step Reading.start := by
    rw [List.foldl_map]
    exact List.foldl_ext _ _ _ fun r line hline =>
      r.step_withoutReturns (h.returnsLast_of_mem_lines line hline)
  rw [parse, Text.lines_withoutReturns h, hlines, parse]

end Dungeon

/-! ## The class quiz -/

/-- The answer without the carriage returns of its text. -/
def Answer.withoutReturns (a : Answer) : Answer := { a with text := a.text.withoutReturns }

namespace Question

variable {f : Text → Text} {s : List Text} {segments : List (List Text)} {part : Part}
  {text : Text} {k : ClassCategory} {q : Question} {questions : List Question}

/-! ### Lines that open the same -/

theorem opened?_cons (c : Char) (s t : Text) : opened? (c :: s) = opened? (c :: t) := by
  unfold opened?
  split <;> simp_all

theorem opened?_withoutReturns (h : ReturnsLast line) :
    opened? (Text.withoutReturns line) = opened? line := by
  rcases h.withoutReturns_eq with heq | heq
  · rw [← heq]
  · conv_rhs => rw [heq]
    cases Text.withoutReturns line with
    | nil => rfl
    | cons c rest => exact opened?_cons c _ _

theorem isNumbered_withoutReturns (h : ReturnsLast line) :
    IsNumbered (Text.withoutReturns line) ↔ IsNumbered line := by
  have hdigit (digit : Char) (hplain : isPlainDigit digit) :
      (Text.withoutReturns line).head? = some digit ↔ line.head? = some digit := by
    refine h.head?_eq_some_iff ?_
    rintro rfl
    exact absurd hplain (by decide)
  constructor
  · rintro ⟨digit, hhead, hplain⟩
    exact ⟨digit, (hdigit digit hplain).mp hhead, hplain⟩
  · rintro ⟨digit, hhead, hplain⟩
    exact ⟨digit, (hdigit digit hplain).mpr hhead, hplain⟩

theorem partAfter_map (h : ∀ line ∈ s, opened? (f line) = opened? line) :
    partAfter (s.map f) = partAfter s := by
  have hopened : s.filterMap (opened? ∘ f) = s.filterMap opened? := List.filterMap_congr h
  rw [partAfter, List.filterMap_map, hopened, partAfter]

theorem linesOf_map (h : ∀ line ∈ s, opened? (f line) = opened? line) (part : Part) :
    linesOf part (s.map f) = (linesOf part s).map f := by
  induction s using List.reverseRecOn with
  | nil => simp
  | append_singleton s line ih =>
    have hpart := partAfter_map h
    rw [List.map_append, List.map_singleton] at hpart ⊢
    rw [linesOf_concat, linesOf_concat, hpart, ih (List.forall_mem_append.mp h).1]
    split <;> simp

/-- Changing lines behind their first characters leaves a cut as it is. -/
theorem IsCut.map (h : IsCut lines segments)
    (hopened : ∀ line ∈ lines, opened? (f line) = opened? line)
    (hnumbered : ∀ line ∈ lines, IsNumbered (f line) ↔ IsNumbered line) :
    IsCut (lines.map f) (segments.map (List.map f)) := by
  have hmem : ∀ s ∈ segments, ∀ line ∈ s, line ∈ lines := by
    intro s hs line hline
    rw [← h.flatten_eq]
    exact List.mem_flatten.mpr ⟨s, hs, hline⟩
  constructor
  · rw [← List.map_flatten, h.flatten_eq]
  · intro segment hsegment
    obtain ⟨s, hs, rfl⟩ := List.mem_map.mp hsegment
    simpa using h.ne_nil s hs
  · intro segment hsegment
    obtain ⟨s, hs, rfl⟩ := List.mem_map.mp hsegment
    rw [IsWhole, List.pairwise_map]
    refine (h.whole s hs).imp_of_mem fun hearlier hlater hpair => ?_
    rw [hopened _ (hmem s hs _ hearlier), hnumbered _ (hmem s hs _ hlater)]
    exact hpair
  · rw [List.isChain_map]
    refine h.apart.imp_of_mem_imp fun s next hs hnext hpair => ?_
    obtain ⟨⟨line, hline, hanswer⟩, first, hfirst, hfirstNumbered⟩ := hpair
    refine ⟨⟨f line, List.mem_map_of_mem hline, ?_⟩, f first, ?_, ?_⟩
    · rw [hopened line (hmem s hs line hline)]
      exact hanswer
    · rw [List.head?_map]
      exact Option.mem_map_of_mem f hfirst
    · rw [hnumbered first (hmem next hnext first (List.mem_of_mem_head? hfirst))]
      exact hfirstNumbered

/-! ### Texts that speak for the same -/

theorem afterMarker?_withoutReturns (h : Paired text) :
    afterMarker? text.withoutReturns = (afterMarker? text).map Text.withoutReturns := by
  fun_induction afterMarker? text with
  | case1 rest => rfl
  | case2 c rest hno ih =>
    by_cases hc : c = carriageReturn
    · rw [hc, Text.withoutReturns_cons_return, ih h.2]
    · have hno' : ∀ behind, c = '(' → Text.withoutReturns rest = '5' :: behind → False := by
        intro behind hopen hfive
        have hhead : (Text.withoutReturns rest).head? = some '5' := by rw [hfive]; rfl
        rw [Text.head?_withoutReturns h.2 (by decide) (by decide)] at hhead
        obtain ⟨other, rfl⟩ := List.head?_eq_some_iff.mp hhead
        exact hno other hopen rfl
      rw [Text.withoutReturns_cons hc, afterMarker?.eq_2 _ _ hno', ih h.2]
  | case3 => rfl

theorem speaksFor_iff : SpeaksFor text k ↔
    ∃ rest, afterMarker? text = some rest ∧ rest.head? = some k.letter := by
  constructor
  · rintro ⟨front, back, htext, hfront⟩
    exact ⟨_, afterMarker?_eq_some_iff.mpr ⟨front, htext, hfront⟩, rfl⟩
  · rintro ⟨rest, hrest, hletter⟩
    obtain ⟨back, rfl⟩ := List.head?_eq_some_iff.mp hletter
    obtain ⟨front, htext, hfront⟩ := afterMarker?_eq_some_iff.mp hrest
    exact ⟨front, back, htext, hfront⟩

theorem speaksFor_withoutReturns (h : Paired text) :
    SpeaksFor text.withoutReturns k ↔ SpeaksFor text k := by
  have hreturn : k.letter ≠ carriageReturn := by cases k <;> decide
  have hfeed : k.letter ≠ newline := by cases k <;> decide
  have hletter (rest : Text) (hrest : afterMarker? text = some rest) :
      (Text.withoutReturns rest).head? = some k.letter ↔ rest.head? = some k.letter := by
    obtain ⟨front, rfl, -⟩ := afterMarker?_eq_some_iff.mp hrest
    exact Text.head?_withoutReturns h.of_append.2.2 hreturn hfeed
  rw [speaksFor_iff, speaksFor_iff, afterMarker?_withoutReturns h]
  constructor
  · rintro ⟨plain, hplain, hhead⟩
    obtain ⟨rest, hrest, rfl⟩ := Option.map_eq_some_iff.mp hplain
    exact ⟨rest, hrest, (hletter rest hrest).mp hhead⟩
  · rintro ⟨rest, hrest, hhead⟩
    exact ⟨_, Option.map_eq_some_iff.mpr ⟨rest, hrest, rfl⟩, (hletter rest hrest).mpr hhead⟩

/-! ### Questions -/

/-- The question without the carriage returns of its texts. -/
def withoutReturns (q : Question) : Question where
  description := q.description.withoutReturns
  a := q.a.withoutReturns
  b := q.b.withoutReturns
  c := q.c.withoutReturns

theorem textOf_withoutReturns (hs : ∀ line ∈ s, ReturnsLast line) (part : Part) :
    textOf part (s.map Text.withoutReturns) = (textOf part s).withoutReturns ∧
      Paired (textOf part s) := by
  have hopened : ∀ line ∈ s, opened? line.withoutReturns = opened? line := fun line hline =>
    opened?_withoutReturns (hs line hline)
  have hlines : ∀ line ∈ linesOf part s, ReturnsLast line := by
    intro line hline
    obtain ⟨front, hfront, -⟩ := exists_of_mem_linesOf hline
    exact hs line (hfront.subset (by simp))
  refine ⟨?_, Text.paired_ofLines hlines⟩
  rw [textOf, linesOf_map hopened, ← Text.withoutReturns_ofLines, textOf]

theorem IsQuestionOf.withoutReturns (hs : ∀ line ∈ s, ReturnsLast line) (h : IsQuestionOf s q) :
    IsQuestionOf (s.map Text.withoutReturns) q.withoutReturns := by
  have htext (part : Part) := (textOf_withoutReturns hs part).1
  have hpaired (part : Part) := (textOf_withoutReturns hs part).2
  constructor
  · rw [htext, ← h.description]
    rfl
  · rw [htext, ← h.a]
    rfl
  · rw [htext, ← h.b]
    rfl
  · rw [htext, ← h.c]
    rfl
  · exact (speaksFor_withoutReturns (h.a ▸ hpaired .a)).mpr h.category_a
  · exact (speaksFor_withoutReturns (h.b ▸ hpaired .b)).mpr h.category_b
  · exact (speaksFor_withoutReturns (h.c ▸ hpaired .c)).mpr h.category_c

theorem forall₂_withoutReturns (hs : ∀ s ∈ segments, ∀ line ∈ s, ReturnsLast line)
    (h : List.Forall₂ IsQuestionOf segments questions) :
    List.Forall₂ IsQuestionOf (segments.map (List.map Text.withoutReturns))
      (questions.map withoutReturns) := by
  induction h with
  | nil => exact .nil
  | cons hq _ ih =>
    obtain ⟨hfirst, hothers⟩ := List.forall_mem_cons.mp hs
    exact .cons (hq.withoutReturns hfirst) (ih hothers)

theorem exists_parse_iff (h : IsCut t.lines segments) :
    (∃ questions, parse t = .ok questions) ↔ ∀ s ∈ segments, ∀ part, part ≠ .description →
      ∃ category, SpeaksFor (textOf part s) category := by
  simp only [parse_eq_mapM h, exists_mapM_eq_ok_iff, exists_questionOf_iff]

theorem parse_withoutReturns (h : Paired u) :
    ((∃ questions, parse u.withoutReturns = .ok questions) ↔
      ∃ questions, parse u = .ok questions) ∧
    ∀ questions, parse u = .ok questions →
      parse u.withoutReturns = .ok (questions.map withoutReturns) := by
  obtain ⟨segments, hcut⟩ := exists_isCut u.lines
  have hlines := h.returnsLast_of_mem_lines
  have hsegments : ∀ s ∈ segments, ∀ line ∈ s, ReturnsLast line := by
    intro s hs line hline
    refine hlines line ?_
    rw [← hcut.flatten_eq]
    exact List.mem_flatten.mpr ⟨s, hs, hline⟩
  have hplain : IsCut u.withoutReturns.lines (segments.map (List.map Text.withoutReturns)) := by
    rw [Text.lines_withoutReturns h]
    exact hcut.map (fun line hline => opened?_withoutReturns (hlines line hline))
      fun line hline => isNumbered_withoutReturns (hlines line hline)
  constructor
  · rw [exists_parse_iff hplain, exists_parse_iff hcut, List.forall_mem_map]
    refine forall₂_congr fun s hs => forall₂_congr fun part _ => exists_congr fun category => ?_
    obtain ⟨htext, hpaired⟩ := textOf_withoutReturns (hsegments s hs) part
    rw [htext, speaksFor_withoutReturns hpaired]
  · intro questions hquestions
    rw [parse_eq_ok_iff hcut] at hquestions
    rw [parse_eq_ok_iff hplain]
    exact forall₂_withoutReturns hsegments hquestions

end Question

/-! ## Either convention -/

/-- A text with carriage returns before its line feeds has the same templates and dungeons, and its
quiz has the same questions but for the carriage returns in their texts. -/
theorem Text.parse_withReturns (h : carriageReturn ∉ t) :
    Template.parse t.withReturns = Template.parse t ∧
    Dungeon.parse t.withReturns = Dungeon.parse t ∧
    ((∃ questions, Question.parse t.withReturns = .ok questions) ↔
      ∃ questions, Question.parse t = .ok questions) ∧
    ∀ questions, Question.parse t.withReturns = .ok questions →
      Question.parse t = .ok (questions.map Question.withoutReturns) := by
  obtain ⟨hpaired, hwithout⟩ := paired_withReturns h
  have htemplates := Template.parse_withoutReturns hpaired
  have hdungeons := Dungeon.parse_withoutReturns hpaired
  obtain ⟨hread, hquestions⟩ := Question.parse_withoutReturns hpaired
  rw [hwithout] at htemplates hdungeons hread hquestions
  exact ⟨htemplates.symm, hdungeons.symm, hread.symm, hquestions⟩

/-- A blank line, a key line, and a last line without a line feed, which gets no return either. -/
theorem Text.parse_withReturns_of_open_end :
    let text : Text := "1\n\na (5l\nb (5c\nc (5v\n#k\nx".toList
    let question : Question := ⟨"1\r\n\r\n".toList, ⟨"a (5l\r\n".toList, .mage⟩,
      ⟨"b (5c\r\n".toList, .thief⟩, ⟨"c (5v\r\n#k\r\nx\n".toList, .warrior⟩⟩
    carriageReturn ∉ text ∧
      Template.parse text.withReturns = [("k".toList, "x".toList)] ∧
      Dungeon.parse text.withReturns =
        [⟨"1".toList, "\na (5l\nb (5c\nc (5v".toList⟩] ∧
      Question.parse text.withReturns = .ok [question] ∧
      Question.parse text = .ok [question.withoutReturns] := by
  intro text question
  have hnone : carriageReturn ∉ text := by decide
  obtain ⟨htemplates, hdungeons, -, hquestions⟩ := parse_withReturns hnone
  have hread : Question.parse text.withReturns = .ok [question] := rfl
  refine ⟨hnone, ?_, ?_, hread, hquestions _ hread⟩
  · rw [htemplates]
    rfl
  · rw [hdungeons]
    rfl

end ArenaData
