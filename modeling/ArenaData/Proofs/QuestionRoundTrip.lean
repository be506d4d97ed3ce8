import ArenaData.Proofs.QuestionParts

/-!
# Writing questions back

Questions that were read can be written down, each with its description first and its answers in
order, and are read again as they are. A segment sorted by parts is cut and sorted as before, and
for this it matters which lines can stand in which part: no line of the description opens an answer,
an answer begins with a line that opens it and has none that opens another, and none that is
numbered. Sorting therefore moves no line to another part (`linesOf_sorted`), and the segment still
ends where the next one begins (`IsCut.map_sorted`).

A file that was read ends in an answer, so that questions of their own can follow it.
-/

namespace ArenaData.Question

open Text (newline ofLines Ended)

variable {t u line : Text} {lines ls s : List Text} {segments : List (List Text)} {part : Part}
  {q : Question} {questions : List Question}

/-- No line opens another part. -/
def Continues (part : Part) (ls : List Text) : Prop :=
  ∀ line ∈ ls, ∀ other, opened? line = some other → other = part

/-- Every answer has lines. -/
def IsAnswered (s : List Text) : Prop := ∀ part, part ≠ .description → linesOf part s ≠ []

/-! ## Which lines a part can have -/

theorem exists_of_mem_linesOf (h : line ∈ linesOf part s) :
    ∃ front, front ++ [line] <+: s ∧ partAfter (front ++ [line]) = part := by
  obtain ⟨upTo, hmem, hlast⟩ := List.mem_filterMap.mp h
  obtain ⟨hinits, hpart⟩ := List.mem_filter.mp hmem
  obtain ⟨front, rfl⟩ := List.getLast?_eq_some_iff.mp hlast
  exact ⟨front, (List.mem_inits _ _).mp hinits, of_decide_eq_true hpart⟩

theorem continues_linesOf (part : Part) (s : List Text) : Continues part (linesOf part s) := by
  intro line hline other hopened
  obtain ⟨front, -, hpart⟩ := exists_of_mem_linesOf hline
  rw [partAfter_concat, hopened] at hpart
  exact hpart

theorem not_isNumbered_of_mem_linesOf (hs : IsWhole s) (hpart : part ≠ .description)
    (hline : line ∈ linesOf part s) : ¬ IsNumbered line := by
  obtain ⟨front, ⟨back, rfl⟩, hafter⟩ := exists_of_mem_linesOf hline
  cases hopened : opened? line with
  | some other => exact not_isNumbered_of_opened hopened
  | none =>
    -- The part was open before the line, so an answer stands before it in the segment.
    rw [partAfter_concat, hopened, Option.getD_none] at hafter
    have hanswer : HasAnswer front := by
      by_contra hno
      exact hpart (hafter.symm.trans (partAfter_eq_description_iff.mpr hno))
    have hwhole : IsWhole (front ++ line :: back) := by simpa using hs
    exact hwhole.not_isNumbered hanswer

theorem linesOf_ne_nil (hpart : part ≠ .description) (h : partAfter s = part) :
    linesOf part s ≠ [] := by
  rcases List.eq_nil_or_concat' s with rfl | ⟨front, line, rfl⟩
  · exact absurd h.symm hpart
  · rw [linesOf_concat, if_pos h]
    simp

theorem exists_linesOf_eq_cons (hpart : part ≠ .description) (h : linesOf part s ≠ []) :
    ∃ line rest, linesOf part s = line :: rest ∧ opened? line = some part := by
  induction s using List.reverseRecOn with
  | nil => simp at h
  | append_singleton s last ih =>
    rw [linesOf_concat] at h ⊢
    by_cases hbefore : linesOf part s = []
    · rw [hbefore, List.nil_append] at h ⊢
      have hafter : partAfter (s ++ [last]) = part := by
        by_contra hother
        exact h (if_neg hother)
      refine ⟨last, [], if_pos hafter, ?_⟩
      cases hopened : opened? last with
      | some other => rw [← hafter, partAfter_concat, hopened, Option.getD_some]
      | none =>
        -- The part was open before, and would have a line already.
        rw [partAfter_concat, hopened, Option.getD_none] at hafter
        exact absurd hbefore (linesOf_ne_nil hpart hafter)
    · obtain ⟨line, rest, hlines, hopened⟩ := ih hbefore
      exact ⟨line, _, by rw [hlines, List.cons_append], hopened⟩

theorem linesOf_isPrefix (part : Part) (s ls : List Text) :
    linesOf part s <+: linesOf part (s ++ ls) := by
  induction ls using List.reverseRecOn with
  | nil => rw [List.append_nil]
  | append_singleton ls line ih =>
    rw [← List.append_assoc, linesOf_concat]
    exact ih.trans (List.prefix_append _ _)

/-! ## Sorted segments -/

/-- Lines that open no other part go where the lines before them left off. -/
theorem linesOf_append_of_continues (h : Continues part ls) (hpart : partAfter s = part) :
    partAfter (s ++ ls) = part ∧
      ∀ p, linesOf p (s ++ ls) = linesOf p s ++ if part = p then ls else [] := by
  induction ls using List.reverseRecOn with
  | nil => simpa using hpart
  | append_singleton ls line ih =>
    obtain ⟨hbefore, hline⟩ := List.forall_mem_append.mp h
    obtain ⟨hafter, hlines⟩ := ih hbefore
    have hlast : partAfter (s ++ ls ++ [line]) = part := by
      rw [partAfter_concat, hafter]
      cases hopened : opened? line with
      | none => rfl
      | some other => exact hline line List.mem_cons_self other hopened
    rw [← List.append_assoc]
    refine ⟨hlast, fun p => ?_⟩
    rw [linesOf_concat, hlast, hlines]
    by_cases hp : part = p
    · simp [hp]
    · simp [hp]

/-- An answer may be put behind any lines: its first line opens it, and the others continue it. -/
theorem linesOf_append_answer (lines : List Text) (hpart : part ≠ .description)
    (h : linesOf part s ≠ []) (p : Part) :
    linesOf p (lines ++ linesOf part s) =
      linesOf p lines ++ if part = p then linesOf part s else [] := by
  have hcontinues := continues_linesOf part s
  obtain ⟨line, rest, hlines, hopened⟩ := exists_linesOf_eq_cons hpart h
  have hfirst : partAfter (lines ++ [line]) = part := by
    rw [partAfter_concat, hopened, Option.getD_some]
  rw [hlines] at hcontinues ⊢
  have hrest : Continues part rest := (List.forall_mem_cons.mp hcontinues).2
  have hsplit : lines ++ line :: rest = lines ++ [line] ++ rest := by simp
  rw [hsplit, (linesOf_append_of_continues hrest hfirst).2, linesOf_concat, hfirst]
  by_cases hp : part = p
  · simp [hp]
  · simp [hp]

/-- Sorting a segment moves no line to another part. -/
theorem linesOf_sorted (h : IsAnswered s) (part : Part) :
    linesOf part (sorted s) = linesOf part s := by
  have hstart : partAfter [] = .description := rfl
  have hdescription := linesOf_append_of_continues (continues_linesOf .description s) hstart
  rw [List.nil_append] at hdescription
  rw [sorted, linesOf_append_answer _ (by decide) (h .c (by decide)),
    linesOf_append_answer _ (by decide) (h .b (by decide)),
    linesOf_append_answer _ (by decide) (h .a (by decide)), hdescription.2]
  cases part <;> simp

theorem hasAnswer_sorted (h : IsAnswered s) : HasAnswer (sorted s) := by
  obtain ⟨line, rest, hlines, hopened⟩ := exists_linesOf_eq_cons (by decide) (h .a (by decide))
  exact ⟨line, by simp [sorted, hlines], by simp [hopened]⟩

theorem hasAnswer_of_isAnswered (h : IsAnswered s) : HasAnswer s := by
  obtain ⟨line, hline, hopened⟩ := hasAnswer_sorted h
  exact ⟨line, (perm_sorted s).mem_iff.mp hline, hopened⟩

/-- In a sorted segment the lines that are numbered come before those that open an answer. -/
theorem isWhole_sorted (hs : IsWhole s) : IsWhole (sorted s) := by
  have hplain : ∀ line ∈ linesOf .description s, ¬ (opened? line).isSome := by
    intro line hline hsome
    obtain ⟨other, hopened⟩ := Option.isSome_iff_exists.mp hsome
    have hother := continues_linesOf _ _ line hline other hopened
    exact opened?_ne_description line (hother ▸ hopened)
  have hanswers : ∀ line ∈ linesOf .a s ++ linesOf .b s ++ linesOf .c s, ¬ IsNumbered line := by
    simp only [List.forall_mem_append]
    refine ⟨⟨?_, ?_⟩, ?_⟩
    · exact fun line => not_isNumbered_of_mem_linesOf hs (by decide)
    · exact fun line => not_isNumbered_of_mem_linesOf hs (by decide)
    · exact fun line => not_isNumbered_of_mem_linesOf hs (by decide)
  have hsorted : sorted s =
      linesOf .description s ++ (linesOf .a s ++ linesOf .b s ++ linesOf .c s) := by
    simp [sorted]
  rw [hsorted, IsWhole, List.pairwise_append]
  refine ⟨?_, ?_, ?_⟩
  · refine List.pairwise_of_forall_mem_list fun earlier hearlier _ _ hsome => ?_
    exact absurd hsome (hplain earlier hearlier)
  · exact List.pairwise_of_forall_mem_list fun _ _ later hlater _ => hanswers later hlater
  · intro earlier hearlier later _ hsome
    exact absurd hsome (hplain earlier hearlier)

/-- The number of a segment stays in front when the segment is sorted. -/
theorem head?_sorted (hhead : s.head? = some line) (h : IsNumbered line) :
    (sorted s).head? = some line := by
  obtain ⟨rest, rfl⟩ := List.head?_eq_some_iff.mp hhead
  have hnone := opened?_eq_none_of_numbered h
  have hafter : partAfter [line] = .description := by
    rw [← List.nil_append [line], partAfter_concat, hnone]
    rfl
  have hfirst : linesOf .description [line] = [line] := by
    rw [← List.nil_append [line], linesOf_concat, List.nil_append, hafter]
    simp
  obtain ⟨behind, hlines⟩ := hfirst ▸ linesOf_isPrefix .description [line] rest
  rw [sorted, ← List.singleton_append, ← hlines]
  simp

theorem IsCut.map_sorted (h : IsCut lines segments) (hanswered : ∀ s ∈ segments, IsAnswered s) :
    IsCut (segments.flatMap sorted) (segments.map sorted) where
  flatten_eq := rfl
  ne_nil := by
    intro segment hsegment
    obtain ⟨s, hs, rfl⟩ := List.mem_map.mp hsegment
    obtain ⟨line, hline, -⟩ := hasAnswer_sorted (hanswered s hs)
    exact List.ne_nil_of_mem hline
  whole := by
    intro segment hsegment
    obtain ⟨s, hs, rfl⟩ := List.mem_map.mp hsegment
    exact isWhole_sorted (h.whole s hs)
  apart := by
    rw [List.isChain_map]
    refine h.apart.imp_of_mem_imp fun s next hs _ hnext => ?_
    obtain ⟨-, line, hline, hnumbered⟩ := hnext
    exact ⟨hasAnswer_sorted (hanswered s hs), line, head?_sorted hline hnumbered, hnumbered⟩

/-! ## Files -/

/-- Segments may follow segments that have their answers, if a number begins them. -/
theorem IsCut.append {lines' : List Text} {segments' : List (List Text)}
    (h : IsCut lines segments) (h' : IsCut lines' segments')
    (hanswer : ∀ s ∈ segments, HasAnswer s) (hnumbered : ∃ line ∈ lines'.head?, IsNumbered line) :
    IsCut (lines ++ lines') (segments ++ segments') where
  flatten_eq := by rw [List.flatten_append, h.flatten_eq, h'.flatten_eq]
  ne_nil := List.forall_mem_append.mpr ⟨h.ne_nil, h'.ne_nil⟩
  whole := List.forall_mem_append.mpr ⟨h.whole, h'.whole⟩
  apart := by
    rw [List.isChain_append]
    refine ⟨h.apart, h'.apart, ?_⟩
    intro s hs next hnext
    obtain ⟨others, rfl⟩ := List.head?_eq_some_iff.mp hnext
    refine ⟨hanswer s (List.mem_of_getLast? hs), ?_⟩
    rw [← h'.flatten_eq, List.flatten_cons,
      List.head?_append_of_ne_nil _ (h'.ne_nil next List.mem_cons_self)] at hnumbered
    exact hnumbered

theorem SpeaksFor.ne_nil {text : Text} {k : ClassCategory} (h : SpeaksFor text k) : text ≠ [] := by
  obtain ⟨front, back, rfl, -⟩ := h
  simp

theorem IsQuestionOf.isAnswered (h : IsQuestionOf s q) : IsAnswered s := by
  intro part hpart hnil
  have htext : textOf part s = [] := by rw [textOf, hnil, Text.ofLines_nil]
  cases part with
  | description => exact hpart rfl
  | a => exact h.category_a.ne_nil (h.a.trans htext)
  | b => exact h.category_b.ne_nil (h.b.trans htext)
  | c => exact h.category_c.ne_nil (h.c.trans htext)

theorem IsQuestionOf.sorted (h : IsQuestionOf s q) : IsQuestionOf (sorted s) q := by
  have htext (part : Part) : textOf part (Question.sorted s) = textOf part s := by
    rw [textOf, linesOf_sorted h.isAnswered, textOf]
  exact { h with
    description := h.description.trans (htext _).symm
    a := h.a.trans (htext _).symm
    b := h.b.trans (htext _).symm
    c := h.c.trans (htext _).symm }

theorem isAnswered_of_forall₂ (h : List.Forall₂ IsQuestionOf segments questions) :
    ∀ s ∈ segments, IsAnswered s := by
  induction h with
  | nil => simp
  | cons hq _ ih => exact List.forall_mem_cons.mpr ⟨hq.isAnswered, ih⟩

theorem parse_write (h : parse t = .ok questions) : parse (write questions) = .ok questions := by
  obtain ⟨segments, hcut⟩ := exists_isCut t.lines
  have hquestions := (parse_eq_ok_iff hcut).mp h
  have hsorted := hcut.map_sorted (isAnswered_of_forall₂ hquestions)
  rw [← lines_write hcut hquestions] at hsorted
  rw [parse_eq_ok_iff hsorted, List.forall₂_map_left_iff]
  exact hquestions.imp fun _ _ => IsQuestionOf.sorted

theorem parse_append (h : parse t = .ok questions) (ht : Ended t)
    (hu : ∃ digit ∈ u.head?, isPlainDigit digit) :
    parse (t ++ u) = (questions ++ ·) <$> parse u := by
  obtain ⟨segments, hcut⟩ := exists_isCut t.lines
  obtain ⟨others, hothers⟩ := exists_isCut u.lines
  have hanswered := isAnswered_of_forall₂ ((parse_eq_ok_iff hcut).mp h)
  have hanswer : ∀ s ∈ segments, HasAnswer s := fun s hs => hasAnswer_of_isAnswered (hanswered s hs)
  have hnumbered : ∃ line ∈ u.lines.head?, IsNumbered line := by
    obtain ⟨digit, hdigit, hplain⟩ := hu
    have hne : digit ≠ newline := by
      rintro rfl
      exact absurd hplain (by decide)
    obtain ⟨line, ls, hlines⟩ := Text.exists_lines_eq_cons hdigit hne
    exact ⟨digit :: line, by simp [hlines], digit, rfl, hplain⟩
  have hboth : IsCut (t ++ u).lines (segments ++ others) := by
    rw [Text.lines_append ht]
    exact hcut.append hothers hanswer hnumbered
  rw [parse_eq_mapM hboth, List.mapM_append, ← parse_eq_mapM hcut, h, ok_bind,
    ← parse_eq_mapM hothers]
  exact bind_pure_comp _ _

/-- What was read can be written down and is read again. Where the file ends in a whole line, more
questions may follow: reading goes on with them as if they stood alone. -/
theorem parse_write_and_append (h : parse t = .ok questions) :
    parse (write questions) = .ok questions ∧
      ∀ u, Ended t → (∃ digit ∈ u.head?, isPlainDigit digit) →
        parse (t ++ u) = (questions ++ ·) <$> parse u :=
  ⟨parse_write h, fun _ ht hu => parse_append h ht hu⟩

/-- Answers out of order, one of them in two pieces, and a number in the question itself; behind it
a question without its third answer. -/
theorem parse_of_unsorted_answers :
    let text := "x\n1 or\n2?\nc (5v)\na\n\nb (5c)\na (5l)\n".toList
    let question : Question := ⟨"x\n1 or\n2?\n".toList, ⟨"a\n\na (5l)\n".toList, .mage⟩,
      ⟨"b (5c)\n".toList, .thief⟩, ⟨"c (5v)\n".toList, .warrior⟩⟩
    parse text = .ok [question] ∧ parse (write [question]) = .ok [question] ∧
      Fails .unrecognizedCategoryCode (parse (text ++ "3\na (5l)\nb (5c)".toList)) := by
  intro text question
  have hread : parse text = .ok [question] := rfl
  obtain ⟨hwritten, happend⟩ := parse_write_and_append hread
  have hended : Ended text := Or.inr rfl
  refine ⟨hread, hwritten, ?_⟩
  rw [happend _ hended ⟨'3', rfl, rfl⟩]
  exact fails_error.mpr rfl

end ArenaData.Question
