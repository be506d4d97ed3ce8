import ArenaData.Proofs.Decoders
import ArenaData.Proofs.Lines
import Mathlib.Data.List.Chain
import Mathlib.Data.List.Infix

/-!
# The segments of the class quiz

A question of the quiz is a segment of its lines. A new one begins at each line with a digit at its
front, provided that the segment so far has opened an answer; before that, such a line belongs to
the question itself (`IsCut`). In a segment a line belongs to the part that the latest opening line
names (`linesOf`).

Reading carries just this along: behind some lines of a segment, the draft holds them by part and
the part that is open is that of the latest opening line (`Reading.within`). From the first line of
the next segment on, the question is complete. A file is thus read segment by segment
(`parse_eq_mapM`).
-/

namespace ArenaData.Question

open Text (newline ofLines Ended)

variable {t : Text} {line : Text} {lines s : List Text} {segments : List (List Text)}

/-- The answer that a line opens by its first character. -/
def opened? : Text → Option Part
  | 'a' :: _ => some .a
  | 'b' :: _ => some .b
  | 'c' :: _ => some .c
  | _ => none

/-- The line has a digit at its front. -/
def IsNumbered (line : Text) : Prop := ∃ digit ∈ line.head?, isPlainDigit digit

/-- Some line opens an answer. -/
def HasAnswer (lines : List Text) : Prop := ∃ line ∈ lines, (opened? line).isSome

/-- No numbered line comes after one that opens an answer. -/
def IsWhole (lines : List Text) : Prop :=
  lines.Pairwise fun earlier later => (opened? earlier).isSome → ¬ IsNumbered later

/-- The segments of some lines. -/
structure IsCut (lines : List Text) (segments : List (List Text)) : Prop where
  flatten_eq : segments.flatten = lines
  ne_nil : ∀ s ∈ segments, s ≠ []
  whole : ∀ s ∈ segments, IsWhole s
  apart : segments.IsChain fun s next => HasAnswer s ∧ ∃ line ∈ next.head?, IsNumbered line

instance (line : Text) : Decidable (IsNumbered line) :=
  decidable_of_iff (line.head?.any isPlainDigit) (by simp [IsNumbered, Option.any_eq_true])

instance (lines : List Text) : Decidable (HasAnswer lines) :=
  inferInstanceAs (Decidable (∃ line ∈ lines, (opened? line).isSome))

instance (lines : List Text) : Decidable (IsWhole lines) :=
  inferInstanceAs (Decidable (lines.Pairwise fun earlier later =>
    (opened? earlier).isSome → ¬ IsNumbered later))

instance (lines : List Text) (segments : List (List Text)) : Decidable (IsCut lines segments) :=
  decidable_of_iff (segments.flatten = lines ∧ (∀ s ∈ segments, s ≠ []) ∧
      (∀ s ∈ segments, IsWhole s) ∧
      segments.IsChain fun s next => HasAnswer s ∧ ∃ line ∈ next.head?, IsNumbered line)
    ⟨fun ⟨hflatten, hne, hwhole, hapart⟩ => ⟨hflatten, hne, hwhole, hapart⟩,
      fun h => ⟨h.flatten_eq, h.ne_nil, h.whole, h.apart⟩⟩

/-- The part that lines leave open: that of the last of them that opens an answer. -/
def partAfter (lines : List Text) : Part := (lines.filterMap opened?).getLast?.getD .description

/-- The lines of a segment that belong to a part: the last ones of those beginnings of the segment
that leave the part open. -/
def linesOf (part : Part) (segment : List Text) : List Text :=
  (segment.inits.filter fun upTo => partAfter upTo = part).filterMap List.getLast?

/-- The lines of a segment, part by part. -/
def sorted (segment : List Text) : List Text :=
  linesOf .description segment ++ linesOf .a segment ++ linesOf .b segment ++ linesOf .c segment

/-! ## Lines and parts -/

theorem opened?_ne_description (line : Text) : opened? line ≠ some .description := by
  unfold opened?
  split <;> simp

theorem not_isNumbered_of_opened {part : Part} (h : opened? line = some part) :
    ¬ IsNumbered line := by
  rintro ⟨digit, hdigit, hplain⟩
  unfold opened? at h
  split at h
  · obtain rfl := Option.some.inj hdigit
    exact absurd hplain (by decide)
  · obtain rfl := Option.some.inj hdigit
    exact absurd hplain (by decide)
  · obtain rfl := Option.some.inj hdigit
    exact absurd hplain (by decide)
  · cases h

theorem opened?_eq_none_of_numbered (h : IsNumbered line) : opened? line = none := by
  by_contra hsome
  obtain ⟨part, hpart⟩ := Option.ne_none_iff_exists'.mp hsome
  exact not_isNumbered_of_opened hpart h

theorem hasAnswer_concat : HasAnswer (s ++ [line]) ↔ HasAnswer s ∨ (opened? line).isSome := by
  simp [HasAnswer, or_and_right, exists_or]

theorem isWhole_concat :
    IsWhole (s ++ [line]) ↔ IsWhole s ∧ (HasAnswer s → ¬ IsNumbered line) := by
  simp [IsWhole, HasAnswer, List.pairwise_append]

theorem IsWhole.not_isNumbered (h : IsWhole (s ++ line :: lines)) (hanswer : HasAnswer s) :
    ¬ IsNumbered line := by
  obtain ⟨earlier, hearlier, hopened⟩ := hanswer
  exact (List.pairwise_append.mp h).2.2 earlier hearlier line List.mem_cons_self hopened

theorem partAfter_concat (lines : List Text) (line : Text) :
    partAfter (lines ++ [line]) = (opened? line).getD (partAfter lines) := by
  rw [partAfter, List.filterMap_append]
  cases h : opened? line with
  | none => simp [h, partAfter]
  | some part => simp [h]

theorem partAfter_eq_description_iff : partAfter lines = .description ↔ ¬ HasAnswer lines := by
  induction lines using List.reverseRecOn with
  | nil => simp [partAfter, HasAnswer]
  | append_singleton lines line ih =>
    rw [partAfter_concat, hasAnswer_concat]
    cases h : opened? line with
    | none => simp [ih]
    | some part =>
      have hne : part ≠ .description := fun e => opened?_ne_description line (e ▸ h)
      simp [hne]

@[simp]
theorem linesOf_nil (part : Part) : linesOf part [] = [] := by
  cases part <;> rfl

theorem linesOf_concat (part : Part) (s : List Text) (line : Text) :
    linesOf part (s ++ [line]) =
      linesOf part s ++ if partAfter (s ++ [line]) = part then [line] else [] := by
  rw [linesOf, List.inits_append, List.filter_append, List.filterMap_append]
  by_cases h : partAfter (s ++ [line]) = part
  · simp [linesOf, h]
  · simp [linesOf, h]

/-- Every line of a segment belongs to one part. -/
theorem perm_sorted (s : List Text) : (sorted s).Perm s := by
  induction s using List.reverseRecOn with
  | nil => exact List.Perm.nil
  | append_singleton s line ih =>
    rw [List.perm_iff_count] at ih ⊢
    intro x
    have hx := ih x
    simp only [sorted, List.count_append, linesOf_concat] at hx ⊢
    cases partAfter (s ++ [line]) <;> simp <;> omega

/-! ## One way to cut a file -/

theorem IsCut.of_cons (h : IsCut lines (s :: segments)) : IsCut segments.flatten segments where
  flatten_eq := rfl
  ne_nil segment hsegment := h.ne_nil segment (List.mem_cons_of_mem s hsegment)
  whole segment hsegment := h.whole segment (List.mem_cons_of_mem s hsegment)
  apart := h.apart.tail

theorem exists_isCut (lines : List Text) : ∃ segments, IsCut lines segments := by
  induction lines using List.reverseRecOn with
  | nil => exact ⟨[], rfl, by simp, by simp, List.isChain_nil⟩
  | append_singleton lines line ih =>
    obtain ⟨segments, rfl, hne, hwhole, hapart⟩ := ih
    rcases List.eq_nil_or_concat' segments with rfl | ⟨front, s, rfl⟩
    · exact ⟨[[line]], by simp, by simp, by simp [IsWhole], List.isChain_singleton _⟩
    · obtain ⟨hnefront, hnelast⟩ := List.forall_mem_append.mp hne
      obtain ⟨hfront, hlast⟩ := List.forall_mem_append.mp hwhole
      have hs : IsWhole s := hlast s List.mem_cons_self
      by_cases hnext : HasAnswer s ∧ IsNumbered line
      · -- The line begins a segment of its own.
        have hsingle : IsWhole [line] := List.pairwise_singleton _ line
        refine ⟨front ++ [s] ++ [[line]], by simp, ?_, ?_, ?_⟩
        · exact List.forall_mem_append.mpr ⟨hne, by simp⟩
        · exact List.forall_mem_append.mpr ⟨hwhole, by simpa using hsingle⟩
        · rw [List.isChain_append]
          exact ⟨hapart, List.isChain_singleton _, by simpa using hnext⟩
      · -- The line continues the last segment.
        have hcontinued : IsWhole (s ++ [line]) :=
          isWhole_concat.mpr ⟨hs, fun hanswer hnumbered => hnext ⟨hanswer, hnumbered⟩⟩
        have hfirst : (s ++ [line]).head? = s.head? :=
          List.head?_append_of_ne_nil _ (hnelast s List.mem_cons_self)
        refine ⟨front ++ [s ++ [line]], by simp, ?_, ?_, ?_⟩
        · exact List.forall_mem_append.mpr ⟨hnefront, by simp⟩
        · exact List.forall_mem_append.mpr ⟨hfront, by simpa using hcontinued⟩
        · rw [List.isChain_append] at hapart ⊢
          exact ⟨hapart.1, List.isChain_singleton _, by simpa [hfirst] using hapart.2.2⟩

/-- Two cuts agree on where their first segment ends: the line behind it may not join it. -/
theorem IsCut.eq_nil_of_isPrefix {more : List Text} (h : IsCut lines (s :: segments))
    (hwhole : IsWhole (s ++ more)) (hmore : more <+: segments.flatten) : more = [] := by
  cases more with
  | nil => rfl
  | cons line more =>
    cases segments with
    | nil => simp at hmore
    | cons next others =>
      obtain ⟨hanswer, first, hfirst, hnumbered⟩ := (List.isChain_cons_cons.mp h.apart).1
      obtain ⟨rest, rfl⟩ := List.head?_eq_some_iff.mp hfirst
      obtain rfl : line = first := (List.cons_prefix_cons.mp hmore).1
      exact absurd hnumbered (hwhole.not_isNumbered hanswer)

theorem IsCut.unique {others : List (List Text)} (h : IsCut lines segments)
    (h' : IsCut lines others) : others = segments := by
  induction segments generalizing lines others with
  | nil =>
    obtain rfl : [] = lines := h.flatten_eq
    cases others with
    | nil => rfl
    | cons s others =>
      have hnil := (List.append_eq_nil_iff.mp h'.flatten_eq).1
      exact absurd hnil (h'.ne_nil s List.mem_cons_self)
  | cons s segments ih =>
    have hs : s ≠ [] := h.ne_nil s List.mem_cons_self
    cases others with
    | nil =>
      have hnil := h.flatten_eq.trans h'.flatten_eq.symm
      exact absurd (List.append_eq_nil_iff.mp hnil).1 hs
    | cons s' others =>
      have heq : s ++ segments.flatten = s' ++ others.flatten :=
        h.flatten_eq.trans h'.flatten_eq.symm
      have hsame : s' = s ∧ others.flatten = segments.flatten := by
        rcases List.append_eq_append_iff.mp heq with ⟨more, rfl, hrest⟩ | ⟨more, rfl, hrest⟩
        · obtain rfl := h.eq_nil_of_isPrefix (h'.whole _ List.mem_cons_self) ⟨_, hrest.symm⟩
          exact ⟨List.append_nil s, hrest.symm⟩
        · obtain rfl := h'.eq_nil_of_isPrefix (h.whole _ List.mem_cons_self) ⟨_, hrest.symm⟩
          exact ⟨(List.append_nil s').symm, hrest⟩
      obtain ⟨rfl, hflatten⟩ := hsame
      have hothers : IsCut segments.flatten others := hflatten ▸ h'.of_cons
      rw [ih h.of_cons hothers]

/-! ## Reading a file segment by segment -/

/-- The draft that holds the lines of a segment by part. -/
def draftOf (s : List Text) : Draft :=
  ⟨(linesOf .description s).reverse, (linesOf .a s).reverse, (linesOf .b s).reverse,
    (linesOf .c s).reverse⟩

theorem draftOf_concat (s : List Text) (line : Text) :
    draftOf (s ++ [line]) = (draftOf s).add (partAfter (s ++ [line])) line := by
  simp only [draftOf, linesOf_concat]
  cases partAfter (s ++ [line]) <;> simp [Draft.add]

theorem isEmpty_draftOf (hs : s ≠ []) : (draftOf s).isEmpty = false := by
  obtain ⟨front, line, rfl⟩ := List.eq_nil_or_concat' s |>.resolve_left hs
  rw [draftOf_concat]
  cases partAfter (front ++ [line]) <;> simp [Draft.add, Draft.isEmpty]

/-- The question of a segment; its answers have to name their categories. -/
def questionOf (s : List Text) : Except Fault Question := (draftOf s).question

namespace Reading

variable {done : List Question}

/-- Behind some lines of a segment, with the questions of those before. -/
def within (done : List Question) (s : List Text) : Reading := ⟨done, draftOf s, partAfter s⟩

theorem turn_of_opened {r : Reading} {part : Part} (h : opened? line = some part) :
    r.turn line = .ok { r with part := part } := by
  unfold opened? at h
  split at h
  · obtain rfl := Option.some.inj h
    rfl
  · obtain rfl := Option.some.inj h
    rfl
  · obtain rfl := Option.some.inj h
    rfl
  · cases h

theorem turn_of_numbered (r : Reading) (h : IsNumbered line) :
    r.turn line = r.beginQuestion := by
  have hnone := opened?_eq_none_of_numbered h
  obtain ⟨digit, hdigit, hplain⟩ := h
  unfold turn
  split
  · cases hnone
  · cases hnone
  · cases hnone
  · obtain rfl := Option.some.inj hdigit
    rw [if_pos hplain]
  · cases hdigit

theorem turn_of_other (r : Reading) (hnone : opened? line = none) (h : ¬ IsNumbered line) :
    r.turn line = .ok r := by
  unfold turn
  split
  · cases hnone
  · cases hnone
  · cases hnone
  · rename_i first rest _ _ _
    have hplain : ¬ isPlainDigit first = true := fun hplain => h ⟨first, rfl, hplain⟩
    rw [if_neg hplain]
  · rfl

/-- In a segment, a line goes to its part. -/
theorem step_within (h : HasAnswer s → ¬ IsNumbered line) :
    (within done s).step line = .ok (within done (s ++ [line])) := by
  have hturn : (within done s).turn line =
      .ok { within done s with part := partAfter (s ++ [line]) } := by
    rw [partAfter_concat]
    cases hopened : opened? line with
    | some part => exact turn_of_opened hopened
    | none =>
      by_cases hnumbered : IsNumbered line
      · -- A number in the question itself begins nothing.
        have hpart : (within done s).part = .description :=
          partAfter_eq_description_iff.mpr fun hanswer => h hanswer hnumbered
        rw [turn_of_numbered _ hnumbered, beginQuestion, hpart]
        rfl
      · exact turn_of_other _ hopened hnumbered
  have hadd : within done (s ++ [line]) = ⟨done, (draftOf s).add (partAfter (s ++ [line])) line,
      partAfter (s ++ [line])⟩ := by
    rw [within, draftOf_concat]
  rw [step, hturn, hadd]
  rfl

theorem foldlM_within {rest : List Text} (h : IsWhole (s ++ rest)) :
    rest.foldlM step (within done s) = .ok (within done (s ++ rest)) := by
  induction rest generalizing s with
  | nil => rw [List.append_nil]; rfl
  | cons line rest ih =>
    have hline : HasAnswer s → ¬ IsNumbered line := h.not_isNumbered
    have hrest : IsWhole (s ++ [line] ++ rest) := by simpa using h
    rw [List.foldlM_cons, step_within hline, ok_bind, ih hrest]
    simp

/-- A numbered line behind an answer completes the question, and is then read as the first of its
own segment. -/
theorem step_next (hanswer : HasAnswer s) (hnumbered : IsNumbered line) :
    (within done s).step line =
      questionOf s >>= fun question => (within (question :: done) []).step line := by
  have hpart : (within done s).part ≠ .description := fun h =>
    partAfter_eq_description_iff.mp h hanswer
  have hbegin : (within done s).beginQuestion =
      questionOf s >>= fun question => .ok (within (question :: done) []) := by
    rw [beginQuestion]
    split
    · exact absurd ‹_› hpart
    · rfl
  have hfirst (question : Question) : (within (question :: done) []).turn line =
      .ok (within (question :: done) []) := turn_of_numbered _ hnumbered
  rw [step, turn_of_numbered _ hnumbered, hbegin, bind_assoc]
  simp only [step, hfirst, ok_bind]

theorem foldlM_next {next : List Text} (hanswer : HasAnswer s)
    (hnumbered : ∃ line ∈ next.head?, IsNumbered line) (hnext : IsWhole next) :
    next.foldlM step (within done s) =
      questionOf s >>= fun question => .ok (within (question :: done) next) := by
  obtain ⟨line, hline, hnumbered⟩ := hnumbered
  obtain ⟨rest, rfl⟩ := List.head?_eq_some_iff.mp hline
  have hfresh (question : Question) :
      (line :: rest).foldlM step (within (question :: done) []) =
        .ok (within (question :: done) (line :: rest)) := foldlM_within hnext
  simp only [← hfresh]
  rw [List.foldlM_cons, step_next hanswer hnumbered, bind_assoc]
  rfl

theorem close_within (hs : s ≠ []) : (within done s).close =
    questionOf s >>= fun question => .ok (done.reverse ++ [question]) := by
  rw [close, within, isEmpty_draftOf hs, if_neg Bool.false_ne_true]
  simp [questionOf]
  rfl

/-- From the first segment on, a file comes to the questions of its segments. -/
theorem finish_segments (h : IsCut lines (s :: segments)) :
    (segments.flatten.foldlM step (within done s) >>= close) =
      (s :: segments).mapM questionOf >>= fun questions => .ok (done.reverse ++ questions) := by
  induction segments generalizing lines s done with
  | nil =>
    have hs : s ≠ [] := h.ne_nil s List.mem_cons_self
    show (within done s).close = _
    rw [close_within hs, List.mapM_cons, bind_assoc]
    rfl
  | cons next segments ih =>
    obtain ⟨hanswer, hnumbered⟩ := (List.isChain_cons_cons.mp h.apart).1
    have hnext : IsWhole next := h.whole next (by simp)
    rw [List.flatten_cons, List.foldlM_append, foldlM_next hanswer hnumbered hnext, bind_assoc,
      bind_assoc, List.mapM_cons]
    simp only [ok_bind, ih h.of_cons, bind_assoc, pure_bind, List.reverse_cons, List.append_assoc,
      List.singleton_append]

end Reading

/-- The questions of a file are those of its segments, up to the first one that has none. -/
theorem parse_eq_mapM (h : IsCut t.lines segments) : parse t = segments.mapM questionOf := by
  have hstart : Reading.start = Reading.within [] [] := rfl
  rw [parse, ← h.flatten_eq, hstart]
  cases segments with
  | nil => rfl
  | cons s segments =>
    have hs : IsWhole ([] ++ s) := h.whole s List.mem_cons_self
    rw [List.flatten_cons, List.foldlM_append, Reading.foldlM_within hs, ok_bind]
    exact (Reading.finish_segments h).trans (bind_pure _)

end ArenaData.Question
