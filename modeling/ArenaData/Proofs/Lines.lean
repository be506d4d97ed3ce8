import ArenaData.Text.Lines
import Mathlib.Data.List.Basic

/-!
# The lines of a text

Every text is a number of lines that are ended by their line feeds, followed by a rest without a
line feed (`exists_ofLines_append`). Its lines are then these, and the rest if there is one
(`lines_ofLines_append`, `lines_of_newline_notMem`): what is said of lines below is read off this
form of the text. In particular the lines are the pieces between the line feeds, without the empty
piece behind a line feed at the end (`lines_eq_splitOn`), and the lines of a text whose last line is
ended go before those of whatever follows it (`lines_append`).
-/

namespace ArenaData.Text

variable {s t : Text} {ls : List Text}

/-- The lines one after the other, each with the line feed that ends it. -/
def ofLines (ls : List Text) : Text := ls.flatMap (· ++ [newline])

/-- Every line of the text is ended by a line feed: what is put behind it opens a line of its own.
-/
def Ended (t : Text) : Prop := t = [] ∨ t.getLast? = some newline

@[simp]
theorem ofLines_nil : ofLines [] = [] := rfl

@[simp]
theorem ofLines_cons (line : Text) (ls : List Text) :
    ofLines (line :: ls) = line ++ newline :: ofLines ls := by
  simp [ofLines]

theorem ofLines_append (ls ms : List Text) : ofLines (ls ++ ms) = ofLines ls ++ ofLines ms := by
  simp [ofLines]

theorem ended_ofLines (ls : List Text) : Ended (ofLines ls) := by
  rcases List.eq_nil_or_concat' ls with rfl | ⟨front, line, rfl⟩
  · exact Or.inl rfl
  · right
    simp [ofLines_append]

/-! ## One pass over the characters -/

theorem linesFrom_append (h : newline ∉ s) (done : List Text) (current t : Text) :
    linesFrom done current (s ++ t) = linesFrom done (s.reverse ++ current) t := by
  induction s generalizing current with
  | nil => rfl
  | cons c s ih =>
    have hc : c ≠ newline := fun e => h (e ▸ List.mem_cons_self)
    have hs : newline ∉ s := fun hmem => h (List.mem_cons_of_mem c hmem)
    rw [List.cons_append, linesFrom, if_neg hc, ih hs]
    simp

theorem linesFrom_eq_append (done : List Text) (current t : Text) :
    linesFrom done current t = done.reverse ++ linesFrom [] current t := by
  induction t generalizing done current with
  | nil =>
    unfold linesFrom
    split <;> simp
  | cons c t ih =>
    by_cases hc : c = newline
    · have hdone := ih (current.reverse :: done) []
      have hnone := ih [current.reverse] []
      rw [linesFrom, if_pos hc, hdone, linesFrom, if_pos hc, hnone]
      simp
    · rw [linesFrom, if_neg hc, ih done (c :: current), linesFrom, if_neg hc]

theorem lines_append_newline (h : newline ∉ s) (t : Text) :
    (s ++ newline :: t).lines = s :: t.lines := by
  rw [lines, linesFrom_append h, linesFrom, if_pos rfl, linesFrom_eq_append]
  simp [lines]

theorem lines_of_newline_notMem (h : newline ∉ t) : t.lines = if t = [] then [] else [t] := by
  have hread := linesFrom_append h [] [] []
  rw [List.append_nil, List.append_nil] at hread
  rw [lines, hread]
  unfold linesFrom
  by_cases ht : t = [] <;> simp [ht]

/-! ## Ended lines and a rest -/

/-- What was written line by line is read line by line. -/
theorem lines_ofLines_append (h : ∀ line ∈ ls, newline ∉ line) (t : Text) :
    (ofLines ls ++ t).lines = ls ++ t.lines := by
  induction ls with
  | nil => rfl
  | cons line ls ih =>
    obtain ⟨hline, hls⟩ := List.forall_mem_cons.mp h
    rw [ofLines_cons, List.append_assoc, List.cons_append, lines_append_newline hline, ih hls,
      List.cons_append]

theorem lines_ofLines (h : ∀ line ∈ ls, newline ∉ line) : (ofLines ls).lines = ls := by
  have hlines := lines_ofLines_append h []
  rw [List.append_nil] at hlines
  rw [hlines]
  exact List.append_nil ls

theorem exists_ofLines_append (t : Text) : ∃ ls rest,
    (∀ line ∈ ls, newline ∉ line) ∧ newline ∉ rest ∧ t = ofLines ls ++ rest := by
  induction t with
  | nil => exact ⟨[], [], by simp, by simp, rfl⟩
  | cons c t ih =>
    obtain ⟨ls, rest, hls, hrest, rfl⟩ := ih
    by_cases hc : c = newline
    · -- The line feed ends an empty line.
      have hlines : ∀ line ∈ [] :: ls, newline ∉ line :=
        List.forall_mem_cons.mpr ⟨List.not_mem_nil, hls⟩
      exact ⟨[] :: ls, rest, hlines, hrest, by simp [hc]⟩
    · -- Any other character goes to the front of what comes first: a line, or else the rest.
      cases ls with
      | nil => exact ⟨[], c :: rest, by simp, by simp [Ne.symm hc, hrest], rfl⟩
      | cons first ls =>
        obtain ⟨hfirst, hothers⟩ := List.forall_mem_cons.mp hls
        have hlines : ∀ line ∈ (c :: first) :: ls, newline ∉ line :=
          List.forall_mem_cons.mpr ⟨List.not_mem_cons_of_ne_of_not_mem (Ne.symm hc) hfirst, hothers⟩
        exact ⟨(c :: first) :: ls, rest, hlines, hrest, by simp⟩

theorem eq_nil_of_ended_append (hrest : newline ∉ s) (h : Ended (t ++ s)) : s = [] := by
  by_contra hne
  rcases h with h | h
  · exact hne (List.append_eq_nil_iff.mp h).2
  · rw [List.getLast?_append_of_ne_nil t hne] at h
    exact hrest (List.mem_of_getLast? h)

/-- Where the last line of a text is ended, what follows has lines of its own. -/
theorem lines_append (h : Ended s) (t : Text) : (s ++ t).lines = s.lines ++ t.lines := by
  obtain ⟨ls, rest, hls, hrest, rfl⟩ := exists_ofLines_append s
  obtain rfl := eq_nil_of_ended_append hrest h
  rw [List.append_nil, lines_ofLines_append hls, lines_ofLines hls]

theorem ofLines_lines (h : Ended t) : ofLines t.lines = t := by
  obtain ⟨ls, rest, hls, hrest, rfl⟩ := exists_ofLines_append t
  obtain rfl := eq_nil_of_ended_append hrest h
  rw [List.append_nil, lines_ofLines hls]

/-- A line stands in the text, at its beginning or behind a line feed, and has no line feed. -/
theorem exists_of_mem_lines {line : Text} (h : line ∈ t.lines) :
    newline ∉ line ∧ ∃ front back, Ended front ∧ t = front ++ line ++ back := by
  obtain ⟨ls, rest, hls, hrest, rfl⟩ := exists_ofLines_append t
  rw [lines_ofLines_append hls, lines_of_newline_notMem hrest] at h
  rcases List.mem_append.mp h with h | h
  · obtain ⟨before, behind, rfl⟩ := List.append_of_mem h
    refine ⟨hls line h, ofLines before, newline :: ofLines behind ++ rest, ended_ofLines before, ?_⟩
    simp [ofLines_append]
  · by_cases hnil : rest = []
    · simp [hnil] at h
    · obtain rfl : line = rest := by simpa [hnil] using h
      exact ⟨hrest, ofLines ls, [], ended_ofLines ls, by simp⟩

/-- The first line of a text begins with its first character. -/
theorem exists_lines_eq_cons {c : Char} (h : t.head? = some c) (hc : c ≠ newline) :
    ∃ line ls, t.lines = (c :: line) :: ls := by
  obtain ⟨ls, rest, hls, hrest, rfl⟩ := exists_ofLines_append t
  rw [lines_ofLines_append hls, lines_of_newline_notMem hrest]
  cases ls with
  | nil =>
    obtain ⟨line, rfl⟩ := List.head?_eq_some_iff.mp h
    exact ⟨line, [], rfl⟩
  | cons first ls =>
    cases first with
    | nil => exact absurd (by simpa using h.symm) hc
    | cons d first =>
      obtain rfl : d = c := by simpa using h
      exact ⟨first, _, rfl⟩

theorem splitOn_ofLines_append (h : ∀ line ∈ ls, newline ∉ line) (hrest : newline ∉ t) :
    (ofLines ls ++ t).splitOn newline = ls ++ [t] := by
  induction ls with
  | nil => exact List.splitOn_eq_singleton hrest
  | cons line ls ih =>
    obtain ⟨hline, hls⟩ := List.forall_mem_cons.mp h
    rw [ofLines_cons, List.append_assoc, List.cons_append,
      List.splitOn_append_cons_self_of_not_mem hline, ih hls, List.cons_append]

/-- The lines are the pieces between the line feeds; an empty piece at the end is none. -/
theorem lines_eq_splitOn (t : Text) : t.lines =
    if (t.splitOn newline).getLast? = some [] then (t.splitOn newline).dropLast
    else t.splitOn newline := by
  obtain ⟨ls, rest, hls, hrest, rfl⟩ := exists_ofLines_append t
  rw [lines_ofLines_append hls, lines_of_newline_notMem hrest, splitOn_ofLines_append hls hrest]
  by_cases hnil : rest = [] <;> simp [hnil]

/-! ## Line ends -/

theorem normalizeNewlines_cons {c : Char} (hc : c ≠ carriageReturn) (t : Text) :
    normalizeNewlines (c :: t) = c :: normalizeNewlines t := by
  have hpair : ∀ rest, c = carriageReturn → t = newline :: rest → False := fun _ h _ => hc h
  exact normalizeNewlines.eq_3 c t hpair hc

theorem head?_normalizeNewlines {c : Char} (hc : c ≠ newline) :
    (normalizeNewlines t).head? = some c → t.head? = some c := by
  intro h
  unfold normalizeNewlines at h
  split at h
  · exact absurd (Option.some.inj h).symm hc
  · exact absurd (Option.some.inj h).symm hc
  · exact h
  · exact h

/-- Texts can be normalized one after the other, unless the cut goes through a pair of carriage
return and line feed. -/
theorem normalizeNewlines_append (h : s.getLast? = some carriageReturn → t.head? ≠ some newline) :
    normalizeNewlines (s ++ t) = normalizeNewlines s ++ normalizeNewlines t := by
  fun_induction normalizeNewlines s with
  | case1 rest ih =>
    have hrest := ih fun hlast => h (List.mem_getLast?_cons (List.mem_getLast?_cons hlast))
    exact congrArg (newline :: ·) hrest
  | case2 rest hno ih =>
    have hrest := ih fun hlast => h (List.mem_getLast?_cons hlast)
    -- No line feed follows the return, whether the cut is right behind it or not.
    have hsingle : ∀ behind, rest ++ t = newline :: behind → False := by
      intro behind heq
      cases rest with
      | nil => exact h rfl (congrArg List.head? heq)
      | cons c rest =>
        obtain ⟨rfl, -⟩ := List.cons.inj heq
        exact hno rest rfl
    rw [List.cons_append, normalizeNewlines.eq_2 _ hsingle, hrest, List.cons_append]
  | case3 c rest _ hc ih =>
    have hrest := ih fun hlast => h (List.mem_getLast?_cons hlast)
    rw [List.cons_append, normalizeNewlines_cons hc, hrest, List.cons_append]
  | case4 => rfl

/-- Behind a line feed a text can be cut, so lines can be normalized one by one. -/
theorem flatten_map_normalizeNewlines (lines : List Text) :
    (lines.map fun line => normalizeNewlines (line ++ [newline])).flatten =
      normalizeNewlines (ofLines lines) := by
  induction lines with
  | nil => rfl
  | cons line lines ih =>
    have hfeed : (line ++ [newline]).getLast? = some newline := List.getLast?_concat
    rw [List.map_cons, List.flatten_cons, ih, ← normalizeNewlines_append, ofLines_cons,
      List.append_assoc, List.singleton_append]
    intro hreturn
    rw [hfeed] at hreturn
    exact absurd hreturn (by decide)

theorem getLast?_normalizeNewlines_concat (t : Text) :
    (normalizeNewlines (t ++ [newline])).getLast? = some newline := by
  by_cases h : t.getLast? = some carriageReturn
  · -- The pair at the end is one line feed.
    obtain ⟨front, rfl⟩ := List.getLast?_eq_some_iff.mp h
    rw [List.append_assoc, normalizeNewlines_append fun _ => by decide]
    exact List.getLast?_concat
  · rw [normalizeNewlines_append fun hlast => absurd hlast h]
    exact List.getLast?_concat

theorem carriageReturn_notMem_normalizeNewlines (t : Text) :
    carriageReturn ∉ t.normalizeNewlines := by
  have hfeed : carriageReturn ≠ newline := by decide
  fun_induction normalizeNewlines t with
  | case1 rest ih => exact List.not_mem_cons_of_ne_of_not_mem hfeed ih
  | case2 rest _ ih => exact List.not_mem_cons_of_ne_of_not_mem hfeed ih
  | case3 c rest _ hc ih =>
    exact List.not_mem_cons_of_ne_of_not_mem (fun h => hc h.symm) ih
  | case4 => exact List.not_mem_nil

end ArenaData.Text
