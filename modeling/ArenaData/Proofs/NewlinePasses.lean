import ArenaData.Proofs.Lines

/-!
# Line ends in two passes and in one

The usual way to bring line ends to one form takes two passes: first every pair of carriage return
and line feed is replaced, and then every carriage return that is left. One pass from left to right
comes to the same (`replaceAll_replaceAll`). A text can be normalized piece by piece unless a cut
goes through a pair, and then it cannot (`normalizeNewlines_append_iff`). Cuts behind line feeds
never do, so it makes no difference whether the lines of a block are normalized one by one or all
together.
-/

namespace ArenaData.Text

variable {s t : Text}

/-- `replaceAll` on the text behind an occurrence of the needle, of which `skip` characters are
still to be passed over. -/
def replaceFrom (needle replacement : Text) : Nat → Text → Text
  | _, [] => []
  | skip + 1, _ :: rest => replaceFrom needle replacement skip rest
  | 0, c :: rest =>
    if needle.isPrefixOf (c :: rest) then
      replacement ++ replaceFrom needle replacement (needle.length - 1) rest
    else c :: replaceFrom needle replacement 0 rest

/-- The text with every occurrence of a needle replaced. The needle is not empty; its occurrences
are found from left to right, and none of them begins inside the one before it. -/
def replaceAll (needle replacement t : Text) : Text := replaceFrom needle replacement 0 t

example : replaceAll "aa".toList "b".toList "aaaca".toList = "baca".toList := by decide

/-! ## Two passes -/

theorem replaceAll_single_cons (c d x : Char) (t : Text) :
    replaceAll [c] [d] (x :: t) = (if x = c then d else x) :: replaceAll [c] [d] t := by
  by_cases hx : x = c
  · simp [replaceAll, replaceFrom, hx]
  · simp [replaceAll, replaceFrom, hx, Ne.symm hx]

theorem replaceAll_pair_of_ne {c d x : Char} (hx : x ≠ c) (replacement t : Text) :
    replaceAll [c, d] replacement (x :: t) = x :: replaceAll [c, d] replacement t := by
  simp [replaceAll, replaceFrom, Ne.symm hx]

theorem replaceAll_pair_of_head (c d : Char) (replacement t : Text) :
    replaceAll [c, d] replacement (c :: d :: t) =
      replacement ++ replaceAll [c, d] replacement t := by
  simp [replaceAll, replaceFrom]

theorem replaceAll_pair_of_head_ne (c d : Char) (replacement : Text) (ht : t.head? ≠ some d) :
    replaceAll [c, d] replacement (c :: t) = c :: replaceAll [c, d] replacement t := by
  cases t with
  | nil => simp [replaceAll, replaceFrom]
  | cons x t =>
    have hx : d ≠ x := fun h => ht (congrArg some h.symm)
    simp [replaceAll, replaceFrom, hx]

/-- Pairs first and then the returns that are left: the same as one pass. -/
theorem replaceAll_replaceAll (t : Text) :
    replaceAll [carriageReturn] [newline] (replaceAll [carriageReturn, newline] [newline] t) =
      normalizeNewlines t := by
  fun_induction normalizeNewlines t with
  | case1 rest ih =>
    have hpair := replaceAll_pair_of_head carriageReturn newline [newline] rest
    rw [← ih]
    exact (congrArg _ hpair).trans (replaceAll_single_cons _ _ _ _)
  | case2 rest hno ih =>
    -- No line feed follows, so the return is left to the second pass.
    have hhead : rest.head? ≠ some newline := by
      intro hfeed
      obtain ⟨behind, rfl⟩ := List.head?_eq_some_iff.mp hfeed
      exact hno behind rfl
    have hsingle := replaceAll_pair_of_head_ne carriageReturn newline [newline] hhead
    rw [← ih]
    exact (congrArg _ hsingle).trans (replaceAll_single_cons _ _ _ _)
  | case3 c rest _ hc ih =>
    have hc : c ≠ carriageReturn := hc
    rw [replaceAll_pair_of_ne hc, replaceAll_single_cons, if_neg hc, ih]
  | case4 => rfl

/-! ## Cuts -/

/-- A cut through a pair makes two line feeds of it. -/
theorem length_normalizeNewlines_cut (s t : Text) :
    (normalizeNewlines (s ++ [carriageReturn]) ++ normalizeNewlines (newline :: t)).length =
      (normalizeNewlines (s ++ [carriageReturn] ++ newline :: t)).length + 1 := by
  have hfront : normalizeNewlines (s ++ [carriageReturn]) = normalizeNewlines s ++ [newline] :=
    normalizeNewlines_append fun _ => by decide
  have hwhole : normalizeNewlines (s ++ carriageReturn :: newline :: t) =
      normalizeNewlines s ++ newline :: normalizeNewlines t :=
    normalizeNewlines_append fun _ hfeed => absurd (Option.some.inj hfeed) (by decide)
  have hback : normalizeNewlines (newline :: t) = newline :: normalizeNewlines t :=
    normalizeNewlines_cons (by decide) t
  rw [List.append_assoc, List.singleton_append, hwhole, hfront, hback]
  simp
  omega

/-- A text can be normalized in two pieces iff the cut does not go through a pair. -/
theorem normalizeNewlines_append_iff (s t : Text) :
    normalizeNewlines (s ++ t) = normalizeNewlines s ++ normalizeNewlines t ↔
      ¬ (s.getLast? = some carriageReturn ∧ t.head? = some newline) := by
  constructor
  · rintro heq ⟨hreturn, hfeed⟩
    obtain ⟨front, rfl⟩ := List.getLast?_eq_some_iff.mp hreturn
    obtain ⟨back, rfl⟩ := List.head?_eq_some_iff.mp hfeed
    have hlength := length_normalizeNewlines_cut front back
    rw [← heq] at hlength
    omega
  · intro hcut
    exact normalizeNewlines_append fun hreturn hfeed => hcut ⟨hreturn, hfeed⟩

/-- Two passes over a text and one pass give the same, which has no carriage return. In pieces a
text gives the same as well, unless it is cut through a pair of carriage return and line feed, and
so do lines, normalized one by one with their line feeds or all together. -/
theorem normalizeNewlines_in_passes (s t : Text) (lines : List Text) :
    replaceAll [carriageReturn] [newline] (replaceAll [carriageReturn, newline] [newline] t) =
      normalizeNewlines t ∧
    carriageReturn ∉ normalizeNewlines t ∧
    (normalizeNewlines (s ++ t) = normalizeNewlines s ++ normalizeNewlines t ↔
      ¬ (s.getLast? = some carriageReturn ∧ t.head? = some newline)) ∧
    (lines.map fun line => normalizeNewlines (line ++ [newline])).flatten =
      normalizeNewlines (ofLines lines) := by
  have hpasses := replaceAll_replaceAll t
  have hreturn := carriageReturn_notMem_normalizeNewlines t
  have hcut := normalizeNewlines_append_iff s t
  have hlines := flatten_map_normalizeNewlines lines
  exact ⟨hpasses, hreturn, hcut, hlines⟩

end ArenaData.Text
