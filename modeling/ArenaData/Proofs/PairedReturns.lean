import ArenaData.Proofs.Lines
import ArenaData.Proofs.Trimming

/-!
# Carriage returns before line feeds

A text may have a carriage return before each of its line feeds, or before some of them: all that is
asked of it here is that every carriage return stands before a line feed (`Paired`). Its lines are
then those of the text without its carriage returns, but for one at the end of a line
(`lines_withoutReturns`). Such a return is a blank behind a key, it is what is erased from a title,
and with the line feed behind it it makes one line end.
-/

namespace ArenaData.Text

variable {c : Char} {s t line : Text} {ls : List Text}

/-- The text with a carriage return before every line feed. -/
def withReturns (t : Text) : Text :=
  t.flatMap fun c => if c = newline then [carriageReturn, newline] else [c]

/-- The text without its carriage returns. -/
def withoutReturns (t : Text) : Text := t.filter (· ≠ carriageReturn)

/-- Every carriage return stands directly before a line feed. -/
def Paired : Text → Prop
  | [] => True
  | c :: rest => (c = carriageReturn → rest.head? = some newline) ∧ Paired rest

/-- There is no carriage return, but perhaps one at the end. -/
def ReturnsLast (line : Text) : Prop :=
  ∃ front, carriageReturn ∉ front ∧ (line = front ∨ line = front ++ [carriageReturn])

/-! ## Texts without carriage returns -/

theorem withoutReturns_append (s t : Text) :
    withoutReturns (s ++ t) = withoutReturns s ++ withoutReturns t := List.filter_append s t

theorem withoutReturns_cons (hc : c ≠ carriageReturn) (t : Text) :
    withoutReturns (c :: t) = c :: withoutReturns t := List.filter_cons_of_pos (by simpa using hc)

@[simp]
theorem withoutReturns_cons_return (t : Text) :
    withoutReturns (carriageReturn :: t) = withoutReturns t := List.filter_cons_of_neg (by simp)

theorem withoutReturns_of_notMem (h : carriageReturn ∉ t) : withoutReturns t = t :=
  List.filter_eq_self.mpr fun _ hc => by simpa using ne_of_mem_of_not_mem hc h

theorem carriageReturn_notMem_withoutReturns (t : Text) : carriageReturn ∉ withoutReturns t := by
  simp [withoutReturns]

theorem withoutReturns_ofLines (ls : List Text) :
    withoutReturns (ofLines ls) = ofLines (ls.map withoutReturns) := by
  induction ls with
  | nil => rfl
  | cons line ls ih =>
    rw [ofLines_cons, withoutReturns_append, withoutReturns_cons (by decide), ih, List.map_cons,
      ofLines_cons]

theorem ReturnsLast.withoutReturns_eq (h : ReturnsLast line) :
    line = withoutReturns line ∨ line = withoutReturns line ++ [carriageReturn] := by
  obtain ⟨front, hfront, rfl | rfl⟩ := h
  · exact Or.inl (withoutReturns_of_notMem hfront).symm
  · right
    rw [withoutReturns_append, withoutReturns_of_notMem hfront, withoutReturns_cons_return]
    exact congrArg (· ++ [carriageReturn]) (List.append_nil front).symm

/-! ## Paired returns -/

theorem paired_append (h : carriageReturn ∉ s) : Paired (s ++ t) ↔ Paired t := by
  induction s with
  | nil => rfl
  | cons c s ih =>
    have hc : c ≠ carriageReturn := fun e => h (e ▸ List.mem_cons_self)
    have hs : carriageReturn ∉ s := fun hmem => h (List.mem_cons_of_mem c hmem)
    rw [List.cons_append, Paired, ih hs]
    simp [hc]

theorem paired_of_notMem (h : carriageReturn ∉ t) : Paired t := by
  rw [← List.append_nil t, paired_append h]
  trivial

theorem Paired.of_append (h : Paired (s ++ t)) : Paired t := by
  induction s with
  | nil => exact h
  | cons c s ih => exact ih h.2

theorem ReturnsLast.paired (h : ReturnsLast line) (ht : Paired t) :
    Paired (line ++ newline :: t) := by
  have hfeed : Paired (newline :: t) := ⟨fun e => absurd e (by decide), ht⟩
  obtain ⟨front, hfront, rfl | rfl⟩ := h
  · exact (paired_append hfront).mpr hfeed
  · rw [List.append_assoc, paired_append hfront]
    exact ⟨fun _ => rfl, hfeed⟩

theorem Paired.returnsLast (hline : newline ∉ line) (h : Paired (line ++ newline :: t)) :
    ReturnsLast line := by
  induction line with
  | nil => exact ⟨[], List.not_mem_nil, Or.inl rfl⟩
  | cons c line ih =>
    obtain ⟨hc, hrest⟩ := h
    have hother : newline ∉ line := fun hmem => hline (List.mem_cons_of_mem c hmem)
    by_cases hreturn : c = carriageReturn
    · -- The line feed behind a return is the one that ends the line.
      have hhead := hc hreturn
      cases line with
      | nil => exact ⟨[], List.not_mem_nil, Or.inr (by simp [hreturn])⟩
      | cons d line =>
        obtain rfl : d = newline := Option.some.inj hhead
        exact absurd List.mem_cons_self hother
    · obtain ⟨front, hfront, hcases⟩ := ih hother hrest
      refine ⟨c :: front, List.not_mem_cons_of_ne_of_not_mem (Ne.symm hreturn) hfront, ?_⟩
      simpa using hcases

theorem paired_ofLines_append (hls : ∀ line ∈ ls, newline ∉ line) :
    Paired (ofLines ls ++ t) ↔ (∀ line ∈ ls, ReturnsLast line) ∧ Paired t := by
  induction ls with
  | nil => simp
  | cons line ls ih =>
    obtain ⟨hline, hothers⟩ := List.forall_mem_cons.mp hls
    rw [ofLines_cons, List.append_assoc, List.cons_append, List.forall_mem_cons, and_assoc,
      ← ih hothers]
    constructor
    · exact fun h => ⟨h.returnsLast hline, h.of_append.2⟩
    · rintro ⟨hreturns, hrest⟩
      exact hreturns.paired hrest

theorem paired_ofLines (h : ∀ line ∈ ls, ReturnsLast line) : Paired (ofLines ls) := by
  induction ls with
  | nil => trivial
  | cons line ls ih =>
    obtain ⟨hline, hothers⟩ := List.forall_mem_cons.mp h
    rw [ofLines_cons]
    exact hline.paired (ih hothers)

theorem Paired.carriageReturn_notMem (h : Paired t) (ht : newline ∉ t) : carriageReturn ∉ t := by
  induction t with
  | nil => exact List.not_mem_nil
  | cons c t ih =>
    have hrest : newline ∉ t := fun hmem => ht (List.mem_cons_of_mem c hmem)
    refine List.not_mem_cons_of_ne_of_not_mem (fun e => ?_) (ih h.2 hrest)
    exact hrest (List.mem_of_mem_head? (h.1 e.symm))

theorem head?_withoutReturns (h : Paired t) (hreturn : c ≠ carriageReturn) (hfeed : c ≠ newline) :
    (withoutReturns t).head? = some c ↔ t.head? = some c := by
  cases t with
  | nil => rfl
  | cons d t =>
    by_cases hd : d = carriageReturn
    · obtain ⟨rest, rfl⟩ := List.head?_eq_some_iff.mp (h.1 hd)
      rw [hd, withoutReturns_cons_return, withoutReturns_cons (by decide)]
      simp [Ne.symm hreturn, Ne.symm hfeed]
    · rw [withoutReturns_cons hd]
      rfl

/-- A pair of carriage return and line feed is one line feed, so only the returns go. -/
theorem normalizeNewlines_of_paired (h : Paired t) : normalizeNewlines t = withoutReturns t := by
  fun_induction normalizeNewlines t with
  | case1 rest ih => exact congrArg (newline :: ·) (ih h.2.2)
  | case2 rest hno _ =>
    obtain ⟨behind, rfl⟩ := List.head?_eq_some_iff.mp (h.1 rfl)
    exact absurd rfl (hno behind)
  | case3 c rest _ hc ih => rw [withoutReturns_cons hc, ih h.2]
  | case4 => rfl

theorem normalizeNewlines_withoutReturns (h : Paired t) :
    normalizeNewlines (withoutReturns t) = normalizeNewlines t := by
  have hnone := carriageReturn_notMem_withoutReturns t
  rw [normalizeNewlines_of_paired (paired_of_notMem hnone), normalizeNewlines_of_paired h,
    withoutReturns_of_notMem hnone]

theorem withReturns_cons (c : Char) (t : Text) : withReturns (c :: t) =
    (if c = newline then [carriageReturn, newline] else [c]) ++ withReturns t := List.flatMap_cons

/-- Returns that have been put before the line feeds are all that there are. -/
theorem paired_withReturns (h : carriageReturn ∉ t) :
    Paired (withReturns t) ∧ withoutReturns (withReturns t) = t := by
  induction t with
  | nil => exact ⟨trivial, rfl⟩
  | cons c t ih =>
    obtain ⟨hpaired, hwithout⟩ := ih fun hmem => h (List.mem_cons_of_mem c hmem)
    have hc : c ≠ carriageReturn := fun e => h (e ▸ List.mem_cons_self)
    rw [withReturns_cons]
    by_cases hfeed : c = newline
    · rw [if_pos hfeed, hfeed]
      refine ⟨⟨fun _ => rfl, fun e => absurd e (by decide), hpaired⟩, ?_⟩
      rw [withoutReturns_append, hwithout]
      rfl
    · rw [if_neg hfeed, List.singleton_append, withoutReturns_cons hc, hwithout]
      exact ⟨⟨fun e => absurd e hc, hpaired⟩, rfl⟩

/-! ## Lines -/

theorem Paired.returnsLast_of_mem_lines (h : Paired t) : ∀ line ∈ t.lines, ReturnsLast line := by
  obtain ⟨ls, rest, hls, hrest, rfl⟩ := exists_ofLines_append t
  obtain ⟨hreturns, hpaired⟩ := (paired_ofLines_append hls).mp h
  have hnone := hpaired.carriageReturn_notMem hrest
  rw [lines_ofLines_append hls, lines_of_newline_notMem hrest]
  refine List.forall_mem_append.mpr ⟨hreturns, fun line hline => ?_⟩
  obtain rfl : line = rest := by
    split at hline
    · exact absurd hline List.not_mem_nil
    · exact List.mem_singleton.mp hline
  exact ⟨line, hnone, Or.inl rfl⟩

theorem lines_withoutReturns (h : Paired t) :
    t.withoutReturns.lines = t.lines.map withoutReturns := by
  obtain ⟨ls, rest, hls, hrest, rfl⟩ := exists_ofLines_append t
  have hnone := ((paired_ofLines_append hls).mp h).2.carriageReturn_notMem hrest
  have hplain : ∀ line ∈ ls.map withoutReturns, newline ∉ line := by
    intro line hline hmem
    obtain ⟨other, hother, rfl⟩ := List.mem_map.mp hline
    exact hls other hother (List.mem_of_mem_filter hmem)
  have hlines : rest.lines.map withoutReturns = rest.lines := by
    rw [lines_of_newline_notMem hrest]
    split
    · rfl
    · rw [List.map_singleton, withoutReturns_of_notMem hnone]
  rw [withoutReturns_append, withoutReturns_ofLines, withoutReturns_of_notMem hnone,
    lines_ofLines_append hplain, lines_ofLines_append hls, List.map_append, hlines]

namespace ReturnsLast

theorem of_cons (h : ReturnsLast (c :: line)) : ReturnsLast line := by
  obtain ⟨front, hfront, rfl | hline⟩ := h
  · exact ⟨line, fun hmem => hfront (List.mem_cons_of_mem c hmem), Or.inl rfl⟩
  · cases front with
    | nil => exact ⟨[], List.not_mem_nil, Or.inl (List.cons.inj hline).2⟩
    | cons d front =>
      have hnone : carriageReturn ∉ front := fun hmem => hfront (List.mem_cons_of_mem d hmem)
      exact ⟨front, hnone, Or.inr (List.cons.inj hline).2⟩

theorem trim (h : ReturnsLast line) : (withoutReturns line).trim = line.trim := by
  rcases h.withoutReturns_eq with heq | heq
  · rw [← heq]
  · conv_rhs => rw [heq, trim_concat (by decide)]

theorem erase (h : ReturnsLast line) :
    (withoutReturns line).erase carriageReturn = line.erase carriageReturn := by
  have hnone := carriageReturn_notMem_withoutReturns line
  rcases h.withoutReturns_eq with heq | heq
  · rw [← heq]
  · conv_rhs => rw [heq, List.erase_append_right _ hnone, List.erase_cons_head, List.append_nil]
    exact List.erase_of_not_mem hnone

theorem normalizeNewlines (h : ReturnsLast line) :
    Text.normalizeNewlines (withoutReturns line ++ [newline]) =
      Text.normalizeNewlines (line ++ [newline]) := by
  have hfeed : Paired (line ++ [newline]) := h.paired (t := []) trivial
  rw [← normalizeNewlines_withoutReturns hfeed, withoutReturns_append]
  rfl

theorem head?_eq_some_iff (h : ReturnsLast line) (hc : c ≠ carriageReturn) :
    (withoutReturns line).head? = some c ↔ line.head? = some c := by
  rcases h.withoutReturns_eq with heq | heq
  · rw [← heq]
  · conv_rhs => rw [heq]
    cases withoutReturns line with
    | nil => simp [Ne.symm hc]
    | cons d rest => rfl

end ReturnsLast

end ArenaData.Text
