import ArenaData.Proofs.TemplateSections
import ArenaData.Proofs.TemplateTable

/-!
# Writing tables of templates

A table is written as one section for each entry. A text may have lines that begin with the sign of
a key line, and at its end line feeds and `&` signs of its own, and all of this has to come back. A
carriage return in place of the line feed before such a sign keeps it out of the beginning of its
line, and is a line feed again once the text is read; one `&` behind the text is what reading takes
away, so that nothing else is.

Not every table comes back, because reading trims keys, drops what repeats one and makes line ends
one kind. The tables that do are those that files are read as (`IsWritable`).
-/

namespace ArenaData.Template

open Text (newline carriageReturn ofLines Ended normalizeNewlines)

variable {t u key text : Text} {table : TemplateTable}

/-- The text with a carriage return for every line feed that stands directly before a `#`. -/
def hideMarks : Text → Text
  | '\n' :: '#' :: rest => '\r' :: '#' :: hideMarks rest
  | c :: rest => c :: hideMarks rest
  | [] => []

/-- The lines of an entry. -/
def writeEntry (entry : Text × Text) : Text :=
  '#' :: entry.1 ++ newline :: hideMarks entry.2 ++ [continuation, newline]

/-- The file of a table. -/
def write (table : TemplateTable) : Text := table.flatMap writeEntry

/-- What tables that are read from files have in common: the keys are lines without blanks around
them, and differ; the texts have line feeds for line ends, and do not begin with a `#`. -/
structure IsWritable (table : TemplateTable) : Prop extends IsTable table where
  newline_notMem_key : ∀ entry ∈ table, newline ∉ entry.1
  unmarked : ∀ entry ∈ table, entry.2.head? ≠ some '#'

/-! ## Hidden marks -/

theorem head?_hideMarks : (hideMarks t).head? = some '#' ↔ t.head? = some '#' := by
  unfold hideMarks
  split <;> simp

theorem hideMarks_append (hu : u.head? ≠ some '#') :
    hideMarks (t ++ u) = hideMarks t ++ hideMarks u := by
  fun_induction hideMarks t with
  | case1 rest ih =>
    show '\r' :: '#' :: hideMarks (rest ++ u) = _
    rw [ih]
    rfl
  | case2 c rest hc ih =>
    -- A line feed at the end of the first text stays, because no mark follows it.
    have hopen : ∀ r, c = '\n' → rest ++ u = '#' :: r → False := by
      intro r hfeed hr
      cases rest with
      | nil => exact hu (by simp [show u = '#' :: r from hr])
      | cons d rest => exact hc rest hfeed (by simp [(List.cons.inj hr).1])
    rw [List.cons_append, hideMarks.eq_2 _ _ hopen, ih, List.cons_append]
  | case3 => rfl

/-- No mark is left behind a line feed. -/
theorem mark_notInfix_hideMarks (t : Text) : ¬ [newline, '#'] <:+: hideMarks t := by
  fun_induction hideMarks t with
  | case1 rest ih =>
    have hreturn : newline ≠ '\r' := by decide
    have hmark : newline ≠ '#' := by decide
    rw [List.infix_cons_iff, List.infix_cons_iff]
    simp [hreturn, hmark, ih]
  | case2 c rest hc ih =>
    rw [List.infix_cons_iff]
    rintro (⟨back, hfront⟩ | hinfix)
    · obtain ⟨hfeed, hmark⟩ := List.cons.inj hfront
      have hhead : (hideMarks rest).head? = some '#' := by simp [← hmark]
      obtain ⟨r, hr⟩ := List.head?_eq_some_iff.mp (head?_hideMarks.mp hhead)
      exact hc r hfeed.symm hr
    · exact ih hinfix
  | case3 => simp

/-- Hidden marks come back when the line ends are made one kind. -/
theorem normalizeNewlines_hideMarks (h : carriageReturn ∉ t) :
    normalizeNewlines (hideMarks t) = t := by
  fun_induction hideMarks t with
  | case1 rest ih =>
    have hrest : carriageReturn ∉ rest := by simp_all
    show '\n' :: '#' :: normalizeNewlines (hideMarks rest) = _
    rw [ih hrest]
  | case2 c rest hc ih =>
    have hne : c ≠ carriageReturn := fun e => h (e ▸ List.mem_cons_self)
    have hrest : carriageReturn ∉ rest := fun hmem => h (List.mem_cons_of_mem c hmem)
    rw [Text.normalizeNewlines_cons hne, ih hrest]
  | case3 => rfl

/-! ## Entries -/

/-- A text with a key mark at the front of a line begins with it, or has it behind a line feed. -/
theorem not_isKeyLine_of_mem_lines (hhead : t.head? ≠ some '#') (hinner : ¬ [newline, '#'] <:+: t)
    {line : Text} (hline : line ∈ t.lines) : ¬ IsKeyLine line := by
  intro hkey
  obtain ⟨rest, rfl⟩ := List.head?_eq_some_iff.mp hkey
  obtain ⟨-, front, back, hended, rfl⟩ := Text.exists_of_mem_lines hline
  rcases hended with rfl | hended
  · exact hhead rfl
  · obtain ⟨before, rfl⟩ := List.getLast?_eq_some_iff.mp hended
    exact hinner ⟨before, rest ++ back, by simp⟩

/-- What follows the key line of an entry: its text with the marks hidden, and a sign to drop. -/
theorem hideMarks_closed (text : Text) :
    hideMarks text ++ [continuation, newline] = hideMarks (text ++ [continuation, newline]) := by
  rw [hideMarks_append (by decide)]
  rfl

theorem clean_hideMarks (h : carriageReturn ∉ text) :
    clean (hideMarks text ++ [continuation, newline]) = text := by
  have hsigns : carriageReturn ∉ [continuation, newline] := by decide
  have hall : carriageReturn ∉ text ++ [continuation, newline] := by
    simp only [List.mem_append, h, hsigns, or_self, not_false_eq_true]
  have hdrop : dropFinalNewlines (text ++ [continuation, newline]) = text ++ [continuation] := by
    simp [dropFinalNewlines, continuation, newline]
  rw [hideMarks_closed, clean, normalizeNewlines_hideMarks hall, hdrop]
  simp

theorem parse_writeEntry (hne : key ≠ []) (htrim : key.trim = key) (hkey : newline ∉ key)
    (hreturn : carriageReturn ∉ text) (hmark : text.head? ≠ some '#') :
    parse (writeEntry (key, text)) = [(key, text)] := by
  have hbody : ∀ line ∈ (hideMarks text ++ [continuation, newline]).lines, ¬ IsKeyLine line := by
    intro line hline
    rw [hideMarks_closed] at hline
    refine not_isKeyLine_of_mem_lines ?_ (mark_notInfix_hideMarks _) hline
    rw [Ne, head?_hideMarks, List.head?_append]
    cases text with
    | nil => decide
    | cons c text => simpa using hmark
  let s : Section := ⟨key, _, hbody⟩
  have hcut : IsCut (writeEntry (key, text)).lines [] [s] := by
    refine ⟨?_, by simp⟩
    have hne : newline ≠ '#' := by decide
    have hline : newline ∉ '#' :: key := List.not_mem_cons_of_ne_of_not_mem hne hkey
    have hentry : writeEntry (key, text) =
        ('#' :: key) ++ newline :: (hideMarks text ++ [continuation, newline]) := by
      simp [writeEntry]
    rw [hentry, Text.lines_append_newline hline]
    simp [s, Section.lines]
  have htext : s.text = hideMarks text ++ [continuation, newline] :=
    Text.ofLines_lines (Or.inr (by simp))
  have hentry : s.entry = (key, text) := by
    rw [Section.entry, htext, clean_hideMarks hreturn]
    exact congrArg (·, text) htrim
  have hkeyed : s.key ≠ [] := by
    rw [Section.key, htrim]
    exact hne
  have hone : ([s].map Section.key).Nodup := by simp
  rw [parse_of_isCut hcut, List.filter_cons_of_pos (by simpa using hkeyed), List.filter_nil,
    Keyed.firsts_of_nodup hone, List.map_singleton, hentry]

/-! ## Tables -/

theorem IsWritable.of_cons {entry : Text × Text} (h : IsWritable (entry :: table)) :
    IsWritable table where
  nodup := (List.nodup_cons.mp h.nodup).2
  key_ne_nil e he := h.key_ne_nil e (List.mem_cons_of_mem entry he)
  trim_key e he := h.trim_key e (List.mem_cons_of_mem entry he)
  noReturn e he := h.noReturn e (List.mem_cons_of_mem entry he)
  newline_notMem_key e he := h.newline_notMem_key e (List.mem_cons_of_mem entry he)
  unmarked e he := h.unmarked e (List.mem_cons_of_mem entry he)

theorem ended_writeEntry (entry : Text × Text) : Ended (writeEntry entry) := by
  have hsigns : [continuation, newline] ≠ [] := List.cons_ne_nil _ _
  right
  rw [writeEntry, List.getLast?_append_of_ne_nil _ hsigns]
  rfl

theorem head?_write (table : TemplateTable) :
    write table = [] ∨ (write table).head? = some '#' := by
  cases table with
  | nil => exact Or.inl rfl
  | cons entry table => exact Or.inr rfl

theorem parse_write (h : IsWritable table) : parse (write table) = table := by
  induction table with
  | nil => rfl
  | cons entry table ih =>
    have hmem : entry ∈ entry :: table := List.mem_cons_self
    have hone : parse (writeEntry entry) = [entry] :=
      parse_writeEntry (h.key_ne_nil entry hmem) (h.trim_key entry hmem)
        (h.newline_notMem_key entry hmem) (h.noReturn entry hmem) (h.unmarked entry hmem)
    have hfile : write (entry :: table) = writeEntry entry ++ write table := rfl
    rw [hfile, parse_append (ended_writeEntry entry) (head?_write table), hone, ih h.of_cons,
      List.filter_eq_self.mpr, List.singleton_append]
    -- The keys that follow are new, because the keys of the table differ.
    intro other hother
    have hnew := (List.nodup_cons.mp h.nodup).1
    have hne : other.1 ≠ entry.1 := fun e => hnew (e ▸ List.mem_map_of_mem hother)
    simpa using hne

/-! ## Tables that are read -/

theorem Section.head?_text (s : Section) : s.text.head? ≠ some '#' := by
  intro h
  cases hbody : s.body with
  | nil => simp [text, hbody] at h
  | cons line rest =>
    have hline : ¬ IsKeyLine line := s.plain line (by simp [hbody])
    cases line with
    | nil => simp [text, hbody, newline] at h
    | cons c line =>
      obtain rfl : c = '#' := by simpa [text, hbody] using h
      exact hline rfl

theorem head?_clean (h : (clean t).head? = some '#') : t.head? = some '#' := by
  obtain ⟨rest, hrest⟩ := List.head?_eq_some_iff.mp h
  obtain ⟨back, hback⟩ := clean_isPrefix t
  refine Text.head?_normalizeNewlines (by decide) ?_
  rw [← hback, hrest]
  rfl

theorem isWritable_parse (t : Text) : IsWritable (parse t) := by
  obtain ⟨preamble, sections, hcut⟩ := exists_isCut t.lines
  -- Every entry is read from a section of the file.
  have hentry : ∀ entry ∈ parse t, ∃ s ∈ sections, s.entry = entry := by
    intro entry hentry
    obtain ⟨-, s, hs, htext⟩ := (mem_parse_of_isCut hcut).mp hentry
    have hkey : s.key = entry.1 := by simpa using List.find?_some hs
    exact ⟨s, List.mem_of_find?_eq_some hs, Prod.ext hkey htext.symm⟩
  refine { isTable_parse t with newline_notMem_key := ?_, unmarked := ?_ }
  · intro entry he hmem
    obtain ⟨s, hs, rfl⟩ := hentry entry he
    have hline : '#' :: s.header ∈ t.lines := by
      rw [hcut.lines_eq]
      exact List.mem_append_right _ (List.mem_flatMap.mpr ⟨s, hs, List.mem_cons_self⟩)
    have hheader : newline ∈ s.header := (Text.trim_sublist s.header).mem hmem
    exact (Text.exists_of_mem_lines hline).1 (List.mem_cons_of_mem _ hheader)
  · intro entry he hmark
    obtain ⟨s, -, rfl⟩ := hentry entry he
    exact s.head?_text (head?_clean hmark)

/-- Exactly the tables that meet the conditions come back from the file that is written for them,
and whatever is read from a file is such a table. -/
theorem parse_write_iff (table : TemplateTable) :
    (parse (write table) = table ↔ IsWritable table) ∧ ∀ t, IsWritable (parse t) := by
  refine ⟨⟨fun h => ?_, parse_write⟩, isWritable_parse⟩
  have hread := isWritable_parse (write table)
  rwa [h] at hread

-- A mark behind a line feed, and a text with line feeds and a sign to drop at its end.
example : write [("a".toList, "x\n#y".toList), ("b".toList, "&\n".toList)] =
    "#a\nx\r#y&\n#b\n&\n&\n".toList := by rfl

end ArenaData.Template
