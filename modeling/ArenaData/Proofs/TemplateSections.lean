import ArenaData.Proofs.Keyed
import ArenaData.Proofs.Lines
import ArenaData.Template

/-!
# The sections of a file of templates

The lines of a file are those before its first key line, and sections: a key line each, with the
lines up to the next one (`IsCut`). There is one way to cut a file so. Reading the lines one by one
leaves a block for every section, in order (`blocks_of_isCut`), because a line that names no key
only adds to the block that is open and a key line closes it. So the table has the first section of
every key that is not empty.
-/

namespace ArenaData.Template

open Text (newline ofLines Ended)

/-- The line names a key. -/
def IsKeyLine (line : Text) : Prop := line.head? = some '#'

/-- A key line with the lines below it, as they stand in a file. -/
structure Section where
  /-- The key line behind its mark. -/
  header : Text
  /-- The lines of the text, in order. -/
  body : List Text
  /-- No line of the text names a key. -/
  plain : ∀ line ∈ body, ¬ IsKeyLine line

namespace Section

/-- The lines of a section. -/
def lines (s : Section) : List Text := ('#' :: s.header) :: s.body

/-- The key that a section names. -/
def key (s : Section) : Text := s.header.trim

/-- The text of a section, before it is cleaned. -/
def text (s : Section) : Text := ofLines s.body

/-- The block that is read from a section. -/
def block (s : Section) : Block := ⟨s.key, s.body.reverse⟩

theorem text_block (s : Section) : s.block.text = s.text := by
  rw [Block.text, block, List.reverse_reverse, text, ofLines]

end Section

variable {t u : Text} {line header : Text} {lines preamble : List Text} {sections : List Section}

/-- The lines are those before the first key line, and the sections. -/
structure IsCut (lines preamble : List Text) (sections : List Section) : Prop where
  lines_eq : lines = preamble ++ sections.flatMap Section.lines
  plain : ∀ line ∈ preamble, ¬ IsKeyLine line

/-! ## One way to cut a file -/

theorem exists_isCut (lines : List Text) : ∃ preamble sections, IsCut lines preamble sections := by
  induction lines with
  | nil => exact ⟨[], [], rfl, by simp⟩
  | cons line rest ih =>
    obtain ⟨preamble, sections, rfl, hplain⟩ := ih
    by_cases hline : IsKeyLine line
    · obtain ⟨header, rfl⟩ := List.head?_eq_some_iff.mp hline
      exact ⟨[], ⟨header, preamble, hplain⟩ :: sections, by simp [Section.lines], by simp⟩
    · exact ⟨line :: preamble, sections, rfl, List.forall_mem_cons.mpr ⟨hline, hplain⟩⟩

theorem eq_nil_of_flatMap_lines (h : sections.flatMap Section.lines = []) : sections = [] := by
  cases sections with
  | nil => rfl
  | cons s others => simp [Section.lines] at h

theorem IsCut.of_cons_key (h : IsCut (('#' :: header) :: lines) preamble sections) :
    preamble = [] ∧ ∃ s others, sections = s :: others ∧ s.header = header ∧
      IsCut lines s.body others := by
  obtain ⟨heq, hplain⟩ := h
  cases preamble with
  | cons first rest =>
    obtain ⟨rfl, -⟩ := List.cons.inj heq
    exact absurd rfl (hplain _ List.mem_cons_self)
  | nil =>
    cases sections with
    | nil => simp at heq
    | cons s others =>
      have hlines : ('#' :: header) :: lines =
          ('#' :: s.header) :: (s.body ++ others.flatMap Section.lines) := heq
      obtain ⟨hheader, hrest⟩ := List.cons.inj hlines
      exact ⟨rfl, s, others, rfl, (List.cons.inj hheader).2.symm, hrest, s.plain⟩

theorem IsCut.of_cons_plain (hline : ¬ IsKeyLine line)
    (h : IsCut (line :: lines) preamble sections) :
    ∃ rest, preamble = line :: rest ∧ IsCut lines rest sections := by
  obtain ⟨heq, hplain⟩ := h
  cases preamble with
  | cons first rest =>
    obtain ⟨rfl, hrest⟩ := List.cons.inj heq
    exact ⟨rest, rfl, hrest, (List.forall_mem_cons.mp hplain).2⟩
  | nil =>
    cases sections with
    | nil => simp at heq
    | cons s others =>
      obtain ⟨rfl, -⟩ := List.cons.inj heq
      exact absurd rfl hline

theorem IsCut.unique {preamble' : List Text} {sections' : List Section}
    (h : IsCut lines preamble sections) (h' : IsCut lines preamble' sections') :
    preamble' = preamble ∧ sections' = sections := by
  induction lines generalizing preamble sections preamble' sections' with
  | nil =>
    obtain ⟨rfl, hnone⟩ := List.append_eq_nil_iff.mp h.lines_eq.symm
    obtain ⟨rfl, hnone'⟩ := List.append_eq_nil_iff.mp h'.lines_eq.symm
    exact ⟨rfl, (eq_nil_of_flatMap_lines hnone').trans (eq_nil_of_flatMap_lines hnone).symm⟩
  | cons line rest ih =>
    by_cases hline : IsKeyLine line
    · obtain ⟨header, rfl⟩ := List.head?_eq_some_iff.mp hline
      obtain ⟨rfl, s, others, rfl, hheader, hrest⟩ := h.of_cons_key
      obtain ⟨rfl, s', others', rfl, hheader', hrest'⟩ := h'.of_cons_key
      obtain ⟨hbody, rfl⟩ := ih hrest hrest'
      cases s
      cases s'
      simp_all
    · obtain ⟨p, rfl, hrest⟩ := h.of_cons_plain hline
      obtain ⟨p', rfl, hrest'⟩ := h'.of_cons_plain hline
      obtain ⟨rfl, rfl⟩ := ih hrest hrest'
      exact ⟨rfl, rfl⟩

/-! ## Reading a file section by section -/

namespace Reading

variable (r : Reading)

theorem step_of_plain (hline : ¬ IsKeyLine line) :
    r.step line = { r with current := { r.current with body := line :: r.current.body } } := by
  unfold step
  split
  · exact absurd rfl hline
  · rfl

theorem foldl_step_plain {ls : List Text} (h : ∀ line ∈ ls, ¬ IsKeyLine line) :
    ls.foldl step r =
      { r with current := { r.current with body := ls.reverse ++ r.current.body } } := by
  induction ls generalizing r with
  | nil => rfl
  | cons line rest ih =>
    obtain ⟨hline, hrest⟩ := List.forall_mem_cons.mp h
    rw [List.foldl_cons, step_of_plain r hline, ih _ hrest]
    simp

/-- Whatever has been read before, a section closes what is open and leaves its own block open. -/
theorem foldl_step_section (s : Section) : s.lines.foldl step r = ⟨r.close, s.block⟩ := by
  rw [Section.lines, List.foldl_cons]
  show s.body.foldl step ⟨r.close, ⟨s.key, []⟩⟩ = _
  rw [foldl_step_plain _ s.plain]
  simp [Section.block]

theorem close_foldl_sections (sections : List Section) :
    ((sections.flatMap Section.lines).foldl step r).close =
      (sections.map Section.block).reverse ++ r.close := by
  induction sections generalizing r with
  | nil => rfl
  | cons s others ih =>
    rw [List.flatMap_cons, List.foldl_append, foldl_step_section, ih]
    simp [close]

end Reading

/-- The lines before the first key line make up a block under the empty key, and each section makes
up one of its own. -/
theorem blocks_of_isCut (h : IsCut t.lines preamble sections) :
    blocks t = ⟨[], preamble.reverse⟩ :: sections.map Section.block := by
  rw [blocks, h.lines_eq, List.foldl_append, Reading.foldl_step_plain _ h.plain,
    Reading.close_foldl_sections]
  simp [Reading.close, Reading.start]

/-! ## The table -/

/-- The entry of a section. -/
def Section.entry (s : Section) : Text × Text := (s.key, clean s.text)

theorem parse_of_isCut (h : IsCut t.lines preamble sections) :
    parse t =
      (Keyed.firsts Section.key (sections.filter fun s => s.key ≠ [])).map Section.entry := by
  have hkeyed : (blocks t).filter Block.isKeyed =
      (sections.filter fun s => s.key ≠ []).map Section.block := by
    rw [blocks_of_isCut h, List.filter_cons_of_neg (by simp [Block.isKeyed]), List.filter_map]
    refine congrArg (List.map Section.block) (List.filter_congr fun s _ => ?_)
    show (!s.key.isEmpty) = decide (s.key ≠ [])
    cases s.key <;> rfl
  rw [parse, hkeyed, Keyed.firsts_map, List.map_map]
  refine List.map_congr_left fun s _ => ?_
  show (s.key, clean s.block.text) = s.entry
  rw [Section.text_block, Section.entry]

theorem keys_of_isCut (h : IsCut t.lines preamble sections) :
    (parse t).map Prod.fst = ((sections.map Section.key).filter (· ≠ [])).eraseDups := by
  rw [parse_of_isCut h, List.map_map]
  show (Keyed.firsts Section.key _).map Section.key = _
  rw [Keyed.map_firsts, List.filter_map]
  rfl

/-- Under a key that is not empty, sections without a key make no difference. -/
theorem find?_keyed (sections : List Section) {key : Text} (hkey : key ≠ []) :
    (sections.filter fun s => s.key ≠ []).find? (·.key == key) =
      sections.find? (·.key == key) := by
  rw [List.find?_filter]
  congr 1
  funext s
  by_cases hs : s.key = key
  · simp [hs, hkey]
  · simp [hs]

theorem mem_parse_of_isCut (h : IsCut t.lines preamble sections) {key text : Text} :
    (key, text) ∈ parse t ↔
      key ≠ [] ∧ ∃ s, sections.find? (·.key == key) = some s ∧ text = clean s.text := by
  rw [parse_of_isCut h, List.mem_map]
  constructor
  · rintro ⟨s, hs, hentry⟩
    obtain ⟨rfl, rfl⟩ := Prod.mk.inj hentry
    have hkeyed := (List.mem_filter.mp ((Keyed.firsts_sublist _ _).mem hs)).2
    have hkey : s.key ≠ [] := of_decide_eq_true hkeyed
    have hfirst := Keyed.mem_firsts_iff.mp hs
    rw [find?_keyed sections hkey] at hfirst
    exact ⟨hkey, s, hfirst, rfl⟩
  · rintro ⟨hkey, s, hfirst, rfl⟩
    obtain rfl : s.key = key := by simpa using List.find?_some hfirst
    refine ⟨s, Keyed.mem_firsts_iff.mpr ?_, rfl⟩
    rw [find?_keyed sections hkey, hfirst]

/-! ## Texts put together -/

theorem IsCut.append {lines' : List Text} {sections' : List Section}
    (h : IsCut lines preamble sections) (h' : IsCut lines' [] sections') :
    IsCut (lines ++ lines') preamble (sections ++ sections') := by
  refine ⟨?_, h.plain⟩
  rw [h.lines_eq, h'.lines_eq, List.flatMap_append, List.nil_append, List.append_assoc]

/-- No lines stand before the first section of a text that begins with a key line. -/
theorem exists_isCut_of_head (h : t = [] ∨ t.head? = some '#') :
    ∃ sections, IsCut t.lines [] sections := by
  obtain ⟨preamble, sections, hcut⟩ := exists_isCut t.lines
  rcases h with rfl | h
  · exact ⟨[], rfl, by simp⟩
  · obtain ⟨header, ls, hlines⟩ := Text.exists_lines_eq_cons h (by decide)
    rw [hlines] at hcut
    obtain ⟨rfl, -⟩ := hcut.of_cons_key
    exact ⟨sections, hlines ▸ hcut⟩

theorem parse_append (ht : Ended t) (hu : u = [] ∨ u.head? = some '#') :
    parse (t ++ u) = parse t ++ (parse u).filter fun entry => entry.1 ∉ (parse t).map Prod.fst := by
  obtain ⟨preamble, sections, hcut⟩ := exists_isCut t.lines
  obtain ⟨others, hothers⟩ := exists_isCut_of_head hu
  have hboth : IsCut (t ++ u).lines preamble (sections ++ others) := by
    rw [Text.lines_append ht]
    exact hcut.append hothers
  -- The keys of the first table are those of its sections, whether or not a key comes again.
  have hkeys (key : Text) : key ∈ (parse t).map Prod.fst ↔
      key ∈ (sections.filter fun s => s.key ≠ []).map Section.key := by
    rw [parse_of_isCut hcut, List.map_map]
    exact Keyed.mem_map_firsts
  simp only [hkeys]
  rw [parse_of_isCut hboth, parse_of_isCut hcut, parse_of_isCut hothers, List.filter_append,
    Keyed.firsts_append, List.map_append, List.filter_map]
  rfl

/-- A table has the keys of the sections of its file, the empty one left out, and under a key the
text of the first section with it, whatever stands in later ones. A file can therefore be read in
two parts, if the second begins with a key line: it adds the entries whose keys are new. -/
theorem parse_sections (t : Text) :
    (t.lines = if (t.splitOn newline).getLast? = some [] then (t.splitOn newline).dropLast
      else t.splitOn newline) ∧
    ∃ preamble sections,
      (∀ p s, IsCut t.lines p s ↔ p = preamble ∧ s = sections) ∧
      (parse t).map Prod.fst = ((sections.map Section.key).filter (· ≠ [])).eraseDups ∧
      (∀ key text, (key, text) ∈ parse t ↔
        key ≠ [] ∧ ∃ s, sections.find? (·.key == key) = some s ∧ text = clean s.text) ∧
      ∀ u, Ended t → (u = [] ∨ u.head? = some '#') → parse (t ++ u) =
        parse t ++ (parse u).filter fun entry => entry.1 ∉ (parse t).map Prod.fst := by
  refine ⟨Text.lines_eq_splitOn t, ?_⟩
  obtain ⟨preamble, sections, hcut⟩ := exists_isCut t.lines
  have hunique : ∀ p s, IsCut t.lines p s ↔ p = preamble ∧ s = sections := by
    intro p s
    constructor
    · intro h
      exact hcut.unique h
    · rintro ⟨rfl, rfl⟩
      exact hcut
  exact ⟨preamble, sections, hunique, keys_of_isCut hcut, fun _ _ => mem_parse_of_isCut hcut,
    fun _ => parse_append⟩

/-- A key that comes again, one that is empty and a last line without its line feed. -/
theorem parse_of_repeated_key :
    Ended "x\n# a \nb\n&\n".toList ∧
      "#a\nc\n#\nd\n#e\nf".toList.head? = some '#' ∧
      parse ("x\n# a \nb\n&\n".toList ++ "#a\nc\n#\nd\n#e\nf".toList) =
        [("a".toList, "b\n".toList), ("e".toList, "f".toList)] := by
  obtain ⟨-, _, _, -, -, -, happend⟩ := parse_sections "x\n# a \nb\n&\n".toList
  have hended : Ended "x\n# a \nb\n&\n".toList := Or.inr (by decide)
  have hmark : "#a\nc\n#\nd\n#e\nf".toList.head? = some '#' := rfl
  refine ⟨hended, hmark, ?_⟩
  rw [happend _ hended (Or.inr hmark)]
  rfl

end ArenaData.Template
