import ArenaData.Proofs.DungeonBlocks
import ArenaData.Proofs.PairedReturns

/-!
# Writing dungeons back

A file is read in two parts as it is read whole, if the first part ends in a line that ends a
dungeon: the blocks of the two parts are the blocks of the file (`blocks_append`), and each block is
read alone. So it is enough to look at one dungeon. Written down with a line for its title, its
description and a line with a `#` it makes up one block, and the line feed that is dropped from the
description is the one that the writer has put behind it.
-/

namespace ArenaData.Dungeon

open Text (newline carriageReturn ofLines Ended)

variable {t u tail : Text} {blanks : List Text} {d : Dungeon} {entries : List (List Text × Dungeon)}

/-- The title can be found again in a file, and no line end or end of a dungeon stands where it
would not be read as it is. -/
structure IsWritable (d : Dungeon) : Prop where
  title_ne_nil : d.title ≠ []
  newline_notMem_title : newline ∉ d.title
  carriageReturn_notMem_title : carriageReturn ∉ d.title
  head?_title : d.title.head? ≠ some '#'
  carriageReturn_notMem_description : carriageReturn ∉ d.description
  head?_of_mem_lines : ∀ line ∈ d.description.lines, line.head? ≠ some '#'

/-- A dungeon as it is written, below some blank lines. -/
def writeEntry (blanks : List Text) (d : Dungeon) : Text :=
  ofLines blanks ++ d.title ++ newline :: d.description ++ [newline, '#', newline]

/-- A file of dungeons, each with the blank lines above it. -/
def write (entries : List (List Text × Dungeon)) : Text :=
  entries.flatMap fun entry => writeEntry entry.1 entry.2

/-- The text is empty, or its last line starts with `#` and is ended. -/
def IsClosed (t : Text) : Prop :=
  t = [] ∨ ∃ front rest, Ended front ∧ newline ∉ rest ∧ t = front ++ '#' :: rest ++ [newline]

/-! ## Files in two parts -/

theorem blocks_append (ht : IsClosed t) (u : Text) : blocks (t ++ u) = blocks t ++ blocks u := by
  rcases ht with rfl | ⟨front, rest, hfront, hrest, rfl⟩
  · rfl
  · have hend : isEnd ('#' :: rest) = true := rfl
    have hline : newline ∉ '#' :: rest := List.not_mem_cons_of_ne_of_not_mem (by decide) hrest
    have hlines (behind : Text) : (front ++ '#' :: rest ++ [newline] ++ behind).lines =
        front.lines ++ ('#' :: rest) :: behind.lines := by
      rw [List.append_assoc, List.append_assoc, Text.lines_append hfront, List.singleton_append,
        Text.lines_append_newline hline]
    have halone := hlines []
    rw [List.append_nil] at halone
    rw [blocks, hlines, List.splitOnP_append_cons _ _ hend, blocks, halone,
      List.splitOnP_append_cons _ _ hend,
      List.dropLast_append_of_ne_nil (List.splitOnP_ne_nil _ _),
      List.dropLast_append_of_ne_nil (List.splitOnP_ne_nil _ _)]
    have hnone : (List.splitOnP isEnd (Text.lines [])).dropLast = [] := rfl
    rw [hnone, List.append_nil, blocks]

theorem parse_append (ht : IsClosed t) (u : Text) : parse (t ++ u) = parse t ++ parse u := by
  rw [parse_eq_map, blocks_append ht, List.map_append, ← parse_eq_map, ← parse_eq_map]

/-- What no end follows is not read. -/
theorem parse_of_unended (h : ∀ line ∈ t.lines, line.head? ≠ some '#') : parse t = [] := by
  have hplain : ∀ line ∈ t.lines, isEnd line = false := by
    intro line hline
    exact beq_eq_false_iff_ne.mpr (h line hline)
  rw [parse_eq_map, blocks, List.splitOnP_eq_singleton hplain]
  rfl

/-! ## One dungeon -/

theorem isClosed_writeEntry (blanks : List Text) (d : Dungeon) :
    IsClosed (writeEntry blanks d) := by
  refine Or.inr ⟨ofLines blanks ++ d.title ++ newline :: d.description ++ [newline], [],
    ?_, ?_, ?_⟩
  · exact Or.inr List.getLast?_concat
  · exact List.not_mem_nil
  · simp [writeEntry]

/-- The lines of a text that a line feed is put behind: the piece behind its last own line feed is
one of them even if it is empty. -/
theorem exists_lines_description (h : IsWritable d) : ∃ ls,
    ofLines ls = d.description ++ [newline] ∧
      ∀ line ∈ ls, newline ∉ line ∧ isEnd line = false := by
  obtain ⟨ls, rest, hls, hrest, hdescription⟩ := Text.exists_ofLines_append d.description
  have hplain := h.head?_of_mem_lines
  rw [hdescription, Text.lines_ofLines_append hls, Text.lines_of_newline_notMem hrest,
    List.forall_mem_append] at hplain
  refine ⟨ls ++ [rest], ?_, ?_⟩
  · rw [hdescription, Text.ofLines_append]
    simp
  · intro line hline
    rcases List.mem_append.mp hline with hmem | hmem
    · exact ⟨hls line hmem, beq_eq_false_iff_ne.mpr (hplain.1 line hmem)⟩
    · obtain rfl := List.mem_singleton.mp hmem
      refine ⟨hrest, ?_⟩
      by_cases hnil : line = []
      · rw [hnil]
        rfl
      · exact beq_eq_false_iff_ne.mpr (hplain.2 line (by simp [hnil]))

theorem describe_of_ofLines {ls : List Text} (hls : ofLines ls = d.description ++ [newline])
    (h : carriageReturn ∉ d.description) : describe ls = d.description := by
  have hnone : carriageReturn ∉ d.description ++ [newline] := by
    intro hmem
    rcases List.mem_append.mp hmem with hmem | hmem
    · exact h hmem
    · exact absurd (List.mem_singleton.mp hmem) (by decide)
  rw [describe, hls, Text.normalizeNewlines_of_paired (Text.paired_of_notMem hnone),
    Text.withoutReturns_of_notMem hnone, List.dropLast_concat]

theorem parse_writeEntry (hblanks : ∀ line ∈ blanks, line = [] ∨ line = [carriageReturn])
    (h : IsWritable d) : parse (writeEntry blanks d) = [d] := by
  obtain ⟨ls, hdescription, hls⟩ := exists_lines_description h
  have hblank : ∀ line ∈ blanks, isBlank line = true ∧ newline ∉ line ∧ isEnd line = false := by
    intro line hline
    rcases hblanks line hline with rfl | rfl
    · exact ⟨rfl, by decide, rfl⟩
    · exact ⟨rfl, by decide, rfl⟩
  have hkept : d.title.erase carriageReturn = d.title :=
    List.erase_of_not_mem h.carriageReturn_notMem_title
  have htitle : isBlank d.title = false := by
    rw [← isEmpty_erase, hkept, List.isEmpty_eq_false_iff]
    exact h.title_ne_nil
  have hline : ∀ line ∈ blanks ++ d.title :: ls, newline ∉ line ∧ isEnd line = false := by
    rw [List.forall_mem_append, List.forall_mem_cons]
    refine ⟨fun line hline => (hblank line hline).2, ?_, hls⟩
    exact ⟨h.newline_notMem_title, beq_eq_false_iff_ne.mpr h.head?_title⟩
  have hwritten : writeEntry blanks d = ofLines (blanks ++ d.title :: ls) ++ ['#', newline] := by
    rw [Text.ofLines_append, Text.ofLines_cons, hdescription, writeEntry]
    simp
  have hblocks : blocks (writeEntry blanks d) = [blanks ++ d.title :: ls] := by
    rw [blocks, hwritten, Text.lines_ofLines_append fun line hmem => (hline line hmem).1]
    show (List.splitOnP isEnd (blanks ++ d.title :: ls ++ [['#']])).dropLast = _
    rw [List.splitOnP_append_cons_of_forall_mem (fun line hmem => (hline line hmem).2) ['#'] rfl]
    rfl
  rw [parse_eq_map, hblocks, List.map_singleton, ofBlock,
    List.dropWhile_append_of_pos fun line hmem => (hblank line hmem).1,
    List.dropWhile_cons_of_neg (by simp [htitle])]
  show [(⟨d.title.erase carriageReturn, describe ls⟩ : Dungeon)] = [d]
  rw [hkept, describe_of_ofLines hdescription h.carriageReturn_notMem_description]

/-! ## Files -/

theorem parse_write (htail : ∀ line ∈ tail.lines, line.head? ≠ some '#')
    (h : ∀ entry ∈ entries, IsWritable entry.2 ∧
      ∀ line ∈ entry.1, line = [] ∨ line = [carriageReturn]) :
    parse (write entries ++ tail) = entries.map Prod.snd := by
  induction entries with
  | nil => exact parse_of_unended htail
  | cons entry entries ih =>
    obtain ⟨⟨hwritable, hblanks⟩, hothers⟩ := List.forall_mem_cons.mp h
    rw [write, List.flatMap_cons, List.append_assoc, parse_append (isClosed_writeEntry _ _),
      parse_writeEntry hblanks hwritable, ← write, ih hothers]
    rfl

/-- Dungeons come back from the file that is written for them, whatever blank lines stand above them
and whatever else below the last one, as long as it ends no dungeon. And behind a line that ends one
reading starts afresh: what follows is read as if it stood alone. -/
theorem parse_write_and_parts :
    (∀ (entries : List (List Text × Dungeon)) (tail : Text),
      (∀ entry ∈ entries, IsWritable entry.2 ∧
        ∀ line ∈ entry.1, line = [] ∨ line = [carriageReturn]) →
      (∀ line ∈ tail.lines, line.head? ≠ some '#') →
      parse (write entries ++ tail) = entries.map Prod.snd) ∧
    ∀ t u, IsClosed t → parse (t ++ u) = parse t ++ parse u :=
  ⟨fun _ _ h htail => parse_write htail h, fun _ u ht => parse_append ht u⟩

/-- Blank lines of both kinds, an empty description, one with line feeds around it, and a dungeon
that is not ended. -/
theorem parse_written_below_blanks :
    let first : Dungeon := ⟨"a".toList, []⟩
    let second : Dungeon := ⟨" b#".toList, "\n\nc #\n\n".toList⟩
    let entries := [([[], [carriageReturn]], first), ([], second)]
    let tail : Text := "d\r\n\n".toList
    (∀ entry ∈ entries, IsWritable entry.2 ∧
      ∀ line ∈ entry.1, line = [] ∨ line = [carriageReturn]) ∧
    (∀ line ∈ tail.lines, line.head? ≠ some '#') ∧
    parse (write entries ++ tail) = [first, second] ∧
    IsClosed (write entries) ∧
    parse (write entries ++ "\n#e\n".toList) = [first, second, ⟨[], []⟩] := by
  intro first second entries tail
  obtain ⟨hwrite, happend⟩ := parse_write_and_parts
  have hfirst : IsWritable first := by constructor <;> decide
  have hsecond : IsWritable second := by constructor <;> decide
  have hentries : ∀ entry ∈ entries, IsWritable entry.2 ∧
      ∀ line ∈ entry.1, line = [] ∨ line = [carriageReturn] := by
    rw [List.forall_mem_cons, List.forall_mem_singleton]
    exact ⟨⟨hfirst, by decide⟩, hsecond, by decide⟩
  have htail : ∀ line ∈ tail.lines, line.head? ≠ some '#' := by decide
  have hclosed : IsClosed (write entries) :=
    Or.inr ⟨(write entries).dropLast.dropLast, [], Or.inr rfl, by decide, rfl⟩
  refine ⟨hentries, htail, hwrite entries tail hentries htail, hclosed, ?_⟩
  have hread := hwrite entries [] hentries (by decide)
  rw [List.append_nil] at hread
  rw [happend _ _ hclosed, hread]
  rfl

end ArenaData.Dungeon
