import ArenaData.Dungeon
import ArenaData.Proofs.Lines
import Mathlib.Data.List.TakeWhile

/-!
# The blocks of a file of dungeons

The lines that start with `#` cut a file into blocks, one above each of them, and what is left below
the last one (`blocks`). A block is read alone: blank lines at its front are passed over, the next
line is the title, and what follows is the description (`ofBlock`). Reading the file line by line
comes to the same (`parse_eq_map`), since its state depends on the lines since the last end alone
(`Reading.within`).

So it can be told which carriage returns are left in what is read. Titles and descriptions lose
theirs in different ways: in a description every one becomes a line feed, or part of one, while a
title loses the first of its own and keeps the others.
-/

namespace ArenaData.Dungeon

open Text (newline carriageReturn ofLines normalizeNewlines)

variable {t line : Text} {block : List Text}

/-- The line ends a dungeon. -/
def isEnd (line : Text) : Bool := line.head? == some '#'

/-- Nothing stands in the line, but perhaps a carriage return. -/
def isBlank (line : Text) : Bool := line == [] || line == [carriageReturn]

/-- The lines above each of the lines that end a dungeon. -/
def blocks (t : Text) : List (List Text) := (t.lines.splitOnP isEnd).dropLast

/-- Lines as a description: all line ends are line feeds, and the last one is dropped. -/
def describe (lines : List Text) : Text := (ofLines lines).normalizeNewlines.dropLast

/-- The dungeon in a block. -/
def ofBlock (block : List Text) : Dungeon :=
  match block.dropWhile isBlank with
  | [] => ⟨[], []⟩
  | title :: body => ⟨title.erase carriageReturn, describe body⟩

/-- A blank line leaves nothing for a title. -/
theorem isEmpty_erase (line : Text) : (line.erase carriageReturn).isEmpty = isBlank line := by
  cases line with
  | nil => rfl
  | cons c rest =>
    by_cases hc : c = carriageReturn
    · rw [hc, List.erase_cons_head]
      cases rest with
      | nil => rfl
      | cons d rest => simp [isBlank]
    · rw [List.erase_cons_tail (by simpa using hc)]
      simp [isBlank, hc]

/-! ## Reading block by block -/

namespace Reading

variable {r : Reading}

theorem step_of_isEnd (h : isEnd line) :
    r.step line = ⟨⟨r.title, r.description⟩ :: r.done, [], []⟩ := by
  obtain ⟨rest, rfl⟩ := List.head?_eq_some_iff.mp (eq_of_beq h)
  rfl

theorem step_of_plain (h : isEnd line = false) : r.step line =
    if r.title.isEmpty then { r with title := line.erase carriageReturn }
    else { r with body := normalizeNewlines (line ++ [newline]) :: r.body } := by
  unfold step
  split
  · cases h
  · rfl

/-- The state of reading inside a block, by the lines of the block that have been read. -/
def within (done : List Dungeon) (block : List Text) : Reading :=
  match block.dropWhile isBlank with
  | [] => ⟨done, [], []⟩
  | title :: body => ⟨done, title.erase carriageReturn,
      (body.map fun line => normalizeNewlines (line ++ [newline])).reverse⟩

/-- The last line feed is always there to be dropped. -/
theorem description_eq_describe (done : List Dungeon) (title : Text) (body : List Text) :
    description ⟨done, title,
      (body.map fun line => normalizeNewlines (line ++ [newline])).reverse⟩ = describe body := by
  rw [description, List.reverse_reverse, Text.flatten_map_normalizeNewlines, describe]
  rcases List.eq_nil_or_concat' body with rfl | ⟨front, line, rfl⟩
  · rfl
  · have hlast := Text.getLast?_normalizeNewlines_concat (ofLines front ++ line)
    have hlines : ofLines (front ++ [line]) = ofLines front ++ line ++ [newline] := by
      simp [Text.ofLines_append]
    rw [hlines]
    exact if_pos hlast

theorem within_step_end (done : List Dungeon) (block : List Text) (h : isEnd line) :
    (within done block).step line = within (ofBlock block :: done) [] := by
  rw [step_of_isEnd h, within, ofBlock]
  split
  · rfl
  · rw [description_eq_describe]
    rfl

theorem within_step_plain (done : List Dungeon) (block : List Text) (h : isEnd line = false) :
    (within done block).step line = within done (block ++ [line]) := by
  rw [step_of_plain h, within, within, List.dropWhile_append]
  cases hrest : block.dropWhile isBlank with
  | nil =>
    -- As long as there is no title the line is one, unless it is blank.
    by_cases hblank : isBlank line
    · have hnone := isEmpty_erase line
      rw [hblank, List.isEmpty_iff] at hnone
      simp [hblank, hnone]
    · simp [hblank]
  | cons title body =>
    have hhead := List.head?_dropWhile_not isBlank block
    rw [hrest] at hhead
    have htitle : (title.erase carriageReturn).isEmpty = false := by
      rw [isEmpty_erase]
      exact hhead
    simp [htitle]

/-- What a run of lines adds to the dungeons: one for each end among them, the first of them with
the lines that were read before. -/
theorem done_foldl_step (done : List Dungeon) (block lines : List Text)
    (hblock : ∀ line ∈ block, isEnd line = false) :
    (lines.foldl step (within done block)).done =
      (((block ++ lines).splitOnP isEnd).dropLast.map ofBlock).reverse ++ done := by
  induction lines generalizing done block with
  | nil =>
    rw [List.append_nil, List.splitOnP_eq_singleton hblock, List.foldl_nil, within]
    split
    · rfl
    · rfl
  | cons line lines ih =>
    rw [List.foldl_cons]
    cases hend : isEnd line with
    | true =>
      rw [within_step_end done block hend, ih _ [] (by simp),
        List.splitOnP_append_cons_of_forall_mem hblock line hend lines,
        List.dropLast_cons_of_ne_nil (List.splitOnP_ne_nil _ _)]
      simp
    | false =>
      have hmore : ∀ other ∈ block ++ [line], isEnd other = false := by
        intro other hother
        rcases List.mem_append.mp hother with hmem | hmem
        · exact hblock other hmem
        · rwa [List.mem_singleton.mp hmem]
      rw [within_step_plain done block hend, ih _ _ hmore, List.append_assoc, List.singleton_append]

end Reading

theorem parse_eq_map (t : Text) : parse t = (blocks t).map ofBlock := by
  have hread := Reading.done_foldl_step [] [] t.lines (by simp)
  have hstart : Reading.within [] [] = Reading.start := rfl
  rw [hstart, List.append_nil, List.nil_append] at hread
  rw [parse, hread, List.reverse_reverse, blocks]

/-! ## What is left of carriage returns -/

/-- The lines that titles are made from: of each block the first line that is not blank. -/
def titleLines (t : Text) : List Text :=
  (blocks t).filterMap fun block => block.find? fun line => !isBlank line

theorem mem_of_mem_splitOnP {lines : List Text} (hblock : block ∈ lines.splitOnP isEnd)
    (hline : line ∈ block) : line ∈ lines := by
  induction lines generalizing block with
  | nil =>
    rw [List.splitOnP_nil, List.mem_singleton] at hblock
    rw [hblock] at hline
    exact hline
  | cons first lines ih =>
    rw [List.splitOnP_cons_eq_if_modifyHead] at hblock
    obtain ⟨piece, pieces, hpieces⟩ := List.exists_cons_of_ne_nil (List.splitOnP_ne_nil isEnd lines)
    rw [hpieces] at hblock ih
    split at hblock
    · rcases List.mem_cons.mp hblock with rfl | hmem
      · exact absurd hline List.not_mem_nil
      · exact List.mem_cons_of_mem first (ih hmem hline)
    · rcases List.mem_cons.mp hblock with rfl | hmem
      · rcases List.mem_cons.mp hline with rfl | hline
        · exact List.mem_cons_self
        · exact List.mem_cons_of_mem first (ih List.mem_cons_self hline)
      · exact List.mem_cons_of_mem first (ih (List.mem_cons_of_mem piece hmem) hline)

theorem newline_notMem_of_mem_blocks (hblock : block ∈ blocks t) (hline : line ∈ block) :
    newline ∉ line :=
  (Text.exists_of_mem_lines (mem_of_mem_splitOnP (List.dropLast_subset _ hblock) hline)).1

theorem title_ofBlock (block : List Text) : (ofBlock block).title =
    ((block.find? fun line => !isBlank line).getD []).erase carriageReturn := by
  induction block with
  | nil => rfl
  | cons line block ih =>
    cases hblank : isBlank line with
    | true =>
      rw [ofBlock, List.dropWhile_cons_of_pos hblank, List.find?_cons_of_neg (by simp [hblank])]
      exact ih
    | false =>
      rw [ofBlock, List.dropWhile_cons_of_neg (by simp [hblank]),
        List.find?_cons_of_pos (by simp [hblank])]
      rfl

theorem carriageReturn_notMem_description (block : List Text) :
    carriageReturn ∉ (ofBlock block).description := by
  unfold ofBlock
  split
  · exact List.not_mem_nil
  · intro hmem
    exact Text.carriageReturn_notMem_normalizeNewlines _ (List.dropLast_subset _ hmem)

theorem newline_notMem_title (hblock : block ∈ blocks t) : newline ∉ (ofBlock block).title := by
  rw [title_ofBlock]
  intro hmem
  have hline := List.mem_of_mem_erase hmem
  cases hfind : block.find? fun line => !isBlank line with
  | none =>
    rw [hfind] at hline
    exact List.not_mem_nil hline
  | some line =>
    rw [hfind] at hline
    exact newline_notMem_of_mem_blocks hblock (List.mem_of_find?_eq_some hfind) hline

/-- Only one return is taken away. -/
theorem carriageReturn_notMem_erase_iff (line : Text) :
    carriageReturn ∉ line.erase carriageReturn ↔ line.count carriageReturn ≤ 1 := by
  rw [← List.count_eq_zero, List.count_erase_self]
  omega

theorem carriageReturn_notMem_title_iff (block : List Text) :
    carriageReturn ∉ (ofBlock block).title ↔
      ∀ line ∈ block.find? fun line => !isBlank line, line.count carriageReturn ≤ 1 := by
  rw [title_ofBlock, carriageReturn_notMem_erase_iff]
  cases block.find? fun line => !isBlank line with
  | none => simp
  | some line => simp

/-- No description has a carriage return, and no title a line feed. Titles are without carriage
returns as well iff the lines that they are made from have no more than one each. -/
theorem parse_without_returns_iff (t : Text) :
    (∀ d ∈ parse t, newline ∉ d.title ∧ carriageReturn ∉ d.description) ∧
    ((∀ d ∈ parse t, carriageReturn ∉ d.title ∧ carriageReturn ∉ d.description ∧
        newline ∉ d.title) ↔
      ∀ line ∈ titleLines t, line.count carriageReturn ≤ 1) := by
  have hclean : ∀ block ∈ blocks t,
      newline ∉ (ofBlock block).title ∧ carriageReturn ∉ (ofBlock block).description :=
    fun block hblock => ⟨newline_notMem_title hblock, carriageReturn_notMem_description block⟩
  have htitles : (∀ line ∈ titleLines t, line.count carriageReturn ≤ 1) ↔
      ∀ block ∈ blocks t, carriageReturn ∉ (ofBlock block).title := by
    simp only [carriageReturn_notMem_title_iff, titleLines, List.mem_filterMap]
    constructor
    · intro h block hblock line hline
      exact h line ⟨block, hblock, hline⟩
    · rintro h line ⟨block, hblock, hline⟩
      exact h block hblock line hline
  rw [parse_eq_map, List.forall_mem_map, List.forall_mem_map, htitles]
  refine ⟨hclean, ?_, ?_⟩
  · intro h block hblock
    exact (h block hblock).1
  · intro h block hblock
    obtain ⟨hfeed, hreturn⟩ := hclean block hblock
    exact ⟨h block hblock, hreturn, hfeed⟩

/-- Of two carriage returns in a title the second one is left. -/
theorem parse_of_two_returns :
    ∃ d ∈ parse "a\r\rb\n#\n".toList, carriageReturn ∈ d.title :=
  ⟨⟨"a\rb".toList, []⟩, by decide, by decide⟩

end ArenaData.Dungeon
