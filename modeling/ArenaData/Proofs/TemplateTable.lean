import ArenaData.Proofs.Keyed
import ArenaData.Proofs.Lines
import ArenaData.Proofs.Trimming
import ArenaData.Template
import Mathlib.Data.List.DropRight

/-!
# The table of templates

What every table of template texts has in common, whatever the text it was read from: its keys are
not empty, have no blanks around them and differ from each other, and no carriage return is left in
its texts. For the keys the walk over the lines carries an invariant, that every block so far has
a trimmed key; a text is free of carriage returns because the line ends are made one kind before
anything else is taken away from it.
-/

namespace ArenaData

namespace Template

open Text (carriageReturn)

theorem clean_isPrefix (t : Text) : clean t <+: t.normalizeNewlines := by
  have hdrop : dropFinalNewlines t.normalizeNewlines <+: t.normalizeNewlines :=
    List.rdropWhile_prefix _ _
  rw [clean]
  split
  · exact (List.dropLast_prefix _).trans hdrop
  · exact hdrop

theorem carriageReturn_notMem_clean (t : Text) : carriageReturn ∉ clean t :=
  fun h => t.carriageReturn_notMem_normalizeNewlines ((clean_isPrefix t).mem h)

/-! ## Blocks -/

/-- Every block that has been read has a key without blanks around it. -/
def Reading.Trimmed (r : Reading) : Prop := ∀ b ∈ r.close, b.key.trim = b.key

theorem Reading.trimmed_start : Reading.start.Trimmed := by
  intro b hb
  obtain rfl := List.mem_singleton.mp hb
  rfl

theorem Reading.Trimmed.step {r : Reading} (h : r.Trimmed) (line : Text) :
    (r.step line).Trimmed := by
  intro b hb
  unfold Reading.step at hb
  split at hb
  · rcases List.mem_cons.mp hb with rfl | hb
    · exact Text.trim_trim _
    · exact h b hb
  · rcases List.mem_cons.mp hb with rfl | hb
    · exact h r.current List.mem_cons_self
    · exact h b (List.mem_cons_of_mem _ hb)

theorem Reading.Trimmed.foldl {r : Reading} (h : r.Trimmed) (lines : List Text) :
    (lines.foldl Reading.step r).Trimmed := by
  induction lines generalizing r with
  | nil => exact h
  | cons line rest ih => exact ih (h.step line)

theorem trim_key_of_mem_blocks {t : Text} {b : Block} (h : b ∈ blocks t) : b.key.trim = b.key :=
  Reading.trimmed_start.foldl t.lines b (List.mem_reverse.mp h)

/-! ## The table -/

/-- Every entry comes from a block with a key. -/
theorem exists_block_of_mem_parse {t : Text} {entry : Text × Text} (h : entry ∈ parse t) :
    ∃ b ∈ blocks t, b.isKeyed ∧ entry = (b.key, clean b.text) := by
  obtain ⟨b, hb, rfl⟩ := List.mem_map.mp h
  have hfilter := (Keyed.firsts_sublist _ _).mem hb
  obtain ⟨hblock, hkeyed⟩ := List.mem_filter.mp hfilter
  exact ⟨b, hblock, hkeyed, rfl⟩

/-- The keys of a table differ from each other, none of them is empty or has blanks around it, and
no carriage return occurs in a text. -/
structure IsTable (table : TemplateTable) : Prop where
  nodup : (table.map Prod.fst).Nodup
  key_ne_nil : ∀ entry ∈ table, entry.1 ≠ []
  trim_key : ∀ entry ∈ table, entry.1.trim = entry.1
  noReturn : ∀ entry ∈ table, carriageReturn ∉ entry.2

theorem isTable_parse (t : Text) : IsTable (parse t) := by
  constructor
  · have hkeys : (parse t).map Prod.fst =
        (((blocks t).filter Block.isKeyed).map Block.key).eraseDups := by
      rw [← Keyed.map_firsts, parse, List.map_map]
      rfl
    rw [hkeys]
    exact Keyed.nodup_eraseDups _
  · intro entry hentry
    obtain ⟨b, -, hkeyed, rfl⟩ := exists_block_of_mem_parse hentry
    simpa [Block.isKeyed] using hkeyed
  · intro entry hentry
    obtain ⟨b, hb, -, rfl⟩ := exists_block_of_mem_parse hentry
    exact trim_key_of_mem_blocks hb
  · intro entry hentry
    obtain ⟨b, -, -, rfl⟩ := exists_block_of_mem_parse hentry
    exact carriageReturn_notMem_clean b.text

-- Blanks around a key, lines without a key, a key that is empty and one that comes again.
example : parse "x\n# a \r\nb\r\n&\n#\ny\n#a\nz".toList = [("a".toList, "b\n".toList)] := by
  rfl

end Template

end ArenaData
