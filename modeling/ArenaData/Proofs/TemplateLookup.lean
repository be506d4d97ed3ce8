import ArenaData.Proofs.DecodedTable
import ArenaData.Proofs.TemplateTable

/-!
# Looking up template texts

A query means a key with or without the mark of key lines, and blanks around it do not count. With
the mark every key is found, since reading a key line and reading a query take the same away from
it. Without the mark a key is found unless it begins with one itself, as the key of a line with two
marks does: the query loses the mark that belongs to the key, and what is looked up is another key.
-/

namespace ArenaData

namespace Template

open Text (AllBlank)

/-! ## The key that a query means -/

/-- A query written like a key line means the key that this line names. -/
theorem queriedKey_mark_cons (line : Text) : queriedKey ('#' :: line) = line.trim := by
  rw [queriedKey, Text.trim_cons_of_not_blank (by decide)]
  exact Text.trim_trimRight line

theorem queriedKey_between_blanks {front back : Text} (hfront : AllBlank front) (query : Text)
    (hback : AllBlank back) : queriedKey (front ++ query ++ back) = queriedKey query := by
  rw [queriedKey, queriedKey, Text.trim_between_blanks hfront query hback]

/-- A key without a mark of its own is what is looked up. -/
theorem queriedKey_of_unmarked {key : Text} (htrim : key.trim = key)
    (hmark : ∀ rest : Text, key ≠ '#' :: rest) : queriedKey key = key := by
  unfold queriedKey
  rw [htrim]
  split
  · rename_i rest
    exact absurd rfl (hmark rest)
  · rfl

end Template

namespace AssetTable

open Template (queriedKey)
open Text (AllBlank)

variable {t : AssetTable} {text query value : Text}

/-- The query gets the value, and it is said to have a text. -/
def Finds (t : AssetTable) (query value : Text) : Prop :=
  t.template query = .ok value ∧ t.hasTemplate query = true

/-- The query is refused as one that no text has for its key, and it is said to have none. -/
def Misses (t : AssetTable) (query : Text) : Prop :=
  t.template query = .error (.noTemplate query) ∧ t.hasTemplate query = false

/-! ## What is found -/

theorem finds_iff_lookup : t.Finds query value ↔
    t.templates.lookup (queriedKey query) = some value := by
  rw [Finds, hasTemplate, template, Template.find]
  cases t.templates.lookup (queriedKey query) <;> simp [Except.toOption]

theorem misses_iff : t.Misses query ↔ queriedKey query ∉ t.templates.map Prod.fst := by
  rw [← Keyed.lookup_eq_none_iff, Misses, hasTemplate, template, Template.find]
  cases t.templates.lookup (queriedKey query) <;> simp [Except.toOption]

theorem finds_iff (h : t.templates = Template.parse text) :
    t.Finds query value ↔ (queriedKey query, value) ∈ t.templates := by
  have hnodup : (t.templates.map Prod.fst).Nodup := by
    rw [h]
    exact (Template.isTable_parse text).nodup
  rw [finds_iff_lookup, Keyed.lookup_eq_some_iff hnodup]

/-- With the mark every key of a file is found, whatever blanks there are around it. Without the
mark a key that does not begin with one is found too; one that does is found just if the key without
its own mark has the same text. A query that means no key is refused. -/
theorem template_of_parse (h : t.templates = Template.parse text) :
    (∀ key value, (key, value) ∈ t.templates →
      ∀ front back, AllBlank front → AllBlank back →
        t.Finds (front ++ '#' :: key ++ back) value ∧
        (t.Finds (front ++ key ++ back) value ↔
          ∀ rest : Text, key = '#' :: rest → (rest.trim, value) ∈ t.templates)) ∧
    ∀ query, t.Misses query ↔ queriedKey query ∉ t.templates.map Prod.fst := by
  refine ⟨?_, fun query => misses_iff⟩
  intro key value hmem front back hfront hback
  have htrim : key.trim = key := by
    rw [h] at hmem
    exact (Template.isTable_parse text).trim_key _ hmem
  have hfinds (query : Text) :
      t.Finds (front ++ query ++ back) value ↔ (queriedKey query, value) ∈ t.templates := by
    rw [finds_iff h, Template.queriedKey_between_blanks hfront query hback]
  constructor
  · rw [hfinds, Template.queriedKey_mark_cons, htrim]
    exact hmem
  · rw [hfinds]
    by_cases hmark : ∃ rest, key = '#' :: rest
    · obtain ⟨rest, rfl⟩ := hmark
      simp [Template.queriedKey_mark_cons]
    · push Not at hmark
      rw [Template.queriedKey_of_unmarked htrim hmark]
      exact ⟨fun _ rest hrest => absurd hrest (hmark rest), fun _ => hmem⟩

/-- A key that its line gives with blanks around it is found with and without the mark. -/
theorem template_of_blank_ends : ∃ t : AssetTable,
    t.templates = Template.parse "# Y \ntwo\n".toList ∧ t.Finds "\t#Y ".toList "two".toList ∧
    t.Finds "\tY ".toList "two".toList ∧ t.Misses "#X".toList := by
  obtain ⟨least, -⟩ := exists_decodedFrom_least
  let t : AssetTable := { least with templates := Template.parse "# Y \ntwo\n".toList }
  have hentries : t.templates = [("Y".toList, "two".toList)] := rfl
  obtain ⟨hfinds, hmisses⟩ := template_of_parse (t := t) rfl
  obtain ⟨hmarked, hplain⟩ :=
    hfinds "Y".toList "two".toList (by simp [hentries]) ['\t'] [' '] (by decide) (by decide)
  refine ⟨t, rfl, hmarked, hplain.mpr fun rest hmark => ?_, (hmisses _).mpr ?_⟩
  · simp at hmark
  · rw [hentries]
    decide

/-- The line `##X` puts a text under the key `#X`, and the query `#X` does not find it. -/
theorem template_of_two_marks : ∃ t : AssetTable,
    t.templates = Template.parse "##X\none\n".toList ∧
    ("#X".toList, "one".toList) ∈ t.templates ∧ t.Misses "#X".toList := by
  obtain ⟨least, -⟩ := exists_decodedFrom_least
  let t : AssetTable := { least with templates := Template.parse "##X\none\n".toList }
  have hentries : t.templates = [("#X".toList, "one".toList)] := rfl
  refine ⟨t, rfl, by simp [hentries], misses_iff.mpr ?_⟩
  rw [hentries]
  decide

end AssetTable

end ArenaData
