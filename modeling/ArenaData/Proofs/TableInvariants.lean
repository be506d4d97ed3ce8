import ArenaData.Proofs.DecodedShapes
import ArenaData.Proofs.LoaderLifecycle
import ArenaData.Proofs.LoadingFaults
import ArenaData.Proofs.TemplateTable

/-!
# The invariants of loaded tables

`WellFormed` collects what holds of every table that a loader shows, whatever the files hold: every
part of a fixed size is there in full, every chunk that the rules of names use exists, and the texts
are free of the characters that the formats keep for themselves. The sizes are written out as the
numbers they are; that a choice is made of bytes and a parameter of a spell of 16-bit numbers is
part of their types.

Each field is what one decoder gives. That the table of a loader comes from the decoders at all is
an invariant of its runs (`FromFiles`): the only action that stores a table is a load, and it stores
what it has just built.
-/

namespace ArenaData

/-- Every part of the table is complete, and all that its parts refer to is there. -/
structure AssetTable.WellFormed (t : AssetTable) : Prop where
  templates : Template.IsTable t.templates
  flagCount : t.classGeneration.classes.length = 18
  id_lt : ∀ flags ∈ t.classGeneration.classes, flags.id < 32
  choiceCount : t.classGeneration.choices.length = 66
  classCount : t.classDefinitions.length = 18
  artifactTalk1 : IsDialogue 16 (t.artifactTalk1.map ArtifactTalk.toList)
  artifactTalk2 : IsDialogue 16 (t.artifactTalk2.map ArtifactTalk.toList)
  equipment : IsDialogue 15 t.shopTalk.equipment
  magesGuild : IsDialogue 15 t.shopTalk.magesGuild
  selling : IsDialogue 15 t.shopTalk.selling
  tavern : IsDialogue 15 t.shopTalk.tavern
  spellCount : t.spells.length = 128
  spellSizes : ∀ s ∈ t.spells, s.params.length = 6 ∧ s.nameBytes.length = 33
  zeroFree_spells : ∀ s ∈ t.spells, s.name.ZeroFree
  descriptionCount : t.descriptions.length = 43
  maskCount : t.masks.length = 10
  mask_rects : t.masks.map Mask.rect = Mask.regions
  mask_size : ∀ m ∈ t.masks, (m.data.length : Int) = paddedWidth m.rect.width * m.rect.height
  isExit_iff : ∀ (i : Nat) (m : Mask), t.masks[i]? = some m → (m.isExit = true ↔ i = 9)
  terrain_size : t.terrain.cells.size = 64000
  chunkCount : 58 ≤ t.nameChunks.length
  zeroFree_chunks : ∀ chunk ∈ t.nameChunks, ∀ text ∈ chunk, text.ZeroFree
  generator_chunks : t.generator.chunks = t.nameChunks
  generator_rules : t.generator.rules = RuleTable.standard
  ruleCount : t.generator.rules.length = 48
  index_lt : ∀ sequence ∈ t.generator.rules, ∀ rule ∈ sequence, ∀ index, rule.Uses index →
    0 ≤ index ∧ index < t.nameChunks.length

/-- The rules of the game use the chunk at 57, so a generator of them has 58 chunks. -/
theorem NameGenerator.le_length_of_standard (g : NameGenerator)
    (h : g.rules = RuleTable.standard) : 58 ≤ g.chunks.length := by
  have hsequence : RuleTable.race23 ∈ g.rules := by
    rw [h, RuleTable.standard]
    simp
  have hrule : NameRule.fragment 57 ∈ RuleTable.race23 := by simp [RuleTable.race23]
  have hlast := (g.index_lt_of_uses hsequence hrule (.fragment 57)).2
  omega

theorem AssetTable.DecodedFrom.wellFormed {content : GameFile → Bytes} {sideData : SideData}
    {t : AssetTable} (h : t.DecodedFrom content sideData) : t.WellFormed := by
  obtain ⟨hflags, hids, hchoices⟩ := ClassGeneration.shape_of_decode h.classGeneration
  obtain ⟨hspells, hsizes⟩ := Spell.shape_of_decodeAll h.spells
  obtain ⟨hchunks, hrules⟩ := NameGenerator.eq_of_build h.generator
  have hrects := Mask.rects_of_decodeAll h.masks
  constructor
  case templates =>
    rw [← h.templates]
    exact Template.isTable_parse _
  case flagCount => exact hflags
  case id_lt => exact hids
  case choiceCount => exact hchoices
  case classCount => exact ClassDefinition.length_of_all h.classDefinitions
  case artifactTalk1 => exact ArtifactTalk.isDialogue_of_decode h.artifactTalk1
  case artifactTalk2 => exact ArtifactTalk.isDialogue_of_decode h.artifactTalk2
  case equipment => exact TradeTalk.isDialogue_of_decode h.equipment
  case magesGuild => exact TradeTalk.isDialogue_of_decode h.magesGuild
  case selling => exact TradeTalk.isDialogue_of_decode h.selling
  case tavern => exact TradeTalk.isDialogue_of_decode h.tavern
  case spellCount => exact hspells
  case spellSizes => exact hsizes
  case zeroFree_spells => exact fun s _ => s.zeroFree_name
  case descriptionCount => exact SpellMaker.length_of_parse h.descriptions
  case maskCount =>
    have hlength := congrArg List.length hrects
    rw [List.length_map] at hlength
    exact hlength
  case mask_rects => exact hrects
  case mask_size => exact fun m _ => m.size_eq
  case isExit_iff => exact fun i m hm => Mask.isExit_of_decodeAll h.masks hm
  case terrain_size => exact t.terrain.size_eq
  case chunkCount => exact hchunks ▸ t.generator.le_length_of_standard hrules
  case zeroFree_chunks => exact NameChunk.zeroFree_of_decode h.nameChunks
  case generator_chunks => exact hchunks
  case generator_rules => exact hrules
  case ruleCount =>
    rw [hrules]
    rfl
  case index_lt =>
    intro sequence hsequence rule hrule index huses
    rw [← hchunks]
    exact t.generator.index_lt_of_uses hsequence hrule huses

namespace Loader

variable {σ : Type} {read : Reader σ} {l : Loader σ} {t : AssetTable}

/-! ## Tables of loaders -/

/-- If the loader has a table, it is decoded from some files. -/
def FromFiles (l : Loader σ) : Prop :=
  ∀ t, l.stored = some t → ∃ content, t.DecodedFrom content l.sideData

theorem fromFiles_new (archive : σ) (sideData : SideData) : FromFiles (new archive sideData) :=
  fun _ h => nomatch h

theorem FromFiles.load (h : l.FromFiles) : FromFiles (Loader.load read l).2 := by
  cases hl : l.settled? with
  | some outcome =>
    rw [Loader.load, hl]
    exact h
  | none =>
    rw [load_of_unsettled hl]
    cases hattempt : (attempt read l).1 with
    | error fault => exact h
    | ok built =>
      intro t ht
      obtain rfl : built = t := Option.some.inj ht
      exact build_ensures_decodedFrom _ l.sideData l.archive built hattempt

theorem FromFiles.step (h : l.FromFiles) (action : Action σ) :
    FromFiles (Loader.step read l action).2 := by
  cases action with
  | load => exact h.load
  | table => exact h
  | phase => exact h
  | replace archive => exact h

theorem FromFiles.run (h : l.FromFiles) (actions : List (Action σ)) :
    FromFiles (Loader.run read actions l).2 := by
  induction actions generalizing l with
  | nil => exact h
  | cons action rest ih => exact ih (h.step action)

/-- Whatever has been done with a loader before and whatever its archive holds, a load that succeeds
leaves it ready with the table it gives, and that table satisfies the invariants of the data model.
It is made from the loader's own tables of the executable, and where these were accepted, they have
an entry for each class. -/
theorem load_wellFormed (read : Reader σ) (archive : σ) {levels : Nat} {document : Json.Value}
    {sideData : SideData} (hside : SideData.ofValue levels document = .ok sideData)
    (actions : List (Action σ)) (hl : (run read actions (new archive sideData)).2 = l)
    (ht : (load read l).1 = .ok t) :
    (load read l).2.phase = .ready ∧ (load read l).2.table = .ok t ∧
      t.sideData = sideData ∧ sideData.Complete ∧ t.WellFormed := by
  have hrest : l.AtRest := hl ▸ (atRest_new archive sideData).run actions
  have hfiles : l.FromFiles := hl ▸ (fromFiles_new archive sideData).run actions
  have hsame : (load read l).2.sideData = sideData := by
    rw [sideData_load, ← hl]
    exact sideData_run _ actions
  have hkeeps : (load read l).2.Keeps t := by
    rcases hrest.load_cases read with ⟨kept, hkept, hkeeps⟩ | ⟨fault, hfault, -⟩
    · obtain rfl : kept = t := Except.ok.inj (hkept.symm.trans ht)
      exact hkeeps
    · exact absurd (hfault.symm.trans ht) (by simp)
  obtain ⟨content, hdecoded⟩ := hfiles.load t hkeeps.2
  refine ⟨hkeeps.1, hkeeps.table_eq, ?_, SideData.complete_of_ofValue hside, hdecoded.wellFormed⟩
  exact hdecoded.sideData_eq.trans hsame

/-- The shortest files, after a load that found no file at all. -/
theorem load_wellFormed_least : ∃ (t : AssetTable) (l : Loader Archive),
    SideData.ofValue 1 SideData.permissive.toValue = .ok SideData.permissive ∧
    (run (Archive.reader (.empty []))
      [.load, .replace (.memory (Collection.ofGame GameFile.leastContent))]
      (new (.ofFiles []) SideData.permissive)).2 = l ∧
    (load (Archive.reader (.empty [])) l).1 = .ok t ∧ t.sideData = SideData.permissive ∧
    t.WellFormed := by
  obtain ⟨t, hdecoded⟩ := AssetTable.exists_decodedFrom_least
  have haccepted : SideData.ofValue 1 SideData.permissive.toValue = .ok SideData.permissive := rfl
  have hload := load_ofGame hdecoded (.empty [])
  obtain ⟨-, -, hside, -, hwell⟩ := load_wellFormed (Archive.reader (.empty [])) (.ofFiles [])
    haccepted [.load, .replace (.memory (Collection.ofGame GameFile.leastContent))] rfl hload
  exact ⟨t, _, haccepted, rfl, hload, hside, hwell⟩

end Loader

end ArenaData
