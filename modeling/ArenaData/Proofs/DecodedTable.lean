import ArenaData.Proofs.AlikeLoads
import ArenaData.Proofs.ArchiveTree
import ArenaData.Proofs.Decoders

/-!
# Tables that are decoded from files

`DecodedFrom` says of a table that each of its parts is what the decoder of its file makes of the
content of that file. If an archive answers every read with the content, a load gives that table
(`load_of_decodedFrom`), so to show that a load succeeds it is enough to decode file by file. The
other way round, whatever the archive answers, a table that is built is decoded from some content
(`build_ensures_decodedFrom`), so what the decoders give holds of every table.

`leastContent` has every file as short as it may be, which makes a table of zeros and empty texts.
-/

namespace ArenaData

/-- The files with the content that is given for each of them. -/
def GameFile.contentOf (template question classes dungeon artifact1 artifact2 equipment magesGuild
    selling tavern nameChunks spells spellMaker masks terrain : Bytes) : GameFile → Bytes
  | .template => template
  | .question => question
  | .classes => classes
  | .dungeon => dungeon
  | .artifact1 => artifact1
  | .artifact2 => artifact2
  | .equipment => equipment
  | .magesGuild => magesGuild
  | .selling => selling
  | .tavern => tavern
  | .nameChunks => nameChunks
  | .spells => spells
  | .spellMaker => spellMaker
  | .masks => masks
  | .terrain => terrain

/-- Every part of the table is decoded from the content of its file. -/
structure AssetTable.DecodedFrom (content : GameFile → Bytes) (sideData : SideData)
    (t : AssetTable) : Prop where
  sideData_eq : t.sideData = sideData
  templates : Template.parse (Bytes.latin1 (content .template)) = t.templates
  questions : Question.parse (Bytes.latin1 (content .question)) = .ok t.questions
  classGeneration : ClassGeneration.decode (content .classes) = .ok t.classGeneration
  classDefinitions : ClassDefinition.all sideData = .ok t.classDefinitions
  dungeons : Dungeon.parse (Bytes.latin1 (content .dungeon)) = t.dungeons
  artifactTalk1 : ArtifactTalk.decode (content .artifact1) GameFile.artifact1.name =
    .ok t.artifactTalk1
  artifactTalk2 : ArtifactTalk.decode (content .artifact2) GameFile.artifact2.name =
    .ok t.artifactTalk2
  equipment : TradeTalk.decode (content .equipment) GameFile.equipment.name =
    .ok t.shopTalk.equipment
  magesGuild : TradeTalk.decode (content .magesGuild) GameFile.magesGuild.name =
    .ok t.shopTalk.magesGuild
  selling : TradeTalk.decode (content .selling) GameFile.selling.name = .ok t.shopTalk.selling
  tavern : TradeTalk.decode (content .tavern) GameFile.tavern.name = .ok t.shopTalk.tavern
  nameChunks : NameChunk.decode (content .nameChunks) NameChunk.fileName = .ok t.nameChunks
  spells : Spell.decodeAll (content .spells) = .ok t.spells
  descriptions : SpellMaker.parse (Bytes.latin1 (content .spellMaker)) SpellMaker.descriptionCount =
    .ok t.descriptions
  masks : Mask.decodeAll (content .masks) GameFile.masks.name = .ok t.masks
  terrain : Terrain.decode (content .terrain) GameFile.terrain.name = .ok t.terrain
  generator : NameGenerator.build t.nameChunks RuleTable.standard = .ok t.generator

namespace Loader

variable {σ α β : Type} {content : GameFile → Bytes} {sideData : SideData} {t : AssetTable} {s : σ}

/-- The step succeeds and leaves the state as it is. -/
def Gives (s : σ) (x : Decoding σ α) (a : α) : Prop := x.run s = (.ok a, s)

theorem gives_pure (a : α) : Gives s (pure a) a := rfl

theorem gives_decoded {outcome : Except Fault α} {a : α} (h : outcome = .ok a) :
    Gives s (decoded outcome) a := by
  rw [h]
  rfl

theorem Gives.bind {x : Decoding σ α} {f : α → Decoding σ β} {a : α} {b : β} (hx : Gives s x a)
    (hf : Gives s (f a) b) : Gives s (x >>= f) b := by
  rw [Gives, run_bind, hx]
  exact hf

/-- If every file is read as it is, the table is built that is decoded from the files. -/
theorem build_of_decodedFrom {fetch : GameFile → Decoding σ Bytes}
    (hfetch : ∀ file, Gives s (fetch file) (content file)) (h : t.DecodedFrom content sideData) :
    Gives s (build fetch sideData) t := by
  have htext (file : GameFile) : Gives s (fetchText fetch file) (Bytes.latin1 (content file)) :=
    (hfetch file).bind (gives_pure _)
  have hartifact {file : GameFile} {talk : List ArtifactTalk}
      (htalk : ArtifactTalk.decode (content file) file.name = .ok talk) :
      Gives s (fetchArtifact fetch file) talk := (hfetch file).bind (gives_decoded htalk)
  have htrade {file : GameFile} {talk : TradeTalk}
      (htalk : TradeTalk.decode (content file) file.name = .ok talk) :
      Gives s (fetchTrade fetch file) talk := (hfetch file).bind (gives_decoded htalk)
  unfold build
  refine (htext .template).bind ?_
  refine (htext .question).bind ?_
  refine (gives_decoded h.questions).bind ?_
  refine (hfetch .classes).bind ?_
  refine (gives_decoded h.classGeneration).bind ?_
  refine (gives_decoded h.classDefinitions).bind ?_
  refine (htext .dungeon).bind ?_
  refine (hartifact h.artifactTalk1).bind ?_
  refine (hartifact h.artifactTalk2).bind ?_
  refine (htrade h.equipment).bind ?_
  refine (htrade h.magesGuild).bind ?_
  refine (htrade h.selling).bind ?_
  refine (htrade h.tavern).bind ?_
  refine (hfetch .nameChunks).bind ?_
  refine (gives_decoded h.nameChunks).bind ?_
  refine (hfetch .spells).bind ?_
  refine (gives_decoded h.spells).bind ?_
  refine (htext .spellMaker).bind ?_
  refine (gives_decoded h.descriptions).bind ?_
  refine (hfetch .masks).bind ?_
  refine (gives_decoded h.masks).bind ?_
  refine (hfetch .terrain).bind ?_
  refine (gives_decoded h.terrain).bind ?_
  refine (gives_decoded h.generator).bind ?_
  rw [← h.sideData_eq, h.templates, h.dungeons]
  exact gives_pure t

/-- Whenever the step succeeds, its result has the property. -/
def Ensures (x : Decoding σ α) (P : α → Prop) : Prop := ∀ s a, (x.run s).1 = .ok a → P a

theorem ensures_pure {P : α → Prop} {a : α} (h : P a) : Ensures (pure a : Decoding σ α) P :=
  fun _ _ hb => Except.ok.inj hb ▸ h

theorem ensures_decoded (outcome : Except Fault α) :
    Ensures (decoded outcome : Decoding σ α) (outcome = .ok ·) := fun _ _ h => h

/-- What the first step ensures may be used for what follows it. -/
theorem Ensures.bind {x : Decoding σ α} {f : α → Decoding σ β} {P : α → Prop} {Q : β → Prop}
    (hx : Ensures x P) (hf : ∀ a, P a → Ensures (f a) Q) : Ensures (x >>= f) Q := by
  intro s b hb
  rw [run_bind] at hb
  cases hs : x.run s with
  | mk outcome s' =>
    rw [hs] at hb
    cases outcome with
    | ok a => exact hf a (hx s a (by rw [hs])) s' b hb
    | error fault => cases hb

/-- However the files are read, a table that is built is decoded from what was read. -/
theorem build_ensures_decodedFrom (fetch : GameFile → Decoding σ Bytes) (sideData : SideData) :
    Ensures (build fetch sideData) fun t => ∃ content, t.DecodedFrom content sideData := by
  have hfetch (file : GameFile) : Ensures (fetch file) fun _ => True := fun _ _ _ => trivial
  have htext (file : GameFile) :
      Ensures (fetchText fetch file) fun text => ∃ data, Bytes.latin1 data = text :=
    (hfetch file).bind fun data _ => ensures_pure ⟨data, rfl⟩
  have hartifact (file : GameFile) : Ensures (fetchArtifact fetch file) fun talk =>
      ∃ data, ArtifactTalk.decode data file.name = .ok talk :=
    (hfetch file).bind fun data _ s talk h => ⟨data, ensures_decoded _ s talk h⟩
  have htrade (file : GameFile) : Ensures (fetchTrade fetch file) fun talk =>
      ∃ data, TradeTalk.decode data file.name = .ok talk :=
    (hfetch file).bind fun data _ s talk h => ⟨data, ensures_decoded _ s talk h⟩
  unfold build
  refine (htext .template).bind ?_
  rintro _ ⟨template, rfl⟩
  refine (htext .question).bind ?_
  rintro _ ⟨question, rfl⟩
  refine (ensures_decoded _).bind fun questions hquestions => ?_
  refine (hfetch .classes).bind fun classes _ => ?_
  refine (ensures_decoded _).bind fun classGeneration hgeneration => ?_
  refine (ensures_decoded _).bind fun classDefinitions hdefinitions => ?_
  refine (htext .dungeon).bind ?_
  rintro _ ⟨dungeon, rfl⟩
  refine (hartifact .artifact1).bind ?_
  rintro artifactTalk1 ⟨artifact1, hartifact1⟩
  refine (hartifact .artifact2).bind ?_
  rintro artifactTalk2 ⟨artifact2, hartifact2⟩
  refine (htrade .equipment).bind ?_
  rintro equipmentTalk ⟨equipment, hequipment⟩
  refine (htrade .magesGuild).bind ?_
  rintro guildTalk ⟨magesGuild, hmagesGuild⟩
  refine (htrade .selling).bind ?_
  rintro sellingTalk ⟨selling, hselling⟩
  refine (htrade .tavern).bind ?_
  rintro tavernTalk ⟨tavern, htavern⟩
  refine (hfetch .nameChunks).bind fun chunkData _ => ?_
  refine (ensures_decoded _).bind fun nameChunks hchunks => ?_
  refine (hfetch .spells).bind fun spellData _ => ?_
  refine (ensures_decoded _).bind fun spells hspells => ?_
  refine (htext .spellMaker).bind ?_
  rintro _ ⟨spellMaker, rfl⟩
  refine (ensures_decoded _).bind fun descriptions hdescriptions => ?_
  refine (hfetch .masks).bind fun maskData _ => ?_
  refine (ensures_decoded _).bind fun masks hmasks => ?_
  refine (hfetch .terrain).bind fun terrainData _ => ?_
  refine (ensures_decoded _).bind fun terrain hterrain => ?_
  refine (ensures_decoded _).bind fun generator hgenerator => ?_
  exact ensures_pure ⟨GameFile.contentOf template question classes dungeon artifact1 artifact2
    equipment magesGuild selling tavern chunkData spellData spellMaker maskData terrainData, rfl,
    rfl, hquestions, hgeneration, hdefinitions, rfl, hartifact1, hartifact2, hequipment,
    hmagesGuild, hselling, htavern, hchunks, hspells, hdescriptions, hmasks, hterrain,
    hgenerator⟩

/-- From an archive that answers with the content of the files, a loader gets the table that is
decoded from them. -/
theorem load_of_decodedFrom {read : Reader σ} {l : Loader σ} (hl : l.settled? = none)
    (hread : ∀ file, answer read l.archive file = (.ok (content file), l.archive))
    (h : t.DecodedFrom content l.sideData) : (load read l).1 = .ok t := by
  have hattempt : attempt read l = (.ok t, l.archive) := build_of_decodedFrom hread h
  rw [load_of_unsettled hl, hattempt]

/-- Two trees of archives in which every query finds the same data answer alike, but for the place
that a missing file is missing from. -/
theorem answerAlike_of_firstMatch {tree : FileTree} {a b : Archive}
    {leaves others : List Collection} {F : Fault → Fault → Prop} (ha : Archive.BuiltOf a leaves)
    (hb : Archive.BuiltOf b others)
    (h : ∀ how name, Archive.firstMatch how name leaves = Archive.firstMatch how name others)
    (hF : ∀ name, F (.resourceNotFound name a.describe) (.resourceNotFound name b.describe)) :
    AnswerAlike (fun s t => s = a ∧ t = b) F (Archive.reader tree) (Archive.reader tree) := by
  intro s t hst file
  rw [hst.1, hst.2]
  show AgreeUpTo F (a.read tree file.matching file.name).1
    (b.read tree file.matching file.name).1 ∧
    (a.read tree file.matching file.name).2 = a ∧ (b.read tree file.matching file.name).2 = b
  rw [ha.read, hb.read, h]
  cases Archive.firstMatch file.matching file.name others with
  | none => exact ⟨hF file.name, rfl, rfl⟩
  | some data => exact ⟨rfl, rfl, rfl⟩

end Loader

/-! ## The files of the game in memory -/

/-- All files of the game. -/
def GameFile.all : List GameFile :=
  [template, question, classes, dungeon, artifact1, artifact2, equipment, magesGuild, selling,
    tavern, nameChunks, spells, spellMaker, masks, terrain]

theorem GameFile.mem_all (file : GameFile) : file ∈ all := by
  cases file <;> decide

/-- The files of the game with this content, under their names. -/
def Collection.ofGame (content : GameFile → Bytes) : Collection :=
  GameFile.all.map fun file => (file.name, content file)

theorem Collection.names_ofGame (content : GameFile → Bytes) :
    (ofGame content).names = GameFile.all.map GameFile.name := by
  rw [ofGame, names, List.map_map]
  rfl

theorem Collection.nodup_ofGame (content : GameFile → Bytes) : (ofGame content).names.Nodup := by
  rw [names_ofGame]
  decide

/-- The names of the game's files are in capitals. -/
theorem GameFile.upper_name (file : GameFile) : file.name.upper = file.name := by
  cases file <;> decide

theorem Collection.caseUnique_ofGame (content : GameFile → Bytes) :
    CaseUnique (ofGame content).names := by
  rw [names_ofGame]
  intro x hx y hy hxy
  obtain ⟨file, -, rfl⟩ := List.mem_map.mp hx
  obtain ⟨file', -, rfl⟩ := List.mem_map.mp hy
  rwa [file.upper_name, file'.upper_name] at hxy

theorem Archive.read_ofGame (content : GameFile → Bytes) (tree : FileTree) (file : GameFile) :
    (memory (Collection.ofGame content)).read tree file.matching file.name =
      (.ok (content file), memory (Collection.ofGame content)) := by
  have hmem : (file.name, content file) ∈ Collection.ofGame content :=
    List.mem_map_of_mem file.mem_all
  rw [(Leaf.memory _ (Collection.nodup_ofGame content)).read,
    Collection.find_of_mem (Collection.nodup_ofGame content) (Collection.caseUnique_ofGame content)
      hmem (Matching.agrees_self _ _)]

theorem Loader.answer_ofGame (content : GameFile → Bytes) (tree : FileTree) (file : GameFile) :
    answer (Archive.reader tree) (.memory (Collection.ofGame content)) file =
      (.ok (content file), .memory (Collection.ofGame content)) :=
  Archive.read_ofGame content tree file

/-- From the files in memory, a loader gets the table that is decoded from them. -/
theorem Loader.load_ofGame {content : GameFile → Bytes} {sideData : SideData} {t : AssetTable}
    (h : t.DecodedFrom content sideData) (tree : FileTree) :
    (load (Archive.reader tree) (new (.memory (Collection.ofGame content)) sideData)).1 = .ok t :=
  load_of_decodedFrom rfl (answer_ofGame content tree) h

/-! ## The shortest files -/

/-- A chunk without strings. -/
def NameChunk.emptyBlock : NameChunk.Block := ⟨3, 0, 0, [], rfl, by decide⟩

/-- As many chunks as the rules of names make use of. -/
def NameChunk.emptyBlocks : List NameChunk.Block :=
  List.replicate RuleTable.chunkCount NameChunk.emptyBlock

/-- Every file as short as it may be. -/
def GameFile.leastContent : GameFile → Bytes
  | classes => List.replicate ClassGeneration.fileSize 0
  | artifact1 | artifact2 => List.replicate ArtifactTalk.stringCount 0
  | equipment | magesGuild | selling | tavern => List.replicate TradeTalk.stringCount 0
  | nameChunks => NameChunk.emptyBlocks.flatMap NameChunk.Block.bytes
  | spells => List.replicate (Spell.count * Spell.recordSize) 0
  | masks => List.replicate (Mask.dataOffset + Mask.totalSize) 0
  | terrain => List.replicate (Terrain.headerSize + mapSize) 0
  | template | question | dungeon | spellMaker => []

/-- Tables of classes that may use everything. -/
def SideData.permissive : SideData where
  classNames := List.replicate classCount []
  preferredAttributes := List.replicate classCount []
  allowedArmors := List.replicate classCount 0
  allowedShieldsIndices := List.replicate classCount (-1)
  allowedWeaponsIndices := List.replicate classCount (-1)
  classNumbersToIds := List.replicate classCount 0
  initialExperienceCaps := List.replicate classCount 0
  healthDice := List.replicate classCount 0
  lockpickingDivisors := List.replicate classCount 1
  allowedShieldsLists := []
  allowedWeaponsLists := []

theorem AssetTable.exists_decodedFrom_least :
    ∃ t : AssetTable, t.DecodedFrom GameFile.leastContent SideData.permissive := by
  have hzeros (count : Nat) (source : Text) :
      StringBlock.read source count (List.replicate count 0) =
        .ok (((Bytes.strings (List.replicate count 0)).take count).map Bytes.latin1) :=
    StringBlock.readFrom_of_le 0 List.count_replicate_self.ge
  have hartifact (source : Text) : ∃ talk,
      ArtifactTalk.decode (List.replicate ArtifactTalk.stringCount 0) source = .ok talk := by
    rw [ArtifactTalk.decode, hzeros]
    exact ⟨_, rfl⟩
  have htrade (source : Text) : ∃ talk,
      TradeTalk.decode (List.replicate TradeTalk.stringCount 0) source = .ok talk := by
    rw [TradeTalk.decode, hzeros]
    exact ⟨_, rfl⟩
  have hlong (count : Nat) : count ≤ (List.replicate count (0 : UInt8)).length :=
    List.length_replicate.ge
  obtain ⟨classGeneration, hgeneration⟩ :=
    ClassGeneration.exists_decode (hlong ClassGeneration.fileSize)
  obtain ⟨spells, hspells⟩ := Spell.exists_decodeAll (hlong (Spell.count * Spell.recordSize))
  obtain ⟨terrain, hterrain⟩ := Terrain.exists_decode GameFile.terrain.name
    (hlong (Terrain.headerSize + mapSize))
  obtain ⟨masks, hmasks⟩ := Mask.exists_decodeAll GameFile.masks.name
    (hlong (Mask.dataOffset + Mask.totalSize))
  have hnames : NameChunk.decode (GameFile.leastContent .nameChunks) NameChunk.fileName =
      .ok (NameChunk.emptyBlocks.map NameChunk.Block.texts) := NameChunk.decode_blocks _
  have hgenerator : ∃ generator,
      NameGenerator.build (NameChunk.emptyBlocks.map NameChunk.Block.texts) RuleTable.standard =
        .ok generator := by
    obtain ⟨mentioned, hmentioned, hchunks⟩ := RuleTable.mentioned_standard
    exact NameGenerator.exists_build hmentioned (by simpa [NameChunk.emptyBlocks] using hchunks)
  have hclasses : ∃ classes, ClassDefinition.all SideData.permissive = .ok classes := ⟨_, rfl⟩
  have hdescriptions : ∃ descriptions, SpellMaker.parse [] SpellMaker.descriptionCount =
      .ok descriptions := ⟨_, rfl⟩
  obtain ⟨classDefinitions, hclasses⟩ := hclasses
  obtain ⟨artifactTalk1, hartifact1⟩ := hartifact GameFile.artifact1.name
  obtain ⟨artifactTalk2, hartifact2⟩ := hartifact GameFile.artifact2.name
  obtain ⟨equipment, hequipment⟩ := htrade GameFile.equipment.name
  obtain ⟨magesGuild, hmagesGuild⟩ := htrade GameFile.magesGuild.name
  obtain ⟨selling, hselling⟩ := htrade GameFile.selling.name
  obtain ⟨tavern, htavern⟩ := htrade GameFile.tavern.name
  obtain ⟨generator, hgenerator⟩ := hgenerator
  obtain ⟨descriptions, hdescriptions⟩ := hdescriptions
  refine ⟨{
    sideData := SideData.permissive, templates := Template.parse [], questions := []
    classGeneration, classDefinitions, dungeons := Dungeon.parse [], artifactTalk1, artifactTalk2
    shopTalk := ⟨equipment, magesGuild, selling, tavern⟩
    nameChunks := NameChunk.emptyBlocks.map NameChunk.Block.texts
    spells, descriptions, masks, terrain, generator }, ?_⟩
  exact ⟨rfl, rfl, rfl, hgeneration, hclasses, rfl, hartifact1, hartifact2, hequipment, hmagesGuild,
    hselling, htavern, hnames, hspells, hdescriptions, hmasks, hterrain, hgenerator⟩

end ArenaData
