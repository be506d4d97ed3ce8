import ArenaData.CharacterClass.Definition
import ArenaData.CharacterClass.Generation
import ArenaData.Dialogue
import ArenaData.Dungeon
import ArenaData.Naming.Generator
import ArenaData.Question
import ArenaData.Spell
import ArenaData.SpellMaker
import ArenaData.Template
import ArenaData.WorldMap.Mask
import ArenaData.WorldMap.Terrain

/-!
# The asset table

Everything that is read from the game's files, in one record. It is built at once, from all files,
and does not change afterwards.
-/

namespace ArenaData

/-- What shopkeepers say, by kind of shop. -/
structure ShopTalk where
  /-- In equipment stores. -/
  equipment : TradeTalk
  /-- In guilds of mages. -/
  magesGuild : TradeTalk
  /-- When they buy. -/
  selling : TradeTalk
  /-- In taverns. -/
  tavern : TradeTalk

/-- The decoded files of the game. -/
structure AssetTable where
  /-- The tables of the executable. -/
  sideData : SideData
  /-- The template texts. -/
  templates : TemplateTable
  /-- The class quiz. -/
  questions : List Question
  /-- The class file. -/
  classGeneration : ClassGeneration
  /-- The character classes. -/
  classDefinitions : List ClassDefinition
  /-- The dungeons of the main quest. -/
  dungeons : List Dungeon
  /-- The first file of tavern talk. -/
  artifactTalk1 : List ArtifactTalk
  /-- The second file of tavern talk. -/
  artifactTalk2 : List ArtifactTalk
  /-- The talk of shopkeepers. -/
  shopTalk : ShopTalk
  /-- The fragments of names. -/
  nameChunks : List NameChunk
  /-- The standard spells. -/
  spells : List Spell
  /-- The spell maker descriptions. -/
  descriptions : List Text
  /-- The masks of the world map. -/
  masks : List Mask
  /-- The terrain of the world map. -/
  terrain : Terrain
  /-- The generator of names. -/
  generator : NameGenerator

namespace AssetTable

/-- The template text of a key, with or without its mark. -/
def template (t : AssetTable) (key : Text) : Except Fault Text := Template.find t.templates key

/-- There is a template text of the key. -/
def hasTemplate (t : AssetTable) (key : Text) : Bool := (t.template key).toOption.isSome

/-- The spell maker description of an index. -/
def description (t : AssetTable) (index : Int) : Except Fault Text :=
  if 0 ≤ index ∧ index < t.descriptions.length then
    .ok ((t.descriptions[index.toNat]?).getD [])
  else .error (Fault.noDescription index t.descriptions.length).reported

/-- A name for a race and sex. -/
def generateName {σ : Type} (t : AssetTable) (next : Draw σ) (race : Int) (male : Bool)
    (source : σ) : Except Fault Text × σ :=
  t.generator.generate next race male source

end AssetTable

end ArenaData
