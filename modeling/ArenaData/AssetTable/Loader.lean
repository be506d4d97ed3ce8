import ArenaData.Archive.Basic
import ArenaData.AssetTable.Basic

/-!
# Loading

A loader decodes the files of an archive, one after the other and in a fixed order, into an asset
table. It shows the table only if every file could be decoded; any fault ends the load and leaves
the loader as if there had been none. Once there is a table, the loader keeps it.

An archive answers a read at once or may call the loader before it does, as one that shows a
progress report would. `Reply` describes both, so the loader can be run against any archive. A call
that comes while a load is under way is refused.

Before its first read a load tells the log what the archive is. That is no part of a `Reader`, which
only answers reads: every archive is taken to be able to say what it is. One that could not would
end the load before there is anything to give up, and leave the loader loading for good.
-/

namespace ArenaData

/-- The files of the game. -/
inductive GameFile where
  /-- The template texts. -/
  | template
  /-- The class quiz. -/
  | question
  /-- The class file. -/
  | classes
  /-- The dungeons of the main quest. -/
  | dungeon
  /-- The first file of tavern talk. -/
  | artifact1
  /-- The second file of tavern talk. -/
  | artifact2
  /-- The talk in equipment stores. -/
  | equipment
  /-- The talk in guilds of mages. -/
  | magesGuild
  /-- The talk of buyers. -/
  | selling
  /-- The talk in taverns. -/
  | tavern
  /-- The fragments of names. -/
  | nameChunks
  /-- The standard spells. -/
  | spells
  /-- The spell maker descriptions. -/
  | spellMaker
  /-- The masks of the world map. -/
  | masks
  /-- The terrain of the world map. -/
  | terrain
  deriving DecidableEq, Repr

namespace GameFile

/-- The name of a file. -/
def name : GameFile → Text
  | template => "TEMPLATE.DAT".toList
  | question => "QUESTION.TXT".toList
  | classes => "CLASSES.DAT".toList
  | dungeon => "DUNGEON.TXT".toList
  | artifact1 => "ARTFACT1.DAT".toList
  | artifact2 => "ARTFACT2.DAT".toList
  | equipment => "EQUIP.DAT".toList
  | magesGuild => "MUGUILD.DAT".toList
  | selling => "SELLING.DAT".toList
  | tavern => "TAVERN.DAT".toList
  | nameChunks => NameChunk.fileName
  | spells => Spell.fileName
  | spellMaker => SpellMaker.fileName
  | masks => "TAMRIEL.MNU".toList
  | terrain => "TERRAIN.IMG".toList

/-- How the name is looked up. The two releases of the game write the name of the spell file in
different cases. -/
def matching : GameFile → Matching
  | spells => .anyCase
  | _ => .exact

end GameFile

/-- What an archive may ask of the loader that reads from it. -/
inductive LoaderCall where
  /-- A load. -/
  | load
  /-- The table. -/
  | table
  deriving DecidableEq, Repr

/-- How an archive answers a read. -/
inductive Reply (σ : Type) where
  /-- With data or a fault, and the state it is in from now on. -/
  | answer (data : Except Fault Bytes) (state : σ)
  /-- With a call of the loader, and depending on how that goes. -/
  | call (request : LoaderCall) (resume : Except Fault Unit → Reply σ)

/-- An archive over states of type `σ`: what it replies to a read. -/
abbrev Reader (σ : Type) := σ → Matching → Text → Reply σ

/-- An archive as it replies with the given tree of files. -/
def Archive.reader (tree : FileTree) : Reader Archive := fun a how name =>
  let (data, a) := a.read tree how name
  .answer data a

/-- The outcome of reading from an archive, and the state that leaves it in. -/
abbrev Decoding (σ : Type) := ExceptT Fault (StateM σ)

/-- A loader. -/
structure Loader (σ : Type) where
  /-- The state of its archive. -/
  archive : σ
  /-- The tables of the executable. -/
  sideData : SideData
  /-- How far it has come. -/
  phase : Phase
  /-- The table, once there is one. -/
  stored : Option AssetTable

namespace Loader

variable {σ : Type}

/-- A loader that has not loaded anything. -/
def new (archive : σ) (sideData : SideData) : Loader σ := ⟨archive, sideData, .uninitialized, none⟩

/-- The table, if the loader is ready. -/
def table (l : Loader σ) : Except Fault AssetTable :=
  match l.phase, l.stored with
  | .ready, some table => .ok table
  | phase, _ => .error (.tableNotReady phase)

/-- What a load comes to without any reading: the table that is there, or a refusal while another
load is under way. -/
def settled? (l : Loader σ) : Option (Except Fault AssetTable) :=
  match l.phase, l.stored with
  | .ready, some table => some (.ok table)
  | .loading, _ => some (.error .alreadyLoading)
  | _, _ => none

/-- How the loader takes a call from an archive it reads from; it is loading then, so there is
nothing to be started. -/
def take (l : Loader σ) : LoaderCall → Except Fault Unit
  | .load => ((l.settled?).getD (.error .alreadyLoading)).map fun _ => ()
  | .table => l.table.map fun _ => ()

/-- The end of a reply, calls answered as `take` says. -/
def conclude (take : LoaderCall → Except Fault Unit) : Reply σ → Except Fault Bytes × σ
  | .answer data state => (data, state)
  | .call request resume => conclude take (resume (take request))

/-- A step of decoding, which reads nothing. -/
def decoded {α : Type} (outcome : Except Fault α) : Decoding σ α := ExceptT.mk (pure outcome)

section Build

variable (fetch : GameFile → Decoding σ Bytes)

/-- The text of a file. -/
def fetchText (file : GameFile) : Decoding σ Text := do
  let data ← fetch file
  pure (Bytes.latin1 data)

/-- The talk in a file of a shop. -/
def fetchTrade (file : GameFile) : Decoding σ TradeTalk := do
  let data ← fetch file
  decoded (TradeTalk.decode data file.name)

/-- The talk in a file of the tavern. -/
def fetchArtifact (file : GameFile) : Decoding σ (List ArtifactTalk) := do
  let data ← fetch file
  decoded (ArtifactTalk.decode data file.name)

/-- The asset table, file after file. -/
def build (sideData : SideData) : Decoding σ AssetTable := do
  let templates := Template.parse (← fetchText fetch .template)
  let questions ← decoded (Question.parse (← fetchText fetch .question))
  let classGeneration ← decoded (ClassGeneration.decode (← fetch .classes))
  let classDefinitions ← decoded (ClassDefinition.all sideData)
  let dungeons := Dungeon.parse (← fetchText fetch .dungeon)
  let artifactTalk1 ← fetchArtifact fetch .artifact1
  let artifactTalk2 ← fetchArtifact fetch .artifact2
  let equipment ← fetchTrade fetch .equipment
  let magesGuild ← fetchTrade fetch .magesGuild
  let selling ← fetchTrade fetch .selling
  let tavern ← fetchTrade fetch .tavern
  let nameChunks ← decoded (NameChunk.decode (← fetch .nameChunks) NameChunk.fileName)
  let spells ← decoded (Spell.decodeAll (← fetch .spells))
  let descriptions ←
    decoded (SpellMaker.parse (← fetchText fetch .spellMaker) SpellMaker.descriptionCount)
  let masks ← decoded (Mask.decodeAll (← fetch .masks) GameFile.masks.name)
  let terrain ← decoded (Terrain.decode (← fetch .terrain) GameFile.terrain.name)
  let generator ← decoded (NameGenerator.build nameChunks RuleTable.standard)
  pure {
    sideData, templates, questions, classGeneration, classDefinitions, dungeons, artifactTalk1,
    artifactTalk2, nameChunks, spells, descriptions, masks, terrain, generator
    shopTalk := ⟨equipment, magesGuild, selling, tavern⟩ }

end Build

/-- A read of a file on behalf of a loader. -/
def fetch (read : Reader σ) (l : Loader σ) (file : GameFile) : Decoding σ Bytes := fun archive =>
  conclude l.take (read archive file.matching file.name)

/-- A load: the table, and the loader afterwards. -/
def load (read : Reader σ) (l : Loader σ) : Except Fault AssetTable × Loader σ :=
  match l.settled? with
  | some outcome => (outcome, l)
  | none =>
    let busy := { l with phase := .loading }
    match (build (fetch read busy) l.sideData).run l.archive with
    | (.ok table, archive) =>
      (.ok table, { busy with archive := archive, phase := .ready, stored := some table })
    | (.error fault, archive) =>
      (.error fault, { busy with archive := archive, phase := .uninitialized })

end Loader

end ArenaData
