import ArenaData.AssetTable.Loader
import ArenaData.Proofs.Outcome

/-!
# Loads from archives that answer alike

A load reads one file after the other and knows nothing of its archive but the answers. So if two
archives, started in related states, give related answers and go on to related states, two loads
from them end alike. `build_alike` walks over the files once for all statements of this kind: the
relation on faults says how far two failures have to resemble each other, and the decoders, which
are the same on both sides, have to end only with faults that are related to themselves.
-/

namespace ArenaData.Loader

variable {σ τ α β : Type} {R : σ → τ → Prop} {F : Fault → Fault → Prop}

/-! ## Steps -/

/-- From related states the two steps have outcomes that agree, and they leave related states. -/
def Alike (R : σ → τ → Prop) (F : Fault → Fault → Prop) (x : Decoding σ α) (y : Decoding τ α) :
    Prop :=
  ∀ s t, R s t → AgreeUpTo F (x.run s).1 (y.run t).1 ∧ R (x.run s).2 (y.run t).2

theorem alike_pure (a : α) : Alike R F (pure a) (pure a) := fun _ _ h => ⟨rfl, h⟩

theorem alike_decoded {outcome : Except Fault α}
    (h : FailsOnly (fun fault => F fault fault) outcome) :
    Alike R F (decoded outcome) (decoded outcome) :=
  fun _ _ hst => ⟨agreeUpTo_self_iff.mpr h, hst⟩

theorem run_bind (x : Decoding σ α) (f : α → Decoding σ β) (s : σ) :
    (x >>= f).run s = match x.run s with
      | (.ok a, s) => (f a).run s
      | (.error fault, s) => (.error fault, s) := by
  show (x.run >>= ExceptT.bindCont f) s = _
  show ExceptT.bindCont f (x.run s).1 (x.run s).2 = _
  cases x.run s with
  | mk outcome s => cases outcome with
    | ok a => rfl
    | error fault => rfl

/-- If a first step is alike on both sides, and what follows it is for each of its results, both
together are. -/
theorem Alike.bind {x : Decoding σ α} {y : Decoding τ α} {f : α → Decoding σ β}
    {g : α → Decoding τ β} (hx : Alike R F x y) (hf : ∀ a, Alike R F (f a) (g a)) :
    Alike R F (x >>= f) (y >>= g) := by
  intro s t hst
  obtain ⟨hagree, hafter⟩ := hx s t hst
  rw [run_bind, run_bind]
  cases hs : x.run s with
  | mk outcome s' => cases ht : y.run t with
    | mk outcome' t' =>
      rw [hs, ht] at hagree hafter
      cases outcome with
      | ok a => cases outcome' with
        | ok b =>
          obtain rfl : a = b := hagree
          exact hf a s' t' hafter
        | error g => exact hagree.elim
      | error f => cases outcome' with
        | ok b => exact hagree.elim
        | error g => exact ⟨hagree, hafter⟩

/-! ## All files -/

/-- Every fault with which the decoding of a file, or the joining of the tables, may end has the
property. -/
structure DecodersFailOnly (P : Fault → Prop) (sideData : SideData) : Prop where
  question : ∀ text, FailsOnly P (Question.parse text)
  classGeneration : ∀ data, FailsOnly P (ClassGeneration.decode data)
  classDefinitions : FailsOnly P (ClassDefinition.all sideData)
  artifactTalk : ∀ data source, FailsOnly P (ArtifactTalk.decode data source)
  tradeTalk : ∀ data source, FailsOnly P (TradeTalk.decode data source)
  nameChunks : ∀ data source, FailsOnly P (NameChunk.decode data source)
  spells : ∀ data, FailsOnly P (Spell.decodeAll data)
  descriptions : ∀ text, FailsOnly P (SpellMaker.parse text SpellMaker.descriptionCount)
  masks : ∀ data source, FailsOnly P (Mask.decodeAll data source)
  terrain : ∀ data source, FailsOnly P (Terrain.decode data source)
  generator : ∀ chunks, FailsOnly P (NameGenerator.build chunks RuleTable.standard)

/-- A relation that every fault has to itself asks nothing of the decoders. -/
theorem decodersFailOnly_of_refl (F : Fault → Fault → Prop) (hF : ∀ fault, F fault fault)
    (sideData : SideData) : DecodersFailOnly (fun fault => F fault fault) sideData := by
  constructor <;> intros <;> exact fun fault _ => hF fault

theorem DecodersFailOnly.imp {P Q : Fault → Prop} {sideData : SideData}
    (h : DecodersFailOnly P sideData) (himp : ∀ fault, P fault → Q fault) :
    DecodersFailOnly Q sideData where
  question text := (h.question text).imp himp
  classGeneration data := (h.classGeneration data).imp himp
  classDefinitions := h.classDefinitions.imp himp
  artifactTalk data source := (h.artifactTalk data source).imp himp
  tradeTalk data source := (h.tradeTalk data source).imp himp
  nameChunks data source := (h.nameChunks data source).imp himp
  spells data := (h.spells data).imp himp
  descriptions text := (h.descriptions text).imp himp
  masks data source := (h.masks data source).imp himp
  terrain data source := (h.terrain data source).imp himp
  generator chunks := (h.generator chunks).imp himp

section Build

variable {fetch₁ : GameFile → Decoding σ Bytes} {fetch₂ : GameFile → Decoding τ Bytes}

theorem fetchText_alike (h : ∀ file, Alike R F (fetch₁ file) (fetch₂ file)) (file : GameFile) :
    Alike R F (fetchText fetch₁ file) (fetchText fetch₂ file) :=
  (h file).bind fun data => alike_pure (Bytes.latin1 data)

theorem fetchTrade_alike {sideData : SideData} (h : ∀ file, Alike R F (fetch₁ file) (fetch₂ file))
    (hd : DecodersFailOnly (fun fault => F fault fault) sideData) (file : GameFile) :
    Alike R F (fetchTrade fetch₁ file) (fetchTrade fetch₂ file) :=
  (h file).bind fun data => alike_decoded (hd.tradeTalk data file.name)

theorem fetchArtifact_alike {sideData : SideData}
    (h : ∀ file, Alike R F (fetch₁ file) (fetch₂ file))
    (hd : DecodersFailOnly (fun fault => F fault fault) sideData) (file : GameFile) :
    Alike R F (fetchArtifact fetch₁ file) (fetchArtifact fetch₂ file) :=
  (h file).bind fun data => alike_decoded (hd.artifactTalk data file.name)

/-- If every single read is alike on both sides, the whole table is. -/
theorem build_alike {sideData : SideData} (h : ∀ file, Alike R F (fetch₁ file) (fetch₂ file))
    (hd : DecodersFailOnly (fun fault => F fault fault) sideData) :
    Alike R F (build fetch₁ sideData) (build fetch₂ sideData) := by
  unfold build
  refine (fetchText_alike h .template).bind fun template => ?_
  refine (fetchText_alike h .question).bind fun question => ?_
  refine (alike_decoded (hd.question question)).bind fun questions => ?_
  refine (h .classes).bind fun classes => ?_
  refine (alike_decoded (hd.classGeneration classes)).bind fun classGeneration => ?_
  refine (alike_decoded hd.classDefinitions).bind fun classDefinitions => ?_
  refine (fetchText_alike h .dungeon).bind fun dungeon => ?_
  refine (fetchArtifact_alike h hd .artifact1).bind fun artifactTalk1 => ?_
  refine (fetchArtifact_alike h hd .artifact2).bind fun artifactTalk2 => ?_
  refine (fetchTrade_alike h hd .equipment).bind fun equipment => ?_
  refine (fetchTrade_alike h hd .magesGuild).bind fun magesGuild => ?_
  refine (fetchTrade_alike h hd .selling).bind fun selling => ?_
  refine (fetchTrade_alike h hd .tavern).bind fun tavern => ?_
  refine (h .nameChunks).bind fun chunks => ?_
  refine (alike_decoded (hd.nameChunks chunks NameChunk.fileName)).bind fun nameChunks => ?_
  refine (h .spells).bind fun spellData => ?_
  refine (alike_decoded (hd.spells spellData)).bind fun spells => ?_
  refine (fetchText_alike h .spellMaker).bind fun spellMaker => ?_
  refine (alike_decoded (hd.descriptions spellMaker)).bind fun descriptions => ?_
  refine (h .masks).bind fun maskData => ?_
  refine (alike_decoded (hd.masks maskData _)).bind fun masks => ?_
  refine (h .terrain).bind fun terrainData => ?_
  refine (alike_decoded (hd.terrain terrainData _)).bind fun terrain => ?_
  refine (alike_decoded (hd.generator nameChunks)).bind fun generator => ?_
  exact alike_pure _

end Build

/-! ## Whole loads -/

/-- How a call of the loader ends while a load is under way. -/
def refusal : LoaderCall → Fault
  | .load => .alreadyLoading
  | .table => .tableNotReady .loading

theorem kind_refusal (request : LoaderCall) : (refusal request).kind = .tableState := by
  cases request with
  | load => rfl
  | table => rfl

/-- What an archive comes to answer while a load is under way, when its own calls are refused. -/
def answer (read : Reader σ) (s : σ) (file : GameFile) : Except Fault Bytes × σ :=
  conclude (fun request => .error (refusal request)) (read s file.matching file.name)

variable {read : Reader σ} {read₁ : Reader σ} {read₂ : Reader τ} {l : Loader σ} {m : Loader τ}

theorem take_of_loading (h : l.phase = .loading) (request : LoaderCall) :
    l.take request = .error (refusal request) := by
  obtain ⟨archive, sideData, phase, stored⟩ := l
  obtain rfl : phase = .loading := h
  cases request with
  | load => rfl
  | table => rfl

theorem fetch_of_loading (h : l.phase = .loading) (file : GameFile) :
    fetch read l file = fun s => answer read s file := by
  have htake : l.take = fun request => .error (refusal request) := funext (take_of_loading h)
  funext s
  rw [fetch, htake, answer]

/-- The loader after an attempt to load that ends like this. -/
def closed (l : Loader σ) : Except Fault AssetTable → Loader σ
  | .ok table => { l with phase := .ready, stored := some table }
  | .error _ => { l with phase := .uninitialized }

@[simp]
theorem archive_closed (l : Loader σ) (outcome : Except Fault AssetTable) :
    (l.closed outcome).archive = l.archive := by
  cases outcome with
  | ok table => rfl
  | error fault => rfl

/-- What the archive, from its present state on, makes of the files. -/
def attempt (read : Reader σ) (l : Loader σ) : Except Fault AssetTable × σ :=
  (build (fun file s => answer read s file) l.sideData).run l.archive

/-- A load that has to read ends as the attempt to build the table does. -/
theorem load_of_unsettled (h : l.settled? = none) :
    load read l =
      ((attempt read l).1, { l with archive := (attempt read l).2 }.closed (attempt read l).1) := by
  have hfetch : fetch read { l with phase := .loading } = fun file s => answer read s file :=
    funext fun file => fetch_of_loading rfl file
  rw [load, h, attempt]
  simp only [hfetch]
  cases (build (fun file s => answer read s file) l.sideData).run l.archive with
  | mk outcome archive => cases outcome with
    | ok table => rfl
    | error fault => rfl

/-- The two archives, in related states, answer the reads of the game's files alike up to `F` and go
on to related states. -/
def AnswerAlike (R : σ → τ → Prop) (F : Fault → Fault → Prop) (read₁ : Reader σ)
    (read₂ : Reader τ) : Prop :=
  ∀ s t, R s t → ∀ file, AgreeUpTo F (answer read₁ s file).1 (answer read₂ t file).1 ∧
    R (answer read₁ s file).2 (answer read₂ t file).2

/-- Two loads that have to read, with the same tables of the executable and from archives that
answer alike, end alike. -/
theorem load_alike (hl : l.settled? = none) (hm : m.settled? = none)
    (hside : l.sideData = m.sideData) (hR : R l.archive m.archive)
    (hread : AnswerAlike R F read₁ read₂)
    (hd : DecodersFailOnly (fun fault => F fault fault) l.sideData) :
    AgreeUpTo F (load read₁ l).1 (load read₂ m).1 ∧
      R (load read₁ l).2.archive (load read₂ m).2.archive := by
  have hbuild : Alike R F (build (fun file s => answer read₁ s file) l.sideData)
      (build (fun file t => answer read₂ t file) l.sideData) :=
    build_alike (fun file s t hst => hread s t hst file) hd
  rw [load_of_unsettled hl, load_of_unsettled hm, archive_closed, archive_closed, attempt, attempt,
    ← hside]
  exact hbuild l.archive m.archive hR

theorem load_new_alike {s : σ} {t : τ} (sideData : SideData) (hR : R s t)
    (hread : AnswerAlike R F read₁ read₂)
    (hd : DecodersFailOnly (fun fault => F fault fault) sideData) :
    AgreeUpTo F (load read₁ (new s sideData)).1 (load read₂ (new t sideData)).1 := by
  have hs : (new s sideData).settled? = none := rfl
  have ht : (new t sideData).settled? = none := rfl
  exact (load_alike hs ht rfl hR hread hd).1

end ArenaData.Loader
