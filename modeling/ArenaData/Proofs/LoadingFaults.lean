import ArenaData.Proofs.DecodedTable
import ArenaData.Proofs.TableColumns

/-!
# Faults of loading

However the files of an archive in memory are filled or left out, and whatever the tables of the
executable say once they have been accepted, a load gives a table or ends with a fault of one of
four families, but for one exception. Each decoder keeps to them, by its own lemma; the archive adds
only the faults of files that are absent, and the rules of names are all recognized.

The exception are tables of the executable with a reference that leads nowhere and has too many
digits to be shown. The fault that should say so is of none of the four families, and there are
files from which a load comes as far as that (`load_least_of_refused_classes`).

Where a table of the executable is looked up by class, the entry is there: `Complete` says so of
tables that have been accepted, so no stand-in for a missing entry is ever used.
-/

namespace ArenaData

/-! ## Accepted tables -/

namespace SideData

/-- Every table that goes by class has an entry for each class. -/
structure Complete (d : SideData) : Prop where
  classNames : d.classNames.length = classCount
  preferredAttributes : d.preferredAttributes.length = classCount
  allowedArmors : d.allowedArmors.length = classCount
  allowedShieldsIndices : d.allowedShieldsIndices.length = classCount
  allowedWeaponsIndices : d.allowedWeaponsIndices.length = classCount
  classNumbersToIds : d.classNumbersToIds.length = classCount
  initialExperienceCaps : d.initialExperienceCaps.length = classCount
  healthDice : d.healthDice.length = classCount
  lockpickingDivisors : d.lockpickingDivisors.length = classCount

theorem complete_of_ofValue {levels : Nat} {document : Json.Value} {d : SideData}
    (h : ofValue levels document = .ok d) : d.Complete := by
  obtain ⟨fields, -, hd⟩ := ofValue_eq_ok_iff.mp h
  exact ⟨hd.classNames.1, hd.preferredAttributes.1, hd.allowedArmors.1, hd.allowedShieldsIndices.1,
    hd.allowedWeaponsIndices.1, hd.classNumbersToIds.1, hd.initialExperienceCaps.1,
    hd.healthDice.1, hd.lockpickingDivisors.1⟩

end SideData

/-! ## Loads -/

/-- The families of faults that a load may end with. -/
def Fault.OfLoading (fault : Fault) : Prop :=
  fault.kind ∈ [.resourceNotFound, .malformedRecord, .unrecognizedCategoryCode, .indexOutOfRange]

/-- The families of faults of what the files of the game hold. -/
def Fault.OfContent (fault : Fault) : Prop :=
  fault.kind ∈ [.malformedRecord, .unrecognizedCategoryCode, .indexOutOfRange]

theorem Fault.OfContent.ofLoading {fault : Fault} (h : fault.OfContent) : fault.OfLoading :=
  List.mem_cons_of_mem _ h

theorem Fault.Malformed.ofContent {fault : Fault} (h : fault.Malformed) : fault.OfContent := by
  rw [OfContent, h]
  decide

namespace Loader

/-- Whatever the files hold, their decoders find no more than faults of content. So what may be
wrong with a table is bounded by what may be wrong with the classes. -/
theorem decoders_failOnly {P : Fault → Prop} {sideData : SideData}
    (hcontent : ∀ fault : Fault, fault.OfContent → P fault)
    (hclasses : FailsOnly P (ClassDefinition.all sideData)) : DecodersFailOnly P sideData where
  question text := (Question.parse_faults text).imp fun fault h => hcontent fault <| by
    rw [Fault.OfContent, h]
    decide
  classGeneration data :=
    (ClassGeneration.decode_faults data).imp fun fault h => hcontent fault h.ofContent
  classDefinitions := hclasses
  artifactTalk data source :=
    (ArtifactTalk.decode_faults data source).imp fun fault h => hcontent fault h.ofContent
  tradeTalk data source :=
    (TradeTalk.decode_faults data source).imp fun fault h => hcontent fault h.ofContent
  nameChunks data source :=
    (NameChunk.decode_faults data source).imp fun fault h => hcontent fault h.ofContent
  spells data := (Spell.decodeAll_faults data).imp fun fault h => hcontent fault h.ofContent
  descriptions text := (SpellMaker.parse_faults text _).imp fun fault h => hcontent fault <| by
    rcases h with h | h
    · exact h.ofContent
    · rw [Fault.OfContent, h]
      decide
  masks data source :=
    (Mask.decodeAll_faults data source).imp fun fault h => hcontent fault h.ofContent
  terrain data source :=
    (Terrain.decode_faults data source).imp fun fault h => hcontent fault h.ofContent
  generator chunks := by
    obtain ⟨mentioned, hmentioned, hchunks⟩ := RuleTable.mentioned_standard
    have hshown : ∀ index ∈ mentioned, Text.shows index = true := fun index hindex => by
      obtain ⟨hlow, hhigh⟩ := hchunks index hindex
      rw [RuleTable.chunkCount] at hhigh
      exact Text.shows_of_lt (by omega)
    exact (NameGenerator.build_faults hmentioned hshown chunks).imp fun fault h =>
      hcontent fault h.ofContent

/-- A tree of collections and containers only adds that files are absent. -/
theorem load_faults {a : Archive} {leaves : List Collection} (h : Archive.BuiltOf a leaves)
    (tree : FileTree) {P : Fault → Prop} {sideData : SideData}
    (hloading : ∀ fault : Fault, fault.OfLoading → P fault)
    (hclasses : FailsOnly P (ClassDefinition.all sideData)) :
    FailsOnly P (load (Archive.reader tree) (new a sideData)).1 := by
  have habsent (name : Text) : P (.resourceNotFound name a.describe) :=
    hloading _ List.mem_cons_self
  have hself : AnswerAlike (fun s t => s = a ∧ t = a) (fun _ g => P g)
      (Archive.reader tree) (Archive.reader tree) :=
    answerAlike_of_firstMatch h h (fun _ _ => rfl) habsent
  have hagree : AgreeUpTo (fun _ g => P g) (load (Archive.reader tree) (new a sideData)).1
      (load (Archive.reader tree) (new a sideData)).1 :=
    load_new_alike sideData ⟨rfl, rfl⟩ hself
      (decoders_failOnly (fun fault h => hloading fault h.ofLoading) hclasses)
  exact agreeUpTo_self_iff.mp hagree

/-! ## Classes that cannot be joined -/

section Classes

variable {σ α β : Type} {s : σ} {x : Decoding σ α} {fault : Fault} {sideData : SideData}

/-- The step ends with the fault and leaves the state as it is. -/
def EndsWith (s : σ) (x : Decoding σ α) (fault : Fault) : Prop := x.run s = (.error fault, s)

theorem endsWith_decoded {outcome : Except Fault α} (h : outcome = .error fault) :
    EndsWith s (decoded outcome) fault := by
  rw [h]
  rfl

theorem EndsWith.bind (h : EndsWith s x fault) (f : α → Decoding σ β) :
    EndsWith s (x >>= f) fault := by
  rw [EndsWith, run_bind, h]

theorem Gives.bind_endsWith {f : α → Decoding σ β} {a : α} (hx : Gives s x a)
    (hf : EndsWith s (f a) fault) : EndsWith s (x >>= f) fault := by
  rw [EndsWith, run_bind, hx]
  exact hf

/-- If the quiz and the class file can be decoded, and the classes cannot be joined, that is the
fault that building the table ends with. -/
theorem build_of_refused_classes {fetch : GameFile → Decoding σ Bytes}
    {content : GameFile → Bytes} {questions : List Question} {generation : ClassGeneration}
    (hfetch : ∀ file, Gives s (fetch file) (content file))
    (hquestions : Question.parse (Bytes.latin1 (content .question)) = .ok questions)
    (hgeneration : ClassGeneration.decode (content .classes) = .ok generation)
    (hclasses : ClassDefinition.all sideData = .error fault) :
    EndsWith s (build fetch sideData) fault := by
  have htext (file : GameFile) : Gives s (fetchText fetch file) (Bytes.latin1 (content file)) :=
    (hfetch file).bind (gives_pure _)
  unfold build
  refine (htext .template).bind_endsWith ?_
  refine (htext .question).bind_endsWith ?_
  refine (gives_decoded hquestions).bind_endsWith ?_
  refine (hfetch .classes).bind_endsWith ?_
  refine (gives_decoded hgeneration).bind_endsWith ?_
  exact (endsWith_decoded hclasses).bind _

/-- From the shortest files a load comes as far as to join the classes. If they cannot be joined, it
ends with that fault. -/
theorem load_least_of_refused_classes (h : ClassDefinition.all sideData = .error fault)
    (tree : FileTree) :
    (load (Archive.reader tree)
      (new (.ofFiles (Collection.ofGame GameFile.leastContent)) sideData)).1 = .error fault := by
  obtain ⟨generation, hgeneration⟩ :
      ∃ generation, ClassGeneration.decode (GameFile.leastContent .classes) = .ok generation :=
    ClassGeneration.exists_decode List.length_replicate.ge
  rw [Archive.ofFiles_of_nodup (Collection.nodup_ofGame _)]
  have hattempt : attempt (Archive.reader tree)
      (new (.memory (Collection.ofGame GameFile.leastContent)) sideData) = (.error fault, _) :=
    build_of_refused_classes (answer_ofGame GameFile.leastContent tree) rfl hgeneration h
  rw [load_of_unsettled rfl, hattempt]

end Classes

/-! ## Every load from memory -/

/-- The faults of loading are closed but for numbers that cannot be shown. For tables of the
executable that were accepted, which have an entry for every class, a load from any files in memory
gives a table, or it finds a file absent or malformed, a category unrecognized or an index out of
range; or a reference of the tables leads nowhere and has too many digits. The last happens only if
joining the classes ends so, never if every reference can be shown; and if joining them ends so,
there are files for which a load does. -/
theorem load_outcomes {levels : Nat} {document : Json.Value} {sideData : SideData}
    (h : SideData.ofValue levels document = .ok sideData) (files : List (Text × Bytes))
    (tree : FileTree) :
    sideData.Complete ∧
    ((∃ table, (load (Archive.reader tree) (new (.ofFiles files) sideData)).1 = .ok table) ∨
      Fails .resourceNotFound (load (Archive.reader tree) (new (.ofFiles files) sideData)).1 ∨
      Fails .malformedRecord (load (Archive.reader tree) (new (.ofFiles files) sideData)).1 ∨
      Fails .unrecognizedCategoryCode
        (load (Archive.reader tree) (new (.ofFiles files) sideData)).1 ∨
      Fails .indexOutOfRange (load (Archive.reader tree) (new (.ofFiles files) sideData)).1 ∨
      (load (Archive.reader tree) (new (.ofFiles files) sideData)).1 = .error .tooManyDigits ∧
        ClassDefinition.all sideData = .error .tooManyDigits) ∧
    ((∀ n ∈ ClassDefinition.references sideData, Text.shows n = true) →
      ClassDefinition.all sideData ≠ .error .tooManyDigits) ∧
    (ClassDefinition.all sideData = .error .tooManyDigits → ∃ least,
      (load (Archive.reader tree) (new (.ofFiles least) sideData)).1 = .error .tooManyDigits) := by
  refine ⟨SideData.complete_of_ofValue h, ?_, fun hshown hall => ?_,
    fun hall => ⟨_, load_least_of_refused_classes hall tree⟩⟩
  · obtain ⟨kept, hleaf, -⟩ := Archive.exists_leaf_ofFiles files
    let unshown (fault : Fault) : Prop :=
      fault = .tooManyDigits ∧ ClassDefinition.all sideData = .error .tooManyDigits
    have hclasses : FailsOnly (fun fault => fault.OfLoading ∨ unshown fault)
        (ClassDefinition.all sideData) := by
      intro fault hfault
      rcases ClassDefinition.all_unusable sideData fault hfault with hmalformed | rfl
      · exact Or.inl hmalformed.ofContent.ofLoading
      · exact Or.inr ⟨rfl, hfault⟩
    have hfaults := load_faults (.leaf hleaf) tree (fun _ => Or.inl) hclasses
    cases hload : (load (Archive.reader tree) (new (.ofFiles files) sideData)).1 with
    | ok table => exact Or.inl ⟨table, rfl⟩
    | error fault =>
      simp only [fails_error]
      rcases hfaults fault hload with hkind | ⟨rfl, hall⟩
      · rw [Fault.OfLoading] at hkind
        simp only [List.mem_cons, List.not_mem_nil, or_false] at hkind
        tauto
      · simp [hall]
  · cases ClassDefinition.all_malformed hshown _ hall

/-- A quiz whose only answer has no category ends the load with a fault of one of the families. -/
theorem load_of_uncategorized_answer :
    SideData.ofValue 1 SideData.permissive.toValue = .ok SideData.permissive ∧
      SideData.permissive.Complete ∧
      Fails .unrecognizedCategoryCode (load (Archive.reader (.empty []))
        (new (.ofFiles [(GameFile.template.name, []), (GameFile.question.name, [0x61])])
          SideData.permissive)).1 := by
  have haccepted : SideData.ofValue 1 SideData.permissive.toValue = .ok SideData.permissive := rfl
  obtain ⟨hcomplete, -⟩ := load_outcomes haccepted
    [(GameFile.template.name, []), (GameFile.question.name, [0x61])] (.empty [])
  refine ⟨haccepted, hcomplete, ?_⟩
  exact ⟨_, rfl, rfl⟩

/-- An armor code with too many digits is accepted, and it is looked at as soon as the class file
has been decoded. The load then ends with a fault of none of the families. -/
theorem load_of_long_armor_code :
    let sideData : SideData := { SideData.permissive with
      allowedArmors := Text.leastUnshown :: List.replicate 17 0 }
    SideData.ofValue 1 sideData.toValue = .ok sideData ∧
      Fails .badValue (load (Archive.reader (.empty []))
        (new (.ofFiles [(GameFile.template.name, []), (GameFile.question.name, []),
          (GameFile.classes.name, GameFile.leastContent .classes)]) sideData)).1 := by
  intro sideData
  have hload : (match (load (Archive.reader (.empty [])) (new (.ofFiles
      [(GameFile.template.name, []), (GameFile.question.name, []),
        (GameFile.classes.name, GameFile.leastContent .classes)]) sideData)).1 with
      | .error fault => decide (fault.kind = .badValue)
      | .ok _ => false) = true := by decide +kernel
  refine ⟨rfl, ?_⟩
  split at hload
  · rename_i fault hfault
    exact ⟨fault, hfault, of_decide_eq_true hload⟩
  · cases hload

end Loader

end ArenaData
