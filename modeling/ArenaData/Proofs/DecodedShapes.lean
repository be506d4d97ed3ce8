import ArenaData.Proofs.Decoders
import ArenaData.Proofs.Keyed
import ArenaData.Template
import Mathlib.Data.List.DropRight

/-!
# What decoders give

Of each decoder, what is known of its result once it has accepted a file, whatever the file holds:
how many entries there are, what range they lie in, which characters do not occur in their texts.
A decoder of a fixed layout gives all of its entries or fails, so none of these facts has a bound on
the length of the file.

Talk in taverns and talk in shops differ only in what five lines in a row are kept as, and both are
blocks of dialogue in the sense of `IsDialogue`.
-/

namespace ArenaData

/-! ## Characters that end strings -/

/-- No zero character occurs in the text. -/
def Text.ZeroFree (t : Text) : Prop := Char.ofNat 0 ∉ t

theorem Bytes.zeroFree_latin1 {b : Bytes} (h : 0 ∉ b) : Text.ZeroFree (latin1 b) :=
  fun hmem => h (zero_mem_latin1.mp hmem)

theorem Bytes.zeroFree_of_mem_strings {data : Bytes} {count : Nat} {text : Text}
    (h : text ∈ (data.strings.take count).map latin1) : text.ZeroFree := by
  obtain ⟨string, hstring, rfl⟩ := List.mem_map.mp h
  exact zeroFree_latin1 (zero_notMem_of_mem_strings (List.mem_of_mem_take hstring))

theorem Bytes.zero_notMem_untilZero (b : Bytes) : 0 ∉ untilZero b := by
  intro h
  have hnonzero := List.mem_takeWhile_imp h
  simp at hnonzero

namespace StringBlock

variable {source : Text} {count offset : Nat} {data : Bytes} {texts : List Text}

/-- Every string that is read uses up a zero byte. -/
theorem le_count_of_readFrom (h : readFrom source count offset data = .ok texts) :
    count ≤ data.count 0 := by
  induction data using Bytes.string_induction generalizing count offset texts with
  | unended b hb =>
    cases count with
    | zero => exact Nat.zero_le _
    | succ count =>
      by_cases hne : b = []
      · rw [hne, readFrom] at h
        cases h
      · rw [readFrom.eq_3 _ _ _ _ hne, Bytes.span_of_zero_notMem hb] at h
        cases h
  | string s b hs ih =>
    cases count with
    | zero => exact Nat.zero_le _
    | succ count =>
      have hne : s ++ 0 :: b ≠ [] := by simp
      rw [readFrom.eq_3 _ _ _ _ hne, Bytes.span_append_zero hs] at h
      obtain ⟨others, hothers, -⟩ := bind_eq_ok.mp h
      have hcount : count ≤ b.count 0 := ih hothers
      rw [List.count_append, List.count_cons_self]
      omega

/-- A block is read iff it has a zero byte for each string that is asked for. -/
theorem readFrom_eq_ok_iff : readFrom source count offset data = .ok texts ↔
    count ≤ data.count 0 ∧ (data.strings.take count).map Bytes.latin1 = texts := by
  constructor
  · intro h
    have hcount := le_count_of_readFrom h
    rw [readFrom_of_le offset hcount, Except.ok.injEq] at h
    exact ⟨hcount, h⟩
  · rintro ⟨hcount, rfl⟩
    exact readFrom_of_le offset hcount

theorem length_of_readFrom (h : readFrom source count offset data = .ok texts) :
    texts.length = count := by
  obtain ⟨hcount, rfl⟩ := readFrom_eq_ok_iff.mp h
  rw [List.length_map, List.length_take, Bytes.length_strings]
  exact Nat.min_eq_left hcount

theorem zeroFree_of_readFrom (h : readFrom source count offset data = .ok texts) :
    ∀ text ∈ texts, text.ZeroFree := by
  obtain ⟨-, rfl⟩ := readFrom_eq_ok_iff.mp h
  exact fun text htext => Bytes.zeroFree_of_mem_strings htext

end StringBlock

theorem NameChunk.zeroFree_of_decode {data : Bytes} {source : Text} {chunks : List NameChunk}
    (h : decode data source = .ok chunks) : ∀ chunk ∈ chunks, ∀ text ∈ chunk, text.ZeroFree := by
  obtain ⟨blocks, -, rfl⟩ := decode_eq_ok_iff.mp h
  intro chunk hchunk text htext
  obtain ⟨block, -, rfl⟩ := List.mem_map.mp hchunk
  exact Bytes.zeroFree_of_mem_strings htext

/-! ## Dialogue -/

/-- A list of the right length is cut into triples without loss. -/
theorem Triple.flatMap_toList_ofList {α : Type} {count : Nat} {items : List α}
    (h : items.length = count * 3) :
    (ofList items).flatMap toList = items ∧ (ofList items).length = count := by
  induction count generalizing items with
  | zero =>
    obtain rfl := List.length_eq_zero_iff.mp (h.trans (Nat.zero_mul 3))
    exact ⟨rfl, rfl⟩
  | succ count ih =>
    match items, h with
    | [], h | [_], h | [_, _], h =>
      simp only [List.length_cons, List.length_nil] at h
      omega
    | a :: b :: c :: rest, h =>
      have hrest : rest.length = count * 3 := by
        simp only [List.length_cons] at h
        omega
      obtain ⟨hitems, hlength⟩ := ih hrest
      refine ⟨?_, ?_⟩
      · rw [ofList, List.flatMap_cons, hitems]
        rfl
      · rw [ofList, List.length_cons, hlength]

/-- A list of the right length is cut into groups of five without loss. -/
theorem TradeTalk.flatten_ofLines {count : Nat} {lines : List Variants}
    (h : lines.length = count * 5) :
    (ofLines lines).flatten = lines ∧
      (ofLines lines).map List.length = List.replicate count 5 := by
  induction count generalizing lines with
  | zero =>
    obtain rfl := List.length_eq_zero_iff.mp (h.trans (Nat.zero_mul 5))
    exact ⟨rfl, rfl⟩
  | succ count ih =>
    match lines, h with
    | [], h | [_], h | [_, _], h | [_, _, _], h | [_, _, _, _], h =>
      simp only [List.length_cons, List.length_nil] at h
      omega
    | a :: b :: c :: d :: e :: rest, h =>
      have hrest : rest.length = count * 5 := by
        simp only [List.length_cons] at h
        omega
      obtain ⟨hlines, hlengths⟩ := ih hrest
      refine ⟨?_, ?_⟩
      · rw [ofLines, List.flatten_cons, hlines]
        rfl
      · rw [ofLines, List.map_cons, hlengths]
        rfl

/-- Exchanges and functions are the same five lines, kept in a record or in a list. -/
theorem ArtifactTalk.map_toList_ofList (lines : List Variants) :
    (ofList lines).map toList = TradeTalk.ofLines lines := by
  fun_induction ofList lines with
  | case1 a b c d e rest ih =>
    rw [List.map_cons, ih, TradeTalk.ofLines]
    rfl
  | case2 lines hshort =>
    match lines, hshort with
    | [], _ | [_], _ | [_, _], _ | [_, _, _], _ | [_, _, _, _], _ => rfl
    | a :: b :: c :: d :: e :: rest, hshort => exact (hshort a b c d e rest rfl).elim

/-- The talk has so many parts, each of five lines with three variants, and no string in it holds a
zero character. -/
structure IsDialogue (count : Nat) (talk : List (List Variants)) : Prop where
  /-- The numbers of lines and of their variants. -/
  shape : (talk.map fun lines => lines.map fun variants => variants.toList.length) =
    List.replicate count (List.replicate 5 3)
  /-- The strings. -/
  zeroFree : ∀ lines ∈ talk, ∀ variants ∈ lines, ∀ text ∈ variants.toList, text.ZeroFree

theorem StringBlock.isDialogue_of_read {source : Text} {count : Nat} {data : Bytes}
    {texts : List Text} (h : read source (count * 5 * 3) data = .ok texts) :
    IsDialogue count (TradeTalk.ofLines (Triple.ofList texts)) := by
  obtain ⟨htexts, hlines⟩ := Triple.flatMap_toList_ofList (length_of_readFrom h)
  obtain ⟨hflat, hlengths⟩ := TradeTalk.flatten_ofLines hlines
  constructor
  · have hthree (lines : List Variants) :
        (lines.map fun variants => variants.toList.length) = List.replicate lines.length 3 := by
      rw [List.eq_replicate_iff]
      refine ⟨List.length_map _, fun n hn => ?_⟩
      obtain ⟨variants, -, rfl⟩ := List.mem_map.mp hn
      rfl
    have hfive : List.replicate count (List.replicate 5 3) =
        (List.replicate count 5).map fun n => List.replicate n 3 := by rw [List.map_replicate]
    simp only [hthree]
    rw [hfive, ← hlengths, List.map_map]
    rfl
  · intro lines hmem variants hvariants text htext
    have hline : variants ∈ Triple.ofList texts :=
      hflat ▸ List.mem_flatten.mpr ⟨lines, hmem, hvariants⟩
    have hstring : text ∈ texts := htexts ▸ List.mem_flatMap.mpr ⟨variants, hline, htext⟩
    exact zeroFree_of_readFrom h text hstring

theorem TradeTalk.isDialogue_of_decode {data : Bytes} {source : Text} {talk : TradeTalk}
    (h : decode data source = .ok talk) : IsDialogue functionCount talk := by
  obtain ⟨texts, htexts, h⟩ := bind_eq_ok.mp h
  obtain rfl := Except.ok.inj h
  exact StringBlock.isDialogue_of_read htexts

theorem ArtifactTalk.isDialogue_of_decode {data : Bytes} {source : Text}
    {talk : List ArtifactTalk} (h : decode data source = .ok talk) :
    IsDialogue count (talk.map toList) := by
  obtain ⟨texts, htexts, h⟩ := bind_eq_ok.mp h
  obtain rfl := Except.ok.inj h
  rw [map_toList_ofList]
  exact StringBlock.isDialogue_of_read htexts

/-! ## Classes -/

theorem ClassGeneration.shape_of_decode {data : Bytes} {generation : ClassGeneration}
    (h : decode data = .ok generation) :
    generation.classes.length = classCount ∧ (∀ flags ∈ generation.classes, flags.id < 32) ∧
      generation.choices.length = choiceCount := by
  rw [decode] at h
  split at h
  · cases h
  rename_i hlong
  obtain rfl := Except.ok.inj h
  have hsize : fileSize = classCount + 3 * choiceCount := rfl
  refine ⟨?_, ?_, ?_⟩
  · rw [List.length_map, List.length_take]
    omega
  · intro flags hflags
    obtain ⟨byte, -, rfl⟩ := List.mem_map.mp hflags
    exact ClassFlags.id_ofInt_lt _
  · refine (Triple.flatMap_toList_ofList ?_).2
    rw [List.length_drop, List.length_take]
    omega

theorem ClassDefinition.length_of_all {d : SideData} {classes : List ClassDefinition}
    (h : all d = .ok classes) : classes.length = SideData.classCount := by
  rw [← (mapM_eq_ok.mp h).length_eq, List.length_range]

/-! ## Spells -/

/-- The number of bytes for the name of a spell. -/
def Spell.nameSize : Nat := Spell.recordSize - Spell.nameOffset

theorem Spell.shape_of_decodeAll {data : Bytes} {spells : List Spell}
    (h : decodeAll data = .ok spells) :
    spells.length = count ∧
      ∀ s ∈ spells, s.params.length = paramCount ∧ s.nameBytes.length = nameSize := by
  rw [decodeAll] at h
  split at h
  · cases h
  rename_i hlong
  obtain rfl := Except.ok.inj h
  refine ⟨by rw [List.length_map, List.length_range], ?_⟩
  intro s hs
  obtain ⟨i, hi, rfl⟩ := List.mem_map.mp hs
  have hi : i < count := List.mem_range.mp hi
  refine ⟨by rw [ofRecord, List.length_map, List.length_range], ?_⟩
  have hrecord : recordSize * (i + 1) ≤ recordSize * count := Nat.mul_le_mul_left _ hi
  rw [Nat.mul_succ, Nat.mul_comm recordSize count] at hrecord
  rw [ofRecord, List.length_drop, List.length_take, List.length_drop, nameSize]
  omega

theorem Spell.zeroFree_name (s : Spell) : s.name.ZeroFree :=
  Bytes.zeroFree_latin1 (Bytes.zero_notMem_untilZero _)

theorem SpellMaker.length_of_parse {t : Text} {count : Nat} {descriptions : List Text}
    (h : parse t count = .ok descriptions) : descriptions.length = count := by
  obtain ⟨slots, -, h⟩ := bind_eq_ok.mp h
  obtain rfl := Except.ok.inj h
  rw [List.length_map, List.length_range]

/-! ## The world map -/

/-- The masks have the regions in their order, and the place alone says which one is the exit. -/
theorem Mask.map_of_decodeFrom {data : Bytes} {source : Text} {offset : Int}
    {regions : List (Rect × Nat)} {masks : List Mask}
    (h : decodeFrom data source offset regions = .ok masks) :
    (masks.map fun m => (m.rect, m.isExit)) = regions.map fun r => (r.1, r.2 == exitIndex) := by
  induction regions generalizing offset masks with
  | nil =>
    obtain rfl := Except.ok.inj h
    rfl
  | cons region regions ih =>
    obtain ⟨bytes, -, h⟩ := bind_eq_ok.mp h
    obtain ⟨mask, hmask, h⟩ := bind_eq_ok.mp h
    obtain ⟨others, hothers, h⟩ := bind_eq_ok.mp h
    obtain rfl := Except.ok.inj h
    rw [ofData] at hmask
    split at hmask
    · obtain rfl := Except.ok.inj hmask
      rw [List.map_cons, List.map_cons, ih hothers]
    · cases hmask

theorem Mask.rects_of_decodeAll {data : Bytes} {source : Text} {masks : List Mask}
    (h : decodeAll data source = .ok masks) : masks.map Mask.rect = regions := by
  have hmap := congrArg (List.map Prod.fst) (map_of_decodeFrom h)
  rw [List.map_map, List.map_map] at hmap
  exact hmap

theorem Mask.isExit_of_decodeAll {data : Bytes} {source : Text} {masks : List Mask}
    (h : decodeAll data source = .ok masks) {i : Nat} {m : Mask} (hm : masks[i]? = some m) :
    m.isExit = true ↔ i = exitIndex := by
  have hget := congrArg (·[i]?) (map_of_decodeFrom h)
  simp only [List.getElem?_map, List.getElem?_zipIdx, hm, Option.map_some, Option.map_map,
    Nat.zero_add] at hget
  obtain ⟨rect, -, hpair⟩ := Option.map_eq_some_iff.mp hget.symm
  obtain ⟨-, hexit⟩ := Prod.mk.inj hpair
  rw [← hexit]
  exact beq_iff_eq

/-! ## Names -/

/-- The rule takes fragments from the chunk. -/
inductive NameRule.Uses : NameRule → Int → Prop where
  /-- It always adds one. -/
  | fragment (chunk : Int) : Uses (.fragment chunk) chunk
  /-- It may add one. -/
  | maybeFragment (chunk chance : Int) : Uses (.maybeFragment chunk chance) chunk
  /-- It may add one and a text behind it. -/
  | maybeFragmentThen (chunk : Int) (text : Text) (chance : Int) :
      Uses (.maybeFragmentThen chunk text chance) chunk

theorem NameRule.chunk?_of_uses {rule : NameRule} {index : Int} (h : rule.Uses index) :
    rule.chunk? = .ok (some index) := by
  cases h with
  | fragment => rfl
  | maybeFragment => rfl
  | maybeFragmentThen => rfl

/-- Every chunk that a rule of the table uses is mentioned. -/
theorem NameRule.mem_mentioned {rules : List (List NameRule)} {chunks : List Int}
    (h : mentioned rules = .ok chunks) {sequence : List NameRule} (hsequence : sequence ∈ rules)
    {rule : NameRule} (hrule : rule ∈ sequence) {index : Int} (huses : rule.Uses index) :
    index ∈ chunks := by
  obtain ⟨found, hfound, h⟩ := bind_eq_ok.mp h
  obtain rfl := Except.ok.inj h
  have hmem : rule ∈ rules.flatten := List.mem_flatten.mpr ⟨sequence, hsequence, hrule⟩
  obtain ⟨i, hi, hget⟩ := List.getElem_of_mem hmem
  have hlength := (mapM_eq_ok.mp hfound).length_eq
  have hchunk : rules.flatten[i].chunk? = .ok found[i] :=
    List.Forall₂.get (mapM_eq_ok.mp hfound) hi (hlength ▸ hi)
  rw [hget, chunk?_of_uses huses] at hchunk
  exact List.mem_filterMap.mpr ⟨found[i], List.getElem_mem _, (Except.ok.inj hchunk).symm⟩

/-- A generator has every chunk that its rules use. -/
theorem NameGenerator.index_lt_of_uses (g : NameGenerator) {sequence : List NameRule}
    (hsequence : sequence ∈ g.rules) {rule : NameRule} (hrule : rule ∈ sequence) {index : Int}
    (huses : rule.Uses index) : 0 ≤ index ∧ index < g.chunks.length := by
  obtain ⟨mentioned, hmentioned, hchunks⟩ := g.sound
  exact hchunks index (NameRule.mem_mentioned hmentioned hsequence hrule huses)

theorem NameGenerator.eq_of_build {chunks : List NameChunk} {rules : RuleTable}
    {g : NameGenerator} (h : build chunks rules = .ok g) : g.chunks = chunks ∧ g.rules = rules := by
  unfold build at h
  split at h
  · cases h
  · split at h
    · cases h
    · obtain rfl := Except.ok.inj h
      exact ⟨rfl, rfl⟩

end ArenaData
