import ArenaData.Proofs.NameChunkFormat
import Mathlib.Data.Set.List

/-!
# Writing name chunks and reading them back

What the encoder writes is a run of blocks too, so both ways round are a matter of blocks. A
`Content` is what a block is written from: strings that fit its count and length. The block of a
content (`Content.block`) holds these strings and nothing else, so reading it back gives the same
number of strings, and the same strings unless one of them has a zero byte that cuts it. The content
of a block (`Block.content`) drops what the body has behind the counted strings, so writing it down
again gives the block unless there is such slack.
-/

namespace ArenaData.NameChunk

variable {source : Text}

/-! ## Contents -/

/-- Strings that fit into one chunk of a file. -/
structure Content where
  /-- The strings, without their zero bytes. -/
  strings : List Bytes
  /-- Their number fits the count. -/
  count_le : strings.length ≤ 0xFF
  /-- Their bytes fit the length, header and zero bytes included. -/
  length_le : 3 + (Bytes.ended strings).length ≤ 0xFFFF

namespace Content

/-- The chunk of a content. -/
def texts (c : Content) : NameChunk := c.strings.map Bytes.latin1

theorem toNat_count (c : Content) : (UInt8.ofNat c.strings.length).toNat = c.strings.length := by
  have h := c.count_le
  rw [UInt8.toNat_ofNat']
  omega

/-- The block that holds the strings and nothing behind them. -/
def block (c : Content) : Block where
  low := UInt8.ofNat (3 + (Bytes.ended c.strings).length)
  high := UInt8.ofNat ((3 + (Bytes.ended c.strings).length) / 256)
  count := UInt8.ofNat c.strings.length
  body := Bytes.ended c.strings
  length_eq := Bytes.littleEndian_ofUInt16 c.length_le
  count_le := by
    rw [c.toNat_count]
    exact Bytes.length_le_count_ended c.strings

theorem block_bytes (c : Content) :
    c.block.bytes = Bytes.ofUInt16 (3 + (Bytes.ended c.strings).length) ++
      UInt8.ofNat c.strings.length :: Bytes.ended c.strings := rfl

/-- As many strings are read back as were written. -/
theorem length_block_texts (c : Content) : c.block.texts.length = c.texts.length := by
  rw [Block.texts, texts, List.length_map, List.length_map, Block.length_strings]
  exact c.toNat_count

/-- The strings that are read back are those that were written, unless one has a zero byte. -/
theorem block_strings_eq_iff (c : Content) :
    c.block.strings = c.strings ↔ ∀ s ∈ c.strings, 0 ∉ s := by
  have hdef : c.block.strings = (Bytes.ended c.strings).strings.take c.strings.length := by
    rw [Block.strings]
    exact congrArg (List.take · _) c.toNat_count
  constructor
  · intro h s hs
    rw [← h, hdef] at hs
    exact Bytes.zero_notMem_of_mem_strings (List.mem_of_mem_take hs)
  · intro h
    have hread := Bytes.strings_ended_append h []
    rw [List.append_nil] at hread
    rw [hdef, hread, List.take_left]

theorem block_texts_eq_iff (c : Content) :
    c.block.texts = c.texts ↔ ∀ s ∈ c.texts, Char.ofNat 0 ∉ s := by
  rw [Block.texts, texts, (List.map_injective_iff.mpr Bytes.latin1_injective).eq_iff,
    block_strings_eq_iff, List.forall_mem_map]
  exact forall₂_congr fun s _ => not_congr Bytes.zero_mem_latin1.symm

end Content

/-! ## Encoding -/

/-- The chunk can be written: it has Latin-1 characters only, and count and length fit their
fields. -/
structure Writable (chunk : NameChunk) : Prop where
  /-- Every character has a byte. -/
  latin1 : ∀ s ∈ chunk, ∀ c ∈ s, c.toNat ≤ 0xFF
  /-- The count takes one byte. -/
  count : chunk.length ≤ 0xFF
  /-- The length takes two bytes. -/
  length : 3 + (chunk.map fun s => s.length + 1).sum ≤ 0xFFFF

theorem exists_map_latin1_iff {chunk : NameChunk} :
    (∃ l : List Bytes, l.map Bytes.latin1 = chunk) ↔ ∀ s ∈ chunk, ∀ c ∈ s, c.toNat ≤ 0xFF := by
  have h : chunk ∈ Set.range (List.map Bytes.latin1) ↔ ∀ s ∈ chunk, s ∈ Set.range Bytes.latin1 := by
    rw [Set.range_list_map]
    rfl
  refine h.trans (forall₂_congr fun s _ => ?_)
  exact Bytes.exists_latin1_iff

theorem length_ended_eq (l : List Bytes) :
    (Bytes.ended l).length = ((l.map Bytes.latin1).map fun s => s.length + 1).sum := by
  rw [Bytes.length_ended, List.map_map]
  refine congrArg List.sum (List.map_congr_left fun s _ => ?_)
  show s.length + 1 = (Bytes.latin1 s).length + 1
  rw [Bytes.latin1, List.length_map]

/-- Chunks that can be written are those that have a content. -/
theorem writable_iff {chunk : NameChunk} :
    Writable chunk ↔ ∃ c : Content, c.texts = chunk := by
  constructor
  · intro h
    obtain ⟨l, rfl⟩ := exists_map_latin1_iff.mpr h.latin1
    have hc := h.count
    have hl := h.length
    rw [List.length_map] at hc
    rw [← length_ended_eq] at hl
    exact ⟨⟨l, hc, hl⟩, rfl⟩
  · rintro ⟨c, rfl⟩
    refine ⟨exists_map_latin1_iff.mp ⟨c.strings, rfl⟩, ?_, ?_⟩
    · rw [Content.texts, List.length_map]
      exact c.count_le
    · rw [Content.texts, ← length_ended_eq]
      exact c.length_le

theorem ofString_eq_ok {t : Text} {b : Bytes} :
    Bytes.ofString t = .ok b ↔ ∃ s, Bytes.latin1 s = t ∧ s ++ [0] = b := by
  rw [Bytes.ofString, bind_eq_ok]
  refine exists_congr fun s => and_congr Bytes.ofLatin1_eq_ok ?_
  exact ⟨fun h => Except.ok.inj h, fun h => congrArg Except.ok h⟩

theorem mapM_ofString_eq_ok {chunk : NameChunk} {encoded : List Bytes} :
    chunk.mapM Bytes.ofString = .ok encoded ↔
      ∃ l : List Bytes, l.map Bytes.latin1 = chunk ∧ l.map (· ++ [0]) = encoded := by
  rw [mapM_eq_ok]
  constructor
  · intro h
    induction h with
    | nil => exact ⟨[], rfl, rfl⟩
    | cons hs _ ih =>
      obtain ⟨s, rfl, rfl⟩ := ofString_eq_ok.mp hs
      obtain ⟨l, rfl, rfl⟩ := ih
      exact ⟨s :: l, rfl, rfl⟩
  · rintro ⟨l, rfl, rfl⟩
    rw [List.forall₂_map_left_iff, List.forall₂_map_right_iff, List.forall₂_same]
    exact fun s _ => ofString_eq_ok.mpr ⟨s, rfl, rfl⟩

/-- The encoder writes the block of a content of the chunk, and fails if there is none. -/
theorem encodeChunk_eq_ok_iff {index : Nat} {chunk : NameChunk} {bytes : Bytes} :
    encodeChunk index chunk = .ok bytes ↔
      ∃ c : Content, c.texts = chunk ∧ c.block.bytes = bytes := by
  constructor
  · intro h
    rw [encodeChunk] at h
    split at h
    · cases h
    rename_i hcount
    obtain ⟨encoded, hmap, h⟩ := bind_eq_ok.mp h
    obtain ⟨l, rfl, rfl⟩ := mapM_ofString_eq_ok.mp hmap
    simp only [] at h
    split at h
    · cases h
    rename_i hlength
    rw [List.length_map, Nat.not_lt] at hcount
    rw [← List.flatMap_def, Nat.not_lt] at hlength
    refine ⟨⟨l, hcount, hlength⟩, rfl, ?_⟩
    rw [Content.block_bytes, ← Except.ok.inj h, ← List.flatMap_def, List.length_map]
    rfl
  · rintro ⟨c, rfl, rfl⟩
    have hmap := mapM_ofString_eq_ok.mpr ⟨c.strings, rfl, rfl⟩
    have hcount : ¬ maxStrings < c.texts.length := by
      rw [Content.texts, List.length_map]
      exact Nat.not_lt.mpr c.count_le
    have hlength : ¬ maxLength < headerSize + (Bytes.ended c.strings).length :=
      Nat.not_lt.mpr c.length_le
    rw [encodeChunk, if_neg hcount]
    refine bind_eq_ok.mpr ⟨_, hmap, ?_⟩
    rw [← List.flatMap_def, Content.block_bytes, Content.texts, List.length_map]
    exact if_neg hlength

/-- The encoder writes blocks of contents of the chunks, one after the other. -/
theorem encodeFrom_eq_ok_iff {index : Nat} {chunks : List NameChunk} {data : Bytes} :
    encodeFrom index chunks = .ok data ↔
      ∃ contents : List Content, contents.map Content.texts = chunks ∧
        (contents.map Content.block).flatMap Block.bytes = data := by
  induction chunks generalizing index data with
  | nil =>
    constructor
    · intro h
      exact ⟨[], rfl, Except.ok.inj h⟩
    · rintro ⟨contents, hc, rfl⟩
      rw [List.map_eq_nil_iff.mp hc]
      rfl
  | cons chunk chunks ih =>
    rw [encodeFrom, bind_eq_ok]
    constructor
    · rintro ⟨bytes, hb, h⟩
      obtain ⟨others, ho, h⟩ := bind_eq_ok.mp h
      obtain ⟨c, rfl, rfl⟩ := encodeChunk_eq_ok_iff.mp hb
      obtain ⟨contents, rfl, rfl⟩ := ih.mp ho
      exact ⟨c :: contents, rfl, Except.ok.inj h⟩
    · rintro ⟨contents, hc, rfl⟩
      obtain ⟨c, contents, rfl, rfl, rfl⟩ := List.map_eq_cons_iff.mp hc
      exact ⟨_, encodeChunk_eq_ok_iff.mpr ⟨c, rfl, rfl⟩,
        bind_eq_ok.mpr ⟨_, ih.mpr ⟨contents, rfl, rfl⟩, rfl⟩⟩

theorem encode_eq_ok_iff {chunks : List NameChunk} {data : Bytes} :
    encode chunks = .ok data ↔
      ∃ contents : List Content, contents.map Content.texts = chunks ∧
        (contents.map Content.block).flatMap Block.bytes = data :=
  encodeFrom_eq_ok_iff

theorem exists_encode_iff {chunks : List NameChunk} :
    (∃ data, encode chunks = .ok data) ↔ ∀ chunk ∈ chunks, Writable chunk := by
  constructor
  · rintro ⟨data, h⟩ chunk hc
    obtain ⟨contents, rfl, -⟩ := encode_eq_ok_iff.mp h
    obtain ⟨c, -, rfl⟩ := List.mem_map.mp hc
    exact writable_iff.mpr ⟨c, rfl⟩
  · intro h
    have hrange : chunks ∈ Set.range (List.map Content.texts) := by
      rw [Set.range_list_map]
      exact fun chunk hc => writable_iff.mp (h chunk hc)
    obtain ⟨contents, rfl⟩ := hrange
    exact ⟨_, encode_eq_ok_iff.mpr ⟨contents, rfl, rfl⟩⟩

/-- Writing chunks and reading them back: they can be written iff characters, counts and lengths
have room in the format; then the file is read, with as many strings in each chunk as there were,
and with the same strings iff none of them has a zero character, which would end it early. -/
theorem decode_encode_chunks (chunks : List NameChunk) :
    ((∃ data, encode chunks = .ok data) ↔ ∀ chunk ∈ chunks, Writable chunk) ∧
    ∀ data source, encode chunks = .ok data →
      ∃ back, decode data source = .ok back ∧
        back.map List.length = chunks.map List.length ∧
        (back = chunks ↔ ∀ chunk ∈ chunks, ∀ s ∈ chunk, Char.ofNat 0 ∉ s) := by
  refine ⟨exists_encode_iff, fun data source h => ?_⟩
  obtain ⟨contents, rfl, rfl⟩ := encode_eq_ok_iff.mp h
  refine ⟨_, decode_blocks _, ?_, ?_⟩
  · rw [List.map_map, List.map_map, List.map_map]
    exact List.map_congr_left fun c _ => c.length_block_texts
  · rw [List.map_map, List.map_inj_left, List.forall_mem_map]
    exact forall₂_congr fun c _ => c.block_texts_eq_iff

/-- A string with a zero character is cut there, and its rest takes the place of the next string. -/
theorem decode_encode_of_zero_inside :
    encode [[['a', Char.ofNat 0, 'b'], ['c']], []] =
        .ok [9, 0, 2, 0x61, 0, 0x62, 0, 0x63, 0, 3, 0, 0] ∧
      ∃ back, decode [9, 0, 2, 0x61, 0, 0x62, 0, 0x63, 0, 3, 0, 0] fileName = .ok back ∧
        back.map List.length = [2, 0] ∧ back ≠ [[['a', Char.ofNat 0, 'b'], ['c']], []] := by
  have henc : encode [[['a', Char.ofNat 0, 'b'], ['c']], []] =
      .ok [9, 0, 2, 0x61, 0, 0x62, 0, 0x63, 0, 3, 0, 0] := rfl
  obtain ⟨back, hdec, hlen, heq⟩ := (decode_encode_chunks _).2 _ fileName henc
  exact ⟨henc, back, hdec, hlen, fun h => absurd (heq.mp h) (by decide)⟩

/-! ## Decoding and encoding again -/

namespace Block

/-- The counted strings of a block are the front of its body. -/
theorem exists_slack (b : Block) : ∃ slack, Bytes.ended b.strings ++ slack = b.body := by
  obtain ⟨rest, -, h⟩ := Bytes.exists_ended_strings_append b.body
  refine ⟨Bytes.ended (b.body.strings.drop b.count.toNat) ++ rest, ?_⟩
  rw [strings, ← List.append_assoc, ← Bytes.ended_append, List.take_append_drop, h]

theorem length_ended_strings_le (b : Block) : (Bytes.ended b.strings).length ≤ b.body.length := by
  obtain ⟨slack, h⟩ := b.exists_slack
  rw [← h, List.length_append]
  omega

/-- The counted strings of a block, without what follows them. -/
def content (b : Block) : Content where
  strings := b.strings
  count_le := by
    rw [b.length_strings]
    exact Nat.le_of_lt_succ b.count.toNat_lt
  length_le := by
    have hb := b.length_ended_strings_le
    have hlen := b.length_eq
    have hlow := b.low.toNat_lt
    have hhigh := b.high.toNat_lt
    omega

/-- The block that holds the counted strings and nothing behind them. -/
def trimmed (b : Block) : Block := b.content.block

theorem trimmed_texts (b : Block) : b.trimmed.texts = b.texts := by
  have hzero : ∀ s ∈ b.content.strings, 0 ∉ s := fun s hs =>
    Bytes.zero_notMem_of_mem_strings (List.mem_of_mem_take hs)
  rw [trimmed, texts, b.content.block_strings_eq_iff.mpr hzero]
  rfl

theorem length_trimmed_bytes (b : Block) :
    b.trimmed.bytes.length = 3 + (Bytes.ended b.strings).length := by
  rw [length_bytes]
  rfl

theorem length_trimmed_le (b : Block) : b.trimmed.bytes.length ≤ b.bytes.length := by
  rw [length_trimmed_bytes, length_bytes]
  exact Nat.add_le_add_left b.length_ended_strings_le 3

/-- The length of the block is that of its header and its counted strings. -/
def Filled (b : Block) : Prop :=
  b.low.toNat + 256 * b.high.toNat = 3 + (b.texts.map fun s => s.length + 1).sum

theorem filled_iff_length_eq (b : Block) : b.Filled ↔ b.trimmed.bytes.length = b.bytes.length := by
  rw [Filled, b.length_eq, texts, ← length_ended_eq, length_trimmed_bytes, length_bytes]
  exact eq_comm

theorem Filled.trimmed_bytes {b : Block} (h : b.Filled) : b.trimmed.bytes = b.bytes := by
  have hlen := b.filled_iff_length_eq.mp h
  rw [length_trimmed_bytes, length_bytes] at hlen
  have hbody : Bytes.ended b.strings = b.body :=
    List.IsPrefix.eq_of_length b.exists_slack (Nat.add_left_cancel hlen)
  have hcount : UInt8.ofNat b.strings.length = b.count := by
    rw [b.length_strings, UInt8.ofNat_toNat]
  rw [trimmed, Content.block_bytes]
  show Bytes.ofUInt16 (3 + (Bytes.ended b.strings).length) ++
    UInt8.ofNat b.strings.length :: Bytes.ended b.strings = b.bytes
  rw [hbody, hcount, ← b.length_eq, Bytes.ofUInt16_pair]
  rfl

end Block

theorem length_trimmed_blocks_le (blocks : List Block) :
    ((blocks.map Block.trimmed).flatMap Block.bytes).length ≤
      (blocks.flatMap Block.bytes).length := by
  induction blocks with
  | nil => exact Nat.le_refl _
  | cons b blocks ih =>
    rw [List.map_cons, List.flatMap_cons, List.flatMap_cons, List.length_append, List.length_append]
    exact Nat.add_le_add b.length_trimmed_le ih

/-- No block of a run gets longer, so if a run is the same after trimming, each of its blocks was
filled. -/
theorem trimmed_blocks_eq_iff (blocks : List Block) :
    (blocks.map Block.trimmed).flatMap Block.bytes = blocks.flatMap Block.bytes ↔
      ∀ b ∈ blocks, b.Filled := by
  induction blocks with
  | nil => simp
  | cons b blocks ih =>
    rw [List.map_cons, List.flatMap_cons, List.flatMap_cons, List.forall_mem_cons]
    constructor
    · intro h
      have hlen := congrArg List.length h
      rw [List.length_append, List.length_append] at hlen
      have hb := b.length_trimmed_le
      have hrest := length_trimmed_blocks_le blocks
      obtain ⟨-, htail⟩ := List.append_inj h (by omega)
      exact ⟨b.filled_iff_length_eq.mpr (by omega), ih.mp htail⟩
    · rintro ⟨hb, hrest⟩
      rw [hb.trimmed_bytes, ih.mpr hrest]

/-- The chunks of a run of blocks are encoded as the run of the trimmed blocks. -/
theorem encode_blocks (blocks : List Block) :
    encode (blocks.map Block.texts) = .ok ((blocks.map Block.trimmed).flatMap Block.bytes) := by
  refine encode_eq_ok_iff.mpr ⟨blocks.map Block.content, ?_, ?_⟩
  · rw [List.map_map]
    rfl
  · rw [List.map_map]
    rfl

/-- Reading a file and writing its chunks again: it never fails and reads as before, but it gives
the file back exactly when the length of every block is that of its header and its counted strings.
Whatever a chunk has behind them is lost. -/
theorem encode_decode_chunks {data : Bytes} {source : Text} {chunks : List NameChunk}
    (h : decode data source = .ok chunks) :
    (∃ blocks : List Block, blocks.flatMap Block.bytes = data) ∧
      ∃ out, encode chunks = .ok out ∧ decode out source = .ok chunks ∧
        ∀ blocks : List Block, blocks.flatMap Block.bytes = data →
          (out = data ↔ ∀ b ∈ blocks, b.Filled) := by
  obtain ⟨blocks, rfl, rfl⟩ := decode_eq_ok_iff.mp h
  refine ⟨⟨blocks, rfl⟩, _, encode_blocks blocks, ?_, ?_⟩
  · rw [decode_blocks, List.map_map]
    exact congrArg Except.ok (List.map_congr_left fun b _ => b.trimmed_texts)
  · intro others hothers
    -- The same bytes have the same chunks, so both runs are written alike.
    have htexts : others.map Block.texts = blocks.map Block.texts := by
      rw [← hothers, decode_blocks] at h
      exact Except.ok.inj h
    have hout : (blocks.map Block.trimmed).flatMap Block.bytes =
        (others.map Block.trimmed).flatMap Block.bytes := by
      have henc := encode_blocks others
      rw [htexts, encode_blocks] at henc
      exact Except.ok.inj henc
    rw [hout, ← hothers]
    exact trimmed_blocks_eq_iff others

/-- Without slack a file comes back, here with an empty string and an empty chunk. -/
theorem encode_decode_of_filled :
    decode [6, 0, 2, 0x61, 0, 0, 3, 0, 0] fileName = .ok [[['a'], []], []] ∧
      encode [[['a'], []], []] = .ok [6, 0, 2, 0x61, 0, 0, 3, 0, 0] := by
  let blocks : List Block :=
    [⟨6, 0, 2, [0x61, 0, 0], by decide, by decide⟩, ⟨3, 0, 0, [], by decide, by decide⟩]
  have hdec : decode [6, 0, 2, 0x61, 0, 0, 3, 0, 0] fileName = .ok [[['a'], []], []] :=
    decode_eq_ok_iff.mpr ⟨blocks, rfl, by decide⟩
  obtain ⟨-, out, henc, -, hout⟩ := encode_decode_chunks hdec
  have hfilled : ∀ b ∈ blocks, b.Filled := by
    unfold Block.Filled
    decide
  exact ⟨hdec, (hout blocks rfl).mpr hfilled ▸ henc⟩

/-- A chunk with a byte behind its only string comes back without that byte. -/
theorem encode_decode_drops_slack :
    decode [6, 0, 1, 0x61, 0, 0x7A] fileName = .ok [[['a']]] ∧
      encode [[['a']]] = .ok [5, 0, 1, 0x61, 0] ∧
      encode [[['a']]] ≠ .ok [6, 0, 1, 0x61, 0, 0x7A] := by
  have henc : encode [[['a']]] = .ok [5, 0, 1, 0x61, 0] := rfl
  refine ⟨?_, henc, ?_⟩
  · exact decode_eq_ok_iff.mpr
      ⟨[⟨6, 0, 1, [0x61, 0, 0x7A], by decide, by decide⟩], rfl, by decide⟩
  · rw [henc]
    exact fun h => absurd (Except.ok.inj h) (by decide)

end ArenaData.NameChunk
