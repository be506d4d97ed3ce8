import ArenaData.NameChunk
import ArenaData.Proofs.Bytes
import ArenaData.Proofs.Outcome

/-!
# The format of name chunks

A file of name chunks is a run of blocks. A `Block` says what a chunk looks like in a file and
carries the proof that its length and its count are in order; the decoder accepts exactly the bytes
of runs of blocks. The proof goes by what the decoder does at the front of its bytes: it takes a
block off (`decodeFrom_block`), or no block stands there and it fails (`decodeFrom_stuck`). Every
buffer is a run of blocks followed by nothing or by bytes without a block (`exists_blocks`).
-/

namespace ArenaData.NameChunk

variable {source : Text}

/-! ## Blocks -/

/-- A chunk as it stands in a file. -/
structure Block where
  /-- The low byte of the length. -/
  low : UInt8
  /-- The high byte of the length. -/
  high : UInt8
  /-- The number of strings. -/
  count : UInt8
  /-- What stands behind the header: the strings, and whatever follows them. -/
  body : Bytes
  /-- The length is that of the whole block, its header of three bytes included. -/
  length_eq : low.toNat + 256 * high.toNat = 3 + body.length
  /-- The body has the strings that are counted. -/
  count_le : count.toNat ≤ body.count 0

namespace Block

/-- The bytes of a block. -/
def bytes (b : Block) : Bytes := b.low :: b.high :: b.count :: b.body

/-- The strings that are counted, without their zero bytes. -/
def strings (b : Block) : List Bytes := b.body.strings.take b.count.toNat

/-- The chunk that a block stands for. -/
def texts (b : Block) : NameChunk := b.strings.map Bytes.latin1

@[simp]
theorem length_bytes (b : Block) : b.bytes.length = 3 + b.body.length := by
  simp only [bytes, List.length_cons]
  omega

theorem length_strings (b : Block) : b.strings.length = b.count.toNat := by
  rw [strings, List.length_take, Bytes.length_strings]
  exact Nat.min_eq_left b.count_le

end Block

/-! ## The strings of a body -/

/-- A body with enough zero bytes has the strings that are asked for. -/
theorem strings_of_le {count : Nat} (offset : Nat) {body : Bytes} (h : count ≤ body.count 0) :
    strings source count offset body = .ok ((body.strings.take count).map Bytes.latin1) := by
  induction body using Bytes.string_induction generalizing count offset with
  | unended b hb =>
    rw [List.count_eq_zero_of_not_mem hb] at h
    obtain rfl := Nat.le_zero.mp h
    rfl
  | string s b hs ih =>
    cases count with
    | zero => rfl
    | succ count =>
      rw [List.count_append, List.count_cons_self, List.count_eq_zero_of_not_mem hs] at h
      rw [strings, Bytes.span_append_zero hs]
      simp only [ih (offset + s.length + 1) (by omega : count ≤ b.count 0), ok_bind,
        Bytes.strings_append_zero hs]
      rfl

theorem strings_of_lt {count : Nat} (offset : Nat) {body : Bytes} (h : body.count 0 < count) :
    Fails .malformedRecord (strings source count offset body) := by
  induction body using Bytes.string_induction generalizing count offset with
  | unended b hb =>
    obtain ⟨count, rfl⟩ := Nat.exists_eq_succ_of_ne_zero (Nat.ne_zero_of_lt h)
    rw [strings, Bytes.span_of_zero_notMem hb]
    exact fails_error.mpr rfl
  | string s b hs ih =>
    obtain ⟨count, rfl⟩ := Nat.exists_eq_succ_of_ne_zero (Nat.ne_zero_of_lt h)
    rw [List.count_append, List.count_cons_self, List.count_eq_zero_of_not_mem hs] at h
    rw [strings, Bytes.span_append_zero hs]
    exact (ih (offset + s.length + 1) (by omega : b.count 0 < count)).bind _

/-! ## One step of the decoder -/

/-- Where a block stands, the decoder takes it off. -/
theorem decodeFrom_block {size index offset : Nat} (b : Block) {rest : Bytes}
    (h : offset + b.bytes.length ≤ size) :
    decodeFrom source size index offset (b.bytes ++ rest) =
      decodeFrom source size (index + 1) (offset + b.bytes.length) rest >>=
        fun others => .ok (b.texts :: others) := by
  have hlen : Bytes.littleEndian [b.low, b.high] = 3 + b.body.length := b.length_eq
  have hsub : 3 + b.body.length - headerSize = b.body.length := by
    rw [headerSize]; omega
  rw [Block.length_bytes] at h ⊢
  rw [Block.bytes, List.cons_append, List.cons_append, List.cons_append, decodeFrom]
  simp only [hlen]
  rw [if_neg (by rw [headerSize]; omega), if_neg (by omega), hsub, List.take_left, List.drop_left,
    strings_of_le _ b.count_le]
  rfl

/-- There are bytes, and no block stands at their front. -/
def Stuck (data : Bytes) : Prop := data ≠ [] ∧ ∀ (b : Block) (rest : Bytes), b.bytes ++ rest ≠ data

/-- Where bytes are left but no block stands, the decoder fails. -/
theorem decodeFrom_stuck {size index offset : Nat} {data : Bytes} (h : Stuck data)
    (hsize : offset + data.length = size) :
    Fails .malformedRecord (decodeFrom source size index offset data) := by
  match data with
  | [] => exact absurd rfl h.1
  | [_] =>
    rw [decodeFrom]
    exact fails_error.mpr rfl
  | [_, _] =>
    rw [decodeFrom]
    exact fails_error.mpr rfl
  | low :: high :: count :: rest =>
    rw [decodeFrom]
    simp only []
    split
    · exact fails_error.mpr rfl
    split
    · exact fails_error.mpr rfl
    rename_i hshort hlong
    simp only [Bytes.littleEndian_pair, headerSize, List.length_cons] at hshort hlong hsize ⊢
    set n := low.toNat + 256 * high.toNat - 3 with hn
    have hn' : (rest.take n).length = n := by
      rw [List.length_take]
      omega
    -- The length is in order, so the strings must be what is wrong.
    have hcount : (rest.take n).count 0 < count.toNat := by
      by_contra hc
      refine h.2 ⟨low, high, count, rest.take n, by omega, by omega⟩ (rest.drop n) ?_
      rw [Block.bytes, List.cons_append, List.cons_append, List.cons_append, List.take_append_drop]
    exact (strings_of_lt _ hcount).bind _

/-! ## A run of the decoder -/

/-- Every buffer is a run of blocks, followed by nothing or by bytes without a block. -/
theorem exists_blocks (data : Bytes) :
    ∃ (blocks : List Block) (rest : Bytes),
      blocks.flatMap Block.bytes ++ rest = data ∧ (rest = [] ∨ Stuck rest) := by
  induction hn : data.length using Nat.strongRecOn generalizing data with
  | ind n ih =>
    by_cases hs : data = [] ∨ Stuck data
    · exact ⟨[], data, rfl, hs⟩
    obtain ⟨hne, hns⟩ := not_or.mp hs
    have hb : ∃ (b : Block) (rest : Bytes), b.bytes ++ rest = data := by
      by_contra hb
      exact hns ⟨hne, fun b rest e => hb ⟨b, rest, e⟩⟩
    obtain ⟨b, tail, rfl⟩ := hb
    have hlt : tail.length < n := by
      rw [← hn, List.length_append, Block.length_bytes]
      omega
    obtain ⟨blocks, rest, hrun, hrest⟩ := ih tail.length hlt tail rfl
    exact ⟨b :: blocks, rest, by rw [List.flatMap_cons, List.append_assoc, hrun], hrest⟩

/-- The decoder takes off the blocks of a run, one after the other. -/
theorem decodeFrom_blocks {size : Nat} (blocks : List Block) (index offset : Nat) {rest : Bytes}
    (h : offset + (blocks.flatMap Block.bytes).length ≤ size) :
    decodeFrom source size index offset (blocks.flatMap Block.bytes ++ rest) =
      decodeFrom source size (index + blocks.length)
          (offset + (blocks.flatMap Block.bytes).length) rest >>=
        fun others => .ok (blocks.map Block.texts ++ others) := by
  induction blocks generalizing index offset with
  | nil =>
    cases hr : decodeFrom source size index offset rest with
    | error fault => simp [hr]
    | ok others => simp [hr]
  | cons b blocks ih =>
    rw [List.flatMap_cons, List.length_append] at h
    rw [List.flatMap_cons, List.append_assoc, decodeFrom_block b (by omega), ih _ _ (by omega),
      List.length_append, ← Nat.add_assoc, List.length_cons, Nat.add_comm blocks.length 1,
      ← Nat.add_assoc]
    cases decodeFrom source size (index + 1 + blocks.length)
        (offset + b.bytes.length + (blocks.flatMap Block.bytes).length) rest with
    | error fault => rfl
    | ok others => rfl

/-- What follows a run of blocks is decoded as if it stood alone, except that positions and offsets
in faults are those of the whole file. -/
theorem decode_blocks_append (blocks : List Block) (rest : Bytes) :
    decode (blocks.flatMap Block.bytes ++ rest) source =
      decodeFrom source (blocks.flatMap Block.bytes ++ rest).length blocks.length
          (blocks.flatMap Block.bytes).length rest >>=
        fun others => .ok (blocks.map Block.texts ++ others) := by
  have h : 0 + (blocks.flatMap Block.bytes).length ≤
      (blocks.flatMap Block.bytes ++ rest).length := by
    rw [List.length_append]
    omega
  rw [decode, decodeFrom_blocks blocks 0 0 h, Nat.zero_add, Nat.zero_add]

theorem decode_blocks (blocks : List Block) :
    decode (blocks.flatMap Block.bytes) source = .ok (blocks.map Block.texts) := by
  have h : decode (blocks.flatMap Block.bytes ++ []) source = _ := decode_blocks_append blocks []
  rw [List.append_nil, decodeFrom, ok_bind, List.append_nil] at h
  exact h

/-- A run of blocks that is followed by bytes without a block is refused. -/
theorem decode_fails_of_stuck (blocks : List Block) {rest : Bytes} (h : Stuck rest) :
    Fails .malformedRecord (decode (blocks.flatMap Block.bytes ++ rest) source) := by
  rw [decode_blocks_append]
  exact (decodeFrom_stuck h (List.length_append).symm).bind _

theorem decode_eq_ok_iff {data : Bytes} {chunks : List NameChunk} :
    decode data source = .ok chunks ↔
      ∃ blocks : List Block, blocks.flatMap Block.bytes = data ∧ blocks.map Block.texts = chunks := by
  constructor
  · intro h
    obtain ⟨blocks, rest, rfl, rfl | hstuck⟩ := exists_blocks data
    · rw [List.append_nil, decode_blocks] at h
      exact ⟨blocks, (List.append_nil _).symm, Except.ok.inj h⟩
    · exact absurd h ((decode_fails_of_stuck blocks hstuck).ne_ok chunks)
  · rintro ⟨blocks, rfl, rfl⟩
    exact decode_blocks blocks

theorem decode_fails_iff {data : Bytes} :
    Fails .malformedRecord (decode data source) ↔
      ¬ ∃ blocks : List Block, blocks.flatMap Block.bytes = data := by
  constructor
  · rintro h ⟨blocks, rfl⟩
    rw [decode_blocks] at h
    exact not_fails_ok h
  · intro h
    obtain ⟨blocks, rest, rfl, rfl | hstuck⟩ := exists_blocks data
    · exact absurd ⟨blocks, (List.append_nil _).symm⟩ h
    · exact decode_fails_of_stuck blocks hstuck

/-! ## Files behind one another -/

/-- A file that is accepted ends where a block ends, so what follows it decides about itself: it is
accepted with or without that file in front, or with and without refused. -/
theorem decode_append_cases {a : Bytes} {chunks : List NameChunk}
    (h : decode a source = .ok chunks) (b : Bytes) :
    (∃ others, decode b source = .ok others ∧ decode (a ++ b) source = .ok (chunks ++ others)) ∨
      (Fails .malformedRecord (decode b source) ∧
        Fails .malformedRecord (decode (a ++ b) source)) := by
  obtain ⟨blocks, rfl, rfl⟩ := decode_eq_ok_iff.mp h
  obtain ⟨tail, rest, rfl, rfl | hstuck⟩ := exists_blocks b
  · left
    refine ⟨tail.map Block.texts, ?_, ?_⟩
    · rw [List.append_nil, decode_blocks]
    · rw [List.append_nil, ← List.flatMap_append, decode_blocks, List.map_append]
  · right
    refine ⟨decode_fails_of_stuck tail hstuck, ?_⟩
    rw [← List.append_assoc, ← List.flatMap_append]
    exact decode_fails_of_stuck (blocks ++ tail) hstuck

/-- The decoder accepts exactly the runs of blocks and gives the counted strings of each; all else
it refuses as malformed. Behind a file that is accepted, bytes are accepted iff they are alone, and
their chunks are added. -/
theorem decode_accepts_runs_of_blocks (source : Text) :
    (∀ data chunks, decode data source = .ok chunks ↔
      ∃ blocks : List Block,
        blocks.flatMap Block.bytes = data ∧ blocks.map Block.texts = chunks) ∧
    (∀ data, Fails .malformedRecord (decode data source) ↔
      ¬ ∃ blocks : List Block, blocks.flatMap Block.bytes = data) ∧
    ∀ a b chunks, decode a source = .ok chunks →
      (∀ others, decode (a ++ b) source = .ok (chunks ++ others) ↔ decode b source = .ok others) ∧
      (Fails .malformedRecord (decode (a ++ b) source) ↔
        Fails .malformedRecord (decode b source)) := by
  refine ⟨fun data chunks => decode_eq_ok_iff, fun data => decode_fails_iff, ?_⟩
  intro a b chunks h
  rcases decode_append_cases h b with ⟨others, hb, hab⟩ | ⟨hb, hab⟩
  · rw [hb, hab]
    refine ⟨fun others' => ?_, iff_of_false not_fails_ok not_fails_ok⟩
    rw [Except.ok.injEq, Except.ok.injEq, List.append_cancel_left_eq]
  · exact ⟨fun others => iff_of_false (hab.ne_ok _) (hb.ne_ok _), iff_of_true hab hb⟩

/-- A chunk with a byte behind its string, and behind it a chunk whose string runs on into the byte
after it: the second is refused, so the two together are. -/
theorem decode_append_of_string_past_chunk :
    decode [6, 0, 1, 0x61, 0, 0x7A] fileName = .ok [["a".toList]] ∧
      Fails .malformedRecord
        (decode ([6, 0, 1, 0x61, 0, 0x7A] ++ [4, 0, 1, 0x62, 0]) fileName) := by
  have hfirst : decode [6, 0, 1, 0x61, 0, 0x7A] fileName = .ok [["a".toList]] :=
    decode_eq_ok_iff.mpr ⟨[⟨6, 0, 1, [0x61, 0, 0x7A], by decide, by decide⟩], rfl, by decide⟩
  have hsecond : Fails .malformedRecord (decode [4, 0, 1, 0x62, 0] fileName) := by
    refine ⟨.unterminated fileName 3, ?_, rfl⟩
    rw [decode, decodeFrom]
    rfl
  exact ⟨hfirst, ((decode_accepts_runs_of_blocks fileName).2.2 _ _ _ hfirst).2.mpr hsecond⟩

end ArenaData.NameChunk
