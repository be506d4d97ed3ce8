import ArenaData.Bytes.Basic

/-!
# Name chunks

The fragments that names are made of come in chunks. A chunk of the file is its length in bytes (two
bytes, its header included), the number of its strings (one byte), and the strings, each ended by a
zero byte. Chunks follow each other up to the end of the file and are known by their position. What
a chunk has behind its last counted string is passed over.
-/

namespace ArenaData

/-- The strings of one chunk. -/
abbrev NameChunk := List Text

namespace NameChunk

/-- The bytes of a chunk before its strings. -/
def headerSize : Nat := 3

/-- The greatest length that fits the length field. -/
def maxLength : Nat := 0xFFFF

/-- The greatest number of strings that fits the count field. -/
def maxStrings : Nat := 0xFF

/-- The name of the file. -/
def fileName : Text := "NAMECHNK.DAT".toList

/-- The first `count` strings of a chunk; `offset` is where `body` starts in its chunk. -/
def strings (source : Text) : (count offset : Nat) → Bytes → Except Fault NameChunk
  | 0, _, _ => .ok []
  | count + 1, offset, body =>
    match body.span (· != 0) with
    | (_, []) => .error (.unterminated source offset)
    | (string, _ :: rest) => do
      let others ← strings source count (offset + string.length + 1) rest
      pure (Bytes.latin1 string :: others)

/-- The chunks of the bytes from `offset` on, in a file of `size` bytes; `index` is the position of
the first one. -/
def decodeFrom (source : Text) (size index offset : Nat) :
    Bytes → Except Fault (List NameChunk)
  | [] => .ok []
  | [_] => .error (.outsideBuffer source 2 offset size)
  | [_, _] => .error (.outsideBuffer source 1 (offset + 2) size)
  | low :: high :: count :: rest =>
    let length := Bytes.littleEndian [low, high]
    if length < headerSize then .error (.chunkTooShort source index offset length)
    else if size < offset + length then .error (.chunkPastEnd source index (offset + length) size)
    else do
      let body := rest.take (length - headerSize)
      let chunk ← strings source count.toNat headerSize body
      let others ←
        decodeFrom source size (index + 1) (offset + length) (rest.drop (length - headerSize))
      pure (chunk :: others)
termination_by bytes => bytes.length
decreasing_by simp only [List.length_drop, List.length_cons]; omega

/-- The chunks of a file. -/
def decode (data : Bytes) (source : Text) : Except Fault (List NameChunk) :=
  decodeFrom source data.length 0 0 data

/-- The bytes of a chunk; `index` is its position, for messages. -/
def encodeChunk (index : Nat) (chunk : NameChunk) : Except Fault Bytes := do
  if maxStrings < chunk.length then throw (.chunkTooFull index chunk.length)
  let strings ← chunk.mapM Bytes.ofString
  let body := strings.flatten
  let length := headerSize + body.length
  if maxLength < length then throw (.chunkTooLong index length)
  pure (Bytes.ofUInt16 length ++ UInt8.ofNat chunk.length :: body)

/-- The bytes of chunks from position `index` on. -/
def encodeFrom (index : Nat) : List NameChunk → Except Fault Bytes
  | [] => .ok []
  | chunk :: rest => do
    let bytes ← encodeChunk index chunk
    let others ← encodeFrom (index + 1) rest
    pure (bytes ++ others)

/-- The bytes of a file with these chunks. -/
def encode (chunks : List NameChunk) : Except Fault Bytes := encodeFrom 0 chunks

end NameChunk

end ArenaData
