import ArenaData.Bytes.Cursor
import ArenaData.Proofs.Bytes
import ArenaData.Proofs.Outcome

/-!
# Runs of cursors

A cursor is asked for one thing after the other. `Step.Disciplined` is what is expected of each
step: the cursor stays in its buffer, a failure leaves it where it was, and an answer is what the
bytes between the two offsets say. From a place in the buffer every operation keeps to this but one.
A negative number of bytes passes the check of its window, which only looks at where the window
would end, so the cursor goes back by that number, even in front of its buffer. And what an
operation is refused with shows the numbers that are wrong, so it is found malformed only if these
have not too many digits. A run is therefore disciplined iff it never asks for a negative number of
bytes and every refusal in it has a message.
-/

namespace ArenaData.Cursor

open Bytes (littleEndian latin1)

variable {c : Cursor} {size : Int}

/-! ## Operations, steps and runs -/

/-- What a cursor can be asked for. -/
inductive Op where
  | u8
  | u16
  | u32
  | string
  | bytes (size : Int)
  | seek (offset : Int)
  | skip (count : Int)

/-- What an operation answers with. -/
inductive Answer where
  | number (n : Nat)
  | text (t : Text)
  | bytes (b : Bytes)
  | moved

/-- The answer to an operation, and the cursor that the operation leaves behind. -/
def apply (c : Cursor) : Op → Except Fault (Answer × Cursor)
  | .u8 => do let (n, next) ← c.u8; pure (.number n, next)
  | .u16 => do let (n, next) ← c.u16; pure (.number n, next)
  | .u32 => do let (n, next) ← c.u32; pure (.number n, next)
  | .string => do let (t, next) ← c.string; pure (.text t, next)
  | .bytes size => do let (b, next) ← c.bytes size; pure (.bytes b, next)
  | .seek offset => do let next ← c.seek offset; pure (.moved, next)
  | .skip count => do let next ← c.skip count; pure (.moved, next)

/-- An operation in a run, with the cursor before and after it. -/
structure Step where
  before : Cursor
  op : Op
  answer : Except Fault Answer
  after : Cursor

/-- The step that an operation makes. One that fails has no cursor to leave behind. -/
def step (c : Cursor) (op : Op) : Step :=
  match c.apply op with
  | .ok (answer, next) => ⟨c, op, .ok answer, next⟩
  | .error fault => ⟨c, op, .error fault, c⟩

/-- The steps of operations one after the other. -/
def run (c : Cursor) : List Op → List Step
  | [] => []
  | op :: ops => c.step op :: run (c.step op).after ops

theorem step_of_ok {op : Op} {answer : Answer} {next : Cursor}
    (h : c.apply op = .ok (answer, next)) : c.step op = ⟨c, op, .ok answer, next⟩ := by
  rw [step, h]

theorem step_of_error {op : Op} {fault : Fault} (h : c.apply op = .error fault) :
    c.step op = ⟨c, op, .error fault, c⟩ := by
  rw [step, h]

theorem before_step (c : Cursor) (op : Op) : (c.step op).before = c := by
  rw [step]
  split <;> rfl

theorem op_step (c : Cursor) (op : Op) : (c.step op).op = op := by
  rw [step]
  split <;> rfl

/-! ## What each operation does -/

/-- The cursor behind the next `size` bytes. -/
def advance (c : Cursor) (size : Int) : Cursor := { c with offset := c.offset + size }

/-- The check of a window passes. -/
def Has (c : Cursor) (size : Int) : Prop := 0 ≤ c.offset ∧ c.offset + size ≤ c.data.length

/-- What an operation asks for is there. -/
def Fits (c : Cursor) : Op → Prop
  | .u8 => c.Has 1
  | .u16 => c.Has 2
  | .u32 => c.Has 4
  | .string => c.Has 0 ∧ 0 ∈ c.data.drop c.offset.toNat
  | .bytes size => c.Has size
  | .seek offset => 0 ≤ offset ∧ offset ≤ c.data.length
  | .skip count => 0 ≤ c.offset + count ∧ c.offset + count ≤ c.data.length

/-- The fault of a window that is not all in the buffer. -/
def outside (c : Cursor) (offset size : Int) : Fault :=
  .outsideBuffer c.source size offset c.data.length

/-- What is wrong with an operation if what it asks for is not there. -/
def refusal (c : Cursor) : Op → Fault
  | .u8 => c.outside c.offset 1
  | .u16 => c.outside c.offset 2
  | .u32 => c.outside c.offset 4
  | .string =>
    if 0 ≤ c.offset ∧ c.offset ≤ c.data.length then .unterminated c.source c.offset
    else c.outside c.offset 0
  | .bytes size => c.outside c.offset size
  | .seek offset => c.outside offset 0
  | .skip count => c.outside (c.offset + count) 0

/-- Every refusal says that the buffer is malformed. -/
theorem kind_refusal (c : Cursor) (op : Op) : (c.refusal op).kind = .malformedRecord := by
  cases op with
  | string =>
    rw [refusal]
    split
    · rfl
    · rfl
  | _ => rfl

theorem checkWindow_cases (c : Cursor) (offset size : Int) :
    (0 ≤ offset ∧ offset + size ≤ c.data.length ∧
        Bytes.checkWindow c.data offset size c.source = .ok ()) ∨
      (¬ (0 ≤ offset ∧ offset + size ≤ c.data.length) ∧
        Bytes.checkWindow c.data offset size c.source =
          .error (c.outside offset size).reported) := by
  rw [Bytes.checkWindow]
  by_cases h : offset < 0 ∨ (c.data.length : Int) < offset + size
  · right
    rw [if_pos h]
    exact ⟨by omega, rfl⟩
  · left
    rw [if_neg h]
    exact ⟨by omega, by omega, rfl⟩

theorem read_cases (c : Cursor) (size : Int) :
    (c.Has size ∧ Bytes.read c.data c.offset size c.source =
        .ok (Bytes.slice c.data c.offset (c.offset + size))) ∨
      (¬ c.Has size ∧ Bytes.read c.data c.offset size c.source =
        .error (c.outside c.offset size).reported) := by
  rw [Bytes.read]
  rcases checkWindow_cases c c.offset size with ⟨hlow, hhigh, h⟩ | ⟨hnot, h⟩
  · left
    rw [h]
    exact ⟨⟨hlow, hhigh⟩, rfl⟩
  · right
    rw [h]
    exact ⟨hnot, rfl⟩

theorem number_cases (c : Cursor) (size : Nat) :
    (c.Has size ∧ c.number size =
        .ok (littleEndian (Bytes.slice c.data c.offset (c.offset + size)), c.advance size)) ∨
      (¬ c.Has size ∧ c.number size = .error (c.outside c.offset size).reported) := by
  rw [number, Bytes.readNumber]
  rcases read_cases c size with ⟨hhas, h⟩ | ⟨hnot, h⟩
  · left
    rw [h]
    exact ⟨hhas, rfl⟩
  · right
    rw [h]
    exact ⟨hnot, rfl⟩

theorem bytes_cases (c : Cursor) (size : Int) :
    (c.Has size ∧ c.bytes size =
        .ok (Bytes.slice c.data c.offset (c.offset + size), c.advance size)) ∨
      (¬ c.Has size ∧ c.bytes size = .error (c.outside c.offset size).reported) := by
  rw [bytes]
  rcases read_cases c size with ⟨hhas, h⟩ | ⟨hnot, h⟩
  · left
    rw [h]
    exact ⟨hhas, rfl⟩
  · right
    rw [h]
    exact ⟨hnot, rfl⟩

theorem seek_cases (c : Cursor) (offset : Int) :
    (0 ≤ offset ∧ offset ≤ c.data.length ∧ c.seek offset = .ok { c with offset := offset }) ∨
      (¬ (0 ≤ offset ∧ offset ≤ c.data.length) ∧
        c.seek offset = .error (c.outside offset 0).reported) := by
  rw [seek]
  rcases checkWindow_cases c offset 0 with ⟨hlow, hhigh, h⟩ | ⟨hnot, h⟩
  · left
    rw [h]
    exact ⟨hlow, by omega, rfl⟩
  · right
    rw [Int.add_zero] at hnot
    rw [h]
    exact ⟨hnot, rfl⟩

/-- The string up to the next zero byte is read, and there has to be one. -/
theorem string_cases (c : Cursor) :
    (c.Has 0 ∧ ∃ b rest, 0 ∉ b ∧ c.data.drop c.offset.toNat = b ++ 0 :: rest ∧
        c.string = .ok (latin1 b, c.advance (b.length + 1))) ∨
      (¬ c.Fits .string ∧ c.string = .error (c.refusal .string).reported) := by
  rw [string, Bytes.readString, refusal]
  rcases checkWindow_cases c c.offset 0 with ⟨hlow, hhigh, h⟩ | ⟨hnot, h⟩
  · rw [h, ok_bind]
    by_cases hzero : 0 ∈ c.data.drop c.offset.toNat
    · left
      obtain ⟨b, rest, hrest, hb⟩ := List.eq_append_cons_of_mem hzero
      have hshort : b.length < (b ++ 0 :: rest).length := by simp
      refine ⟨⟨hlow, hhigh⟩, b, rest, hb, hrest, ?_⟩
      simp only [hrest, Bytes.untilZero_append_zero hb, if_pos hshort, advance, ← Int.add_assoc]
      rfl
    · right
      refine ⟨fun hfits => hzero hfits.2, ?_⟩
      rw [Int.add_zero] at hhigh
      simp only [Bytes.untilZero_of_zero_notMem hzero, if_neg (lt_irrefl _),
        if_pos (And.intro hlow hhigh)]
      rfl
  · right
    rw [h]
    refine ⟨fun hfits => hnot hfits.1, ?_⟩
    rw [Int.add_zero] at hnot
    rw [if_neg hnot]
    rfl

/-! ## Which operations are answered -/

variable {α : Type} {x : Except Fault α} {f : α → Except Fault (Answer × Cursor)} {op : Op}

/-- An operation is answered, or it is refused. -/
def Settles (c : Cursor) (op : Op) (fits : Prop) : Prop :=
  (fits ∧ ∃ result, c.apply op = .ok result) ∨
    (¬ fits ∧ c.apply op = .error (c.refusal op).reported)

theorem settles_number {size : Nat}
    (happly : c.apply op = c.number size >>= fun r => .ok (.number r.1, r.2))
    (hrefusal : c.refusal op = c.outside c.offset size) : c.Settles op (c.Has size) := by
  rw [Settles, happly, hrefusal]
  rcases number_cases c size with ⟨hhas, h⟩ | ⟨hnot, h⟩
  · exact Or.inl ⟨hhas, _, by rw [h]; rfl⟩
  · exact Or.inr ⟨hnot, by rw [h]; rfl⟩

theorem settles_seek {offset : Int}
    (happly : c.apply op = c.seek offset >>= fun next => .ok (.moved, next))
    (hrefusal : c.refusal op = c.outside offset 0) :
    c.Settles op (0 ≤ offset ∧ offset ≤ c.data.length) := by
  rw [Settles, happly, hrefusal]
  rcases seek_cases c offset with ⟨hlow, hhigh, h⟩ | ⟨hnot, h⟩
  · exact Or.inl ⟨⟨hlow, hhigh⟩, _, by rw [h]; rfl⟩
  · exact Or.inr ⟨hnot, by rw [h]; rfl⟩

theorem settles (c : Cursor) (op : Op) : c.Settles op (c.Fits op) := by
  cases op with
  | u8 => exact settles_number rfl rfl
  | u16 => exact settles_number rfl rfl
  | u32 => exact settles_number rfl rfl
  | string =>
    rw [Settles, apply]
    rcases string_cases c with ⟨hhas, b, rest, -, hrest, h⟩ | ⟨hnot, h⟩
    · exact Or.inl ⟨⟨hhas, by rw [hrest]; simp⟩, _, by rw [h]; rfl⟩
    · exact Or.inr ⟨hnot, by rw [h]; rfl⟩
  | bytes size =>
    rw [Settles, apply, refusal]
    rcases bytes_cases c size with ⟨hhas, h⟩ | ⟨hnot, h⟩
    · exact Or.inl ⟨hhas, _, by rw [h]; rfl⟩
    · exact Or.inr ⟨hnot, by rw [h]; rfl⟩
  | seek offset => exact settles_seek rfl rfl
  | skip count => exact settles_seek rfl rfl

/-- Wherever the cursor is, an operation is answered iff what it asks for is there. -/
theorem exists_answer_iff (c : Cursor) (op : Op) :
    (∃ answer, (c.step op).answer = .ok answer) ↔ c.Fits op := by
  rcases c.settles op with ⟨hfits, ⟨answer, next⟩, h⟩ | ⟨hnot, h⟩
  · rw [step_of_ok h]
    exact iff_of_true ⟨answer, rfl⟩ hfits
  · rw [step_of_error h]
    exact iff_of_false (fun ⟨_, ha⟩ => nomatch ha) hnot

/-- Otherwise it is refused, and there is only one way to be. -/
theorem answer_eq_error_iff (c : Cursor) (op : Op) (fault : Fault) :
    (c.step op).answer = .error fault ↔
      ¬ c.Fits op ∧ fault = (c.refusal op).reported := by
  rcases c.settles op with ⟨hfits, ⟨answer, next⟩, h⟩ | ⟨hnot, h⟩
  · rw [step_of_ok h]
    exact iff_of_false ok_ne_error fun hbad => hbad.1 hfits
  · rw [step_of_error h]
    simp [hnot, eq_comm]

/-! ## The discipline -/

/-- The offset is that of a byte or of the end of the buffer. -/
def InBuffer (c : Cursor) : Prop := 0 ≤ c.offset ∧ c.offset ≤ c.data.length

/-- The bytes from the offset before a step up to the offset after it. -/
def Step.passed (s : Step) : Bytes :=
  (s.before.data.take s.after.offset.toNat).drop s.before.offset.toNat

/-- The number of so many bytes that the step has passed. -/
def Step.TellsNumber (s : Step) (size n : Nat) : Prop :=
  s.passed.length = size ∧ n = littleEndian s.passed

/-- The answer is right for the operation and the bytes that the step has passed. -/
def Step.Tells (s : Step) : Op → Answer → Prop
  | .u8, .number n => s.TellsNumber 1 n
  | .u16, .number n => s.TellsNumber 2 n
  | .u32, .number n => s.TellsNumber 4 n
  | .string, .text t => ∃ b, 0 ∉ b ∧ s.passed = b ++ [0] ∧ t = latin1 b
  | .bytes size, .bytes b => (b.length : Int) = size ∧ b = s.passed
  | .seek offset, .moved => s.after.offset = offset
  | .skip count, .moved => s.after.offset = s.before.offset + count
  | _, _ => False

/-- What is expected of a step. -/
structure Step.Disciplined (s : Step) : Prop where
  data_eq : s.after.data = s.before.data
  inBuffer : s.after.InBuffer
  remaining_eq : s.after.remaining = s.after.data.length - s.after.offset
  failed : ∀ fault, s.answer = .error fault → fault.kind = .malformedRecord ∧ s.after = s.before
  answered : ∀ answer, s.answer = .ok answer → s.Tells s.op answer

theorem InBuffer.remaining_eq (h : c.InBuffer) : c.remaining = c.data.length - c.offset := by
  have := h.2
  rw [remaining]
  omega

theorem disciplined_of_ok {answer : Answer} {next : Cursor}
    (h : c.apply op = .ok (answer, next)) (hdata : next.data = c.data) (hin : next.InBuffer)
    (htells : Step.Tells ⟨c, op, .ok answer, next⟩ op answer) : (c.step op).Disciplined := by
  rw [step_of_ok h]
  refine ⟨hdata, hin, hin.remaining_eq, fun fault hf => ?_, fun a ha => ?_⟩
  · exact nomatch hf
  · obtain rfl := Except.ok.inj ha
    exact htells

/-- A refusal is as expected iff it has a message. -/
theorem disciplined_iff_of_not_fits (hc : c.InBuffer) (hnot : ¬ c.Fits op) :
    (c.step op).Disciplined ↔ (c.refusal op).hasMessage = true := by
  have hkind := Fault.kind_reported_eq_iff (c.kind_refusal op) (by decide)
  rcases c.settles op with ⟨hfits, -⟩ | ⟨-, h⟩
  · exact absurd hfits hnot
  · rw [step_of_error h, ← hkind]
    constructor
    · intro hdisciplined
      exact (hdisciplined.failed _ rfl).1
    · intro hreported
      refine ⟨rfl, hc, hc.remaining_eq, fun fault hfault => ?_, fun _ ha => nomatch ha⟩
      rw [← Except.error.inj hfault]
      exact ⟨hreported, rfl⟩

/-! ## One step -/

/-- A window of a size that is not negative is what the cursor passes on its way to the end of it.
-/
theorem slice_eq_drop_take (hhas : c.Has size) (hsize : 0 ≤ size) :
    Bytes.slice c.data c.offset (c.offset + size) =
      (c.data.take (c.offset + size).toNat).drop c.offset.toNat := by
  have hlow := hhas.1
  have hstop : ¬ c.offset + size < 0 := by omega
  rw [Bytes.slice, if_neg hstop]

theorem length_slice (hhas : c.Has size) (hsize : 0 ≤ size) :
    ((Bytes.slice c.data c.offset (c.offset + size)).length : Int) = size := by
  obtain ⟨hlow, hhigh⟩ := hhas
  rw [slice_eq_drop_take ⟨hlow, hhigh⟩ hsize, List.length_drop, List.length_take]
  omega

theorem inBuffer_advance (hhas : c.Has size) (hsize : 0 ≤ size) : (c.advance size).InBuffer := by
  obtain ⟨hlow, hhigh⟩ := hhas
  exact ⟨Int.add_nonneg hlow hsize, hhigh⟩

/-- Numbers of all sizes are read alike; `op` is the operation for this one. -/
theorem number_disciplined {size : Nat} (hhas : c.Has size)
    (happly : c.apply op = c.number size >>= fun r => .ok (.number r.1, r.2))
    (htells : ∀ (s : Step) (n : Nat), s.TellsNumber size n → s.Tells op (.number n)) :
    (c.step op).Disciplined := by
  rcases number_cases c size with ⟨-, h⟩ | ⟨hnot, -⟩
  · have hsize : (0 : Int) ≤ size := Int.natCast_nonneg size
    rw [h, ok_bind] at happly
    refine disciplined_of_ok happly rfl (inBuffer_advance hhas hsize) (htells _ _ ⟨?_, ?_⟩)
    · have hlength := length_slice hhas hsize
      rw [slice_eq_drop_take hhas hsize] at hlength
      exact Int.ofNat_inj.mp hlength
    · rw [slice_eq_drop_take hhas hsize]
      rfl
  · exact absurd hhas hnot

theorem bytes_disciplined (hhas : c.Has size) (hsize : 0 ≤ size) :
    (c.step (.bytes size)).Disciplined := by
  rcases bytes_cases c size with ⟨-, h⟩ | ⟨hnot, -⟩
  · have happly : c.apply (.bytes size) =
        .ok (.bytes (Bytes.slice c.data c.offset (c.offset + size)), c.advance size) := by
      rw [apply, h]
      rfl
    refine disciplined_of_ok happly rfl (inBuffer_advance hhas hsize) ⟨?_, ?_⟩
    · exact length_slice hhas hsize
    · exact slice_eq_drop_take hhas hsize
  · exact absurd hhas hnot

theorem string_disciplined (hfits : c.Fits .string) : (c.step .string).Disciplined := by
  rcases string_cases c with ⟨⟨hlow, hhigh⟩, b, rest, hb, hrest, h⟩ | ⟨hnot, -⟩
  · have happly : c.apply .string = .ok (.text (latin1 b), c.advance (b.length + 1)) := by
      rw [apply, h]
      rfl
    have hlength : c.data.length - c.offset.toNat = b.length + (rest.length + 1) := by
      rw [← List.length_drop, hrest, List.length_append, List.length_cons]
    have hwindow : c.Has (b.length + 1) := ⟨hlow, by omega⟩
    refine disciplined_of_ok happly rfl (inBuffer_advance hwindow (by omega)) ⟨b, hb, ?_, rfl⟩
    have hstop : (c.offset + (b.length + 1)).toNat = c.offset.toNat + (b.length + 1) := by omega
    have htake : (b ++ 0 :: rest).take (b.length + 1) = b ++ [0] := by
      rw [List.take_length_add_append]
      rfl
    show (c.data.take (c.offset + (b.length + 1)).toNat).drop c.offset.toNat = b ++ [0]
    rw [hstop, List.drop_take, hrest, Nat.add_sub_cancel_left, htake]
  · exact absurd hfits hnot

theorem seek_disciplined {offset : Int} (hfits : 0 ≤ offset ∧ offset ≤ c.data.length)
    (happly : c.apply op = c.seek offset >>= fun next => .ok (.moved, next))
    (htells : ∀ s : Step, s.before = c → s.after.offset = offset → s.Tells op .moved) :
    (c.step op).Disciplined := by
  rcases seek_cases c offset with ⟨-, -, h⟩ | ⟨hnot, -⟩
  · rw [h, ok_bind] at happly
    exact disciplined_of_ok happly rfl hfits (htells _ rfl rfl)
  · exact absurd hfits hnot

/-- What is there is answered as expected, but for a negative number of bytes. -/
theorem disciplined_of_fits (hfits : c.Fits op) (hop : ∀ size, op = .bytes size → 0 ≤ size) :
    (c.step op).Disciplined := by
  cases op with
  | u8 => exact number_disciplined hfits rfl fun s n h => h
  | u16 => exact number_disciplined hfits rfl fun s n h => h
  | u32 => exact number_disciplined hfits rfl fun s n h => h
  | string => exact string_disciplined hfits
  | bytes size => exact bytes_disciplined hfits (hop size rfl)
  | seek offset => exact seek_disciplined hfits rfl fun s _ h => h
  | skip count =>
    refine seek_disciplined hfits rfl fun s hbefore h => ?_
    rw [Step.Tells, hbefore]
    exact h

/-- From inside the buffer a negative number of bytes is never refused. The answer cannot have that
many bytes. -/
theorem size_nonneg_of_disciplined (hc : c.InBuffer)
    (h : (c.step (.bytes size)).Disciplined) : 0 ≤ size := by
  by_contra hneg
  have hfits : c.Fits (.bytes size) := by
    obtain ⟨hlow, hhigh⟩ := hc
    exact ⟨hlow, by omega⟩
  obtain ⟨answer, hanswer⟩ := (exists_answer_iff c (.bytes size)).mpr hfits
  have htells : (c.step (.bytes size)).Tells (.bytes size) answer := by
    have hanswered := h.answered answer hanswer
    rwa [op_step] at hanswered
  cases answer with
  | bytes b =>
    have hlength : (b.length : Int) = size := htells.1
    omega
  | number n => exact htells
  | text t => exact htells
  | moved => exact htells

/-! ## Runs -/

theorem eq_step_of_mem_run {ops : List Op} {s : Step} (h : s ∈ c.run ops) :
    s = s.before.step s.op := by
  induction ops generalizing c with
  | nil => exact nomatch h
  | cons op ops ih =>
    rcases List.mem_cons.mp h with rfl | h
    · rw [step]
      split <;> simp only [step, *]
    · exact ih h

/-- From a place in the buffer a step is as expected iff it does not ask for a negative number of
bytes, and what it is refused with, if it is, has a message. -/
theorem disciplined_iff (hc : c.InBuffer) : (c.step op).Disciplined ↔
    (∀ size, op = .bytes size → 0 ≤ size) ∧ (c.Fits op ∨ (c.refusal op).hasMessage = true) := by
  have hsize (h : (c.step op).Disciplined) (size : Int) (hop : op = .bytes size) : 0 ≤ size :=
    size_nonneg_of_disciplined hc (hop ▸ h)
  by_cases hfits : c.Fits op
  · constructor
    · intro h
      exact ⟨hsize h, Or.inl hfits⟩
    · rintro ⟨hop, -⟩
      exact disciplined_of_fits hfits hop
  · constructor
    · intro h
      exact ⟨hsize h, Or.inr ((disciplined_iff_of_not_fits hc hfits).mp h)⟩
    · rintro ⟨-, hbad | hmessage⟩
      · exact absurd hbad hfits
      · exact (disciplined_iff_of_not_fits hc hfits).mpr hmessage

/-- The refusal of a step has a message, if the step is refused. -/
def Step.CanBeTold (s : Step) : Prop :=
  s.before.Fits s.op ∨ (s.before.refusal s.op).hasMessage = true

theorem disciplined_iff_of_mem_run (hc : c.InBuffer) (ops : List Op) :
    (∀ s ∈ c.run ops, s.Disciplined) ↔
      (∀ size, .bytes size ∈ ops → 0 ≤ size) ∧ ∀ s ∈ c.run ops, s.CanBeTold := by
  induction ops generalizing c with
  | nil => simp [run]
  | cons op ops ih =>
    have htold : (c.step op).CanBeTold ↔ c.Fits op ∨ (c.refusal op).hasMessage = true := by
      rw [Step.CanBeTold, before_step, op_step]
    rw [run, List.forall_mem_cons, List.forall_mem_cons, htold]
    constructor
    · rintro ⟨hstep, hrest⟩
      obtain ⟨hop, hmessage⟩ := (disciplined_iff hc).mp hstep
      obtain ⟨hops, hmessages⟩ := (ih hstep.inBuffer).mp hrest
      refine ⟨fun size hmem => ?_, hmessage, hmessages⟩
      rcases List.mem_cons.mp hmem with hhead | hmem
      · exact hop size hhead.symm
      · exact hops size hmem
    · rintro ⟨hops, hmessage, hmessages⟩
      have hstep : (c.step op).Disciplined := (disciplined_iff hc).mpr
        ⟨fun size hop => hops size (hop ▸ List.mem_cons_self), hmessage⟩
      refine ⟨hstep, (ih hstep.inBuffer).mpr ⟨fun size hmem => ?_, hmessages⟩⟩
      exact hops size (List.mem_cons_of_mem op hmem)

/-- The number that an operation is asked with. -/
def Op.operand : Op → Int
  | .bytes size => size
  | .seek offset => offset
  | .skip count => count
  | _ => 0

/-- Where the buffer and the number asked with are of ordinary size, every refusal has a message. -/
theorem hasMessage_refusal (hc : c.InBuffer) (hlength : c.data.length < 10 ^ 19)
    (hop : op.operand.natAbs < 10 ^ 19) : (c.refusal op).hasMessage = true := by
  obtain ⟨hlow, hhigh⟩ := hc
  have hwindow {offset size : Int} (hoffset : offset.natAbs < 10 ^ 20)
      (hsize : size.natAbs < 10 ^ 20) : (c.outside offset size).hasMessage = true := by
    refine Fault.hasMessage_iff.mpr fun n hn => ?_
    rcases List.mem_pair.mp hn with rfl | rfl
    · exact Text.shows_of_lt hsize
    · exact Text.shows_of_lt hoffset
  cases op with
  | u8 => exact hwindow (by omega) (by decide)
  | u16 => exact hwindow (by omega) (by decide)
  | u32 => exact hwindow (by omega) (by decide)
  | string =>
    rw [refusal, if_pos ⟨hlow, hhigh⟩, Fault.hasMessage_iff]
    intro n hn
    rw [List.mem_singleton.mp hn]
    exact Text.shows_of_lt (by omega)
  | bytes size =>
    rw [Op.operand] at hop
    exact hwindow (by omega) (by omega)
  | seek offset =>
    rw [Op.operand] at hop
    exact hwindow (by omega) (by decide)
  | skip count =>
    rw [Op.operand] at hop
    exact hwindow (by omega) (by decide)

theorem canBeTold_of_mem_run (hc : c.InBuffer) (hlength : c.data.length < 10 ^ 19)
    {ops : List Op} (hsizes : ∀ size, .bytes size ∈ ops → 0 ≤ size)
    (hops : ∀ op ∈ ops, op.operand.natAbs < 10 ^ 19) : ∀ s ∈ c.run ops, s.CanBeTold := by
  induction ops generalizing c with
  | nil => simp [run]
  | cons op ops ih =>
    obtain ⟨hop, hops⟩ := List.forall_mem_cons.mp hops
    have hmessage := hasMessage_refusal hc hlength hop
    have hstep : (c.step op).Disciplined := (disciplined_iff hc).mpr
      ⟨fun size hhead => hsizes size (hhead ▸ List.mem_cons_self), Or.inr hmessage⟩
    have hdata : (c.step op).after.data = c.data := by rw [hstep.data_eq, before_step]
    rw [run, List.forall_mem_cons]
    refine ⟨?_, ih hstep.inBuffer (hdata ▸ hlength) (fun size hmem => ?_) hops⟩
    · rw [Step.CanBeTold, before_step, op_step]
      exact Or.inr hmessage
    · exact hsizes size (List.mem_cons_of_mem op hmem)

/-- From a place in the buffer every step of a run is as expected iff no operation of the run asks
for a negative number of bytes and what is refused can be told. In a buffer of ordinary size, and
with numbers of ordinary size, everything can be told, so only the sign of the sizes matters.
However the run goes, an operation is answered iff what it asks for is there, and otherwise its
fault is the one for the numbers it asked with. -/
theorem run_disciplined_iff (hc : c.InBuffer) (ops : List Op) :
    ((∀ s ∈ c.run ops, s.Disciplined) ↔
      (∀ size, .bytes size ∈ ops → 0 ≤ size) ∧ ∀ s ∈ c.run ops, s.CanBeTold) ∧
    (c.data.length < 10 ^ 19 → (∀ op ∈ ops, op.operand.natAbs < 10 ^ 19) →
      ((∀ s ∈ c.run ops, s.Disciplined) ↔ ∀ size, .bytes size ∈ ops → 0 ≤ size)) ∧
    ∀ s ∈ c.run ops, ((∃ answer, s.answer = .ok answer) ↔ s.before.Fits s.op) ∧
      ∀ fault, s.answer = .error fault ↔
        ¬ s.before.Fits s.op ∧ fault = (s.before.refusal s.op).reported := by
  refine ⟨disciplined_iff_of_mem_run hc ops, fun hlength hops => ?_, fun s hs => ?_⟩
  · rw [disciplined_iff_of_mem_run hc ops]
    exact and_iff_left_of_imp fun hsizes => canBeTold_of_mem_run hc hlength hsizes hops
  · have hanswer := exists_answer_iff s.before s.op
    have hrefused := answer_eq_error_iff s.before s.op
    rw [← eq_step_of_mem_run hs] at hanswer hrefused
    exact ⟨hanswer, hrefused⟩

/-- Numbers, a string, nothing at all, a step back and a read past the end. -/
theorem run_to_and_fro :
    InBuffer ⟨[1, 2, 0, 0x68, 0x69, 0], 0, []⟩ ∧
      (∀ size, .bytes size ∈ [Op.u8, .u16, .string, .bytes 0, .skip (-3), .u32, .seek (-1)] →
        0 ≤ size) ∧
      ∀ s ∈ run ⟨[1, 2, 0, 0x68, 0x69, 0], 0, []⟩
        [.u8, .u16, .string, .bytes 0, .skip (-3), .u32, .seek (-1)], s.Disciplined := by
  have hin : InBuffer ⟨[1, 2, 0, 0x68, 0x69, 0], 0, []⟩ := ⟨by decide, by decide⟩
  have hsizes : ∀ size,
      .bytes size ∈ [Op.u8, .u16, .string, .bytes 0, .skip (-3), .u32, .seek (-1)] → 0 ≤ size := by
    simp
  have hops : ∀ op ∈ [Op.u8, .u16, .string, .bytes 0, .skip (-3), .u32, .seek (-1)],
      op.operand.natAbs < 10 ^ 19 := by decide
  exact ⟨hin, hsizes, ((run_disciplined_iff hin _).2.1 (by decide) hops).mpr hsizes⟩

/-- Minus one byte of three is two bytes, and the cursor is left in front of its buffer. -/
theorem run_bytes_of_neg :
    (run ⟨[0x61, 0x62, 0x63], 0, []⟩ [.bytes (-1)]).map (fun s => (s.answer, s.after.offset)) =
        [(.ok (.bytes [0x61, 0x62]), -1)] ∧
      ¬ ∀ s ∈ run ⟨[0x61, 0x62, 0x63], 0, []⟩ [.bytes (-1)], s.Disciplined := by
  refine ⟨rfl, fun h => ?_⟩
  have hstep := h _ List.mem_cons_self
  exact absurd hstep.inBuffer.1 (by decide)

end ArenaData.Cursor
