import ArenaData.Fault
import ArenaData.Text.Digit
import ArenaData.Text.Lines

/-!
# The class quiz

The questions that suggest a character class to the player. A line of the file that starts with a
digit begins a question, and lines that start with `a`, `b` and `c` begin its three answers; any
other line continues what it stands in. Each answer says which category of classes it speaks for, by
a letter behind the first `(5` in it.
-/

namespace ArenaData

/-- The three categories of character classes. -/
inductive ClassCategory where
  /-- Classes that cast spells. -/
  | mage
  /-- Classes that live by stealth. -/
  | thief
  /-- Classes that fight. -/
  | warrior
  deriving DecidableEq, Repr

/-- The name of a category. -/
def ClassCategory.name : ClassCategory → String
  | mage => "Mage"
  | thief => "Thief"
  | warrior => "Warrior"

/-- An answer of a question. -/
structure Answer where
  /-- Its lines, each with its line feed. -/
  text : Text
  /-- The category it speaks for. -/
  category : ClassCategory
  deriving DecidableEq, Repr

/-- A question with its three answers. -/
structure Question where
  /-- The lines of the question itself, each with its line feed. -/
  description : Text
  /-- The first answer. -/
  a : Answer
  /-- The second answer. -/
  b : Answer
  /-- The third answer. -/
  c : Answer
  deriving DecidableEq, Repr

namespace Question

/-- What follows the first category marker `(5`; nothing if there is none. -/
def afterMarker? : Text → Option Text
  | '(' :: '5' :: rest => some rest
  | _ :: rest => afterMarker? rest
  | [] => none

/-- The category of a letter. -/
def categoryOf? (code : Char) : Option ClassCategory :=
  if code = 'l' then some .mage
  else if code = 'c' then some .thief
  else if code = 'v' then some .warrior
  else none

/-- The category that an answer speaks for. -/
def category (choice : Text) : Except Fault ClassCategory :=
  match afterMarker? choice with
  | some (code :: _) => match categoryOf? code with
    | some category => .ok category
    | none => .error (.unknownCategory code choice)
  | _ => .error (.noCategoryMarker choice)

/-- The part of a question that a line belongs to. -/
inductive Part where
  /-- The question itself. -/
  | description
  /-- The first answer. -/
  | a
  /-- The second answer. -/
  | b
  /-- The third answer. -/
  | c
  deriving DecidableEq, Repr

/-- The lines of a question by part, the last line first. -/
structure Draft where
  /-- The lines of the question itself. -/
  description : List Text
  /-- The lines of the first answer. -/
  a : List Text
  /-- The lines of the second answer. -/
  b : List Text
  /-- The lines of the third answer. -/
  c : List Text

namespace Draft

/-- No lines. -/
def empty : Draft := ⟨[], [], [], []⟩

/-- No part has a line. -/
def isEmpty (d : Draft) : Bool :=
  d.description.isEmpty && d.a.isEmpty && d.b.isEmpty && d.c.isEmpty

/-- A line goes to a part. -/
def add (d : Draft) (part : Part) (line : Text) : Draft :=
  match part with
  | .description => { d with description := line :: d.description }
  | .a => { d with a := line :: d.a }
  | .b => { d with b := line :: d.b }
  | .c => { d with c := line :: d.c }

/-- The text of a part: its lines in order, each with its line feed. -/
def text (lines : List Text) : Text := lines.reverse.flatMap (· ++ [Text.newline])

/-- An answer, with its category looked up. -/
def answer (lines : List Text) : Except Fault Answer := do
  let text := text lines
  let category ← category text
  pure ⟨text, category⟩

/-- The question; its answers have to name their categories. -/
def question (d : Draft) : Except Fault Question := do
  let a ← answer d.a
  let b ← answer d.b
  let c ← answer d.c
  pure ⟨text d.description, a, b, c⟩

end Draft

/-- What has been read: the questions, the last one first, and the one that is open. -/
structure Reading where
  /-- The questions that are complete, the last one first. -/
  done : List Question
  /-- The lines of the open question. -/
  draft : Draft
  /-- The part that the last line belongs to. -/
  part : Part

namespace Reading

/-- Before the first line. -/
def start : Reading := ⟨[], .empty, .description⟩

/-- A line that starts with a digit begins a question, unless the open one has no answers yet. -/
def beginQuestion (r : Reading) : Except Fault Reading :=
  match r.part with
  | .description => .ok r
  | _ => do
    let question ← r.draft.question
    pure ⟨question :: r.done, .empty, .description⟩

/-- What the first character of a line says about the part it belongs to. -/
def turn (r : Reading) (line : Text) : Except Fault Reading :=
  match line with
  | 'a' :: _ => .ok { r with part := .a }
  | 'b' :: _ => .ok { r with part := .b }
  | 'c' :: _ => .ok { r with part := .c }
  | first :: _ => if isPlainDigit first then r.beginQuestion else .ok r
  | [] => .ok r

/-- One line. -/
def step (r : Reading) (line : Text) : Except Fault Reading := do
  let r ← r.turn line
  pure { r with draft := r.draft.add r.part line }

/-- The questions once the open one is closed, if it has any line. -/
def close (r : Reading) : Except Fault (List Question) :=
  if r.draft.isEmpty then .ok r.done.reverse
  else do
    let question ← r.draft.question
    pure (question :: r.done).reverse

end Reading

/-- The questions of a file. -/
def parse (t : Text) : Except Fault (List Question) := do
  let last ← t.lines.foldlM Reading.step Reading.start
  last.close

end Question

end ArenaData
