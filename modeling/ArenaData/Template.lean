import ArenaData.Fault
import ArenaData.Keyed
import ArenaData.Text.Blank
import ArenaData.Text.Lines

/-!
# Template texts

The game's standard texts are kept under keys. In the file a line that starts with `#` names a key,
and the lines up to the next such line are its text. The first text of a key counts; texts under the
empty key, and lines before the first key, are dropped.

A text is cleaned before it is kept: its line ends become line feeds, those at its very end go, and
so does one `&` after that, the game's sign for a text that goes on.
-/

namespace ArenaData

/-- The template texts by key, in the order of the file. -/
abbrev TemplateTable := List (Text × Text)

namespace Template

/-- One of these at the end of a text is dropped. -/
def continuation : Char := '&'

/-- The text without the line feeds at its end. -/
def dropFinalNewlines (t : Text) : Text :=
  (t.reverse.dropWhile (· == Text.newline)).reverse

/-- The text as it is kept. -/
def clean (t : Text) : Text :=
  let t := dropFinalNewlines t.normalizeNewlines
  if t.getLast? = some continuation then t.dropLast else t

/-- A key line and the lines below it. -/
structure Block where
  /-- The key, without its mark and the blanks around it. -/
  key : Text
  /-- The lines of the text, the last one first. -/
  body : List Text

/-- The text of a block before it is cleaned: every line is followed by a line feed. -/
def Block.text (b : Block) : Text := b.body.reverse.flatMap (· ++ [Text.newline])

/-- What has been read: the blocks that are complete, and the one that is open. -/
structure Reading where
  /-- The blocks that are complete, the last one first. -/
  closed : List Block
  /-- The block that the next line belongs to, if it is no key line itself. -/
  current : Block

namespace Reading

/-- Before the first line. -/
def start : Reading := ⟨[], ⟨[], []⟩⟩

/-- The blocks once the open one is closed, the last one first. -/
def close (r : Reading) : List Block := r.current :: r.closed

/-- One line. -/
def step (r : Reading) (line : Text) : Reading :=
  match line with
  | '#' :: rest => ⟨r.close, ⟨Text.trim rest, []⟩⟩
  | _ => { r with current := { r.current with body := line :: r.current.body } }

end Reading

/-- The blocks of a file. What stands before the first key line makes up a block under the empty
key. -/
def blocks (t : Text) : List Block := (t.lines.foldl Reading.step Reading.start).close.reverse

/-- The block has a key. -/
def Block.isKeyed (b : Block) : Bool := !b.key.isEmpty

/-- The table of a file. -/
def parse (t : Text) : TemplateTable :=
  (Keyed.firsts Block.key ((blocks t).filter Block.isKeyed)).map fun b => (b.key, clean b.text)

/-- The key that a query means: blanks around it are dropped, and one key mark before it. -/
def queriedKey (query : Text) : Text :=
  match query.trim with
  | '#' :: rest => Text.trim rest
  | key => key

/-- The text that a query asks for. -/
def find (table : TemplateTable) (query : Text) : Except Fault Text :=
  match table.lookup (queriedKey query) with
  | some text => .ok text
  | none => .error (.noTemplate query)

end Template

end ArenaData
