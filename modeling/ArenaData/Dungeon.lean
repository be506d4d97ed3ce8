import ArenaData.Text.Lines

/-!
# Dungeons

The dungeons of the main quest, each a title and a description. In the file the first line that is
not empty is the title, the lines up to one that starts with `#` are the description, and that line
ends the dungeon. What comes behind the last such line is dropped.
-/

namespace ArenaData

/-- A dungeon of the main quest. -/
structure Dungeon where
  /-- Its name. -/
  title : Text
  /-- What is told about it. -/
  description : Text
  deriving DecidableEq, Repr

namespace Dungeon

/-- What has been read: the dungeons, the last one first, and the one that is open. -/
structure Reading where
  /-- The dungeons that are complete, the last one first. -/
  done : List Dungeon
  /-- The title of the open dungeon; empty as long as it has none. -/
  title : Text
  /-- The parts of its description, the last one first. -/
  body : List Text

namespace Reading

/-- Before the first line. -/
def start : Reading := ⟨[], [], []⟩

/-- The description: its lines with their line feeds, but not the last line feed. -/
def description (r : Reading) : Text :=
  let text := r.body.reverse.flatten
  if text.getLast? = some Text.newline then text.dropLast else text

/-- One line. -/
def step (r : Reading) (line : Text) : Reading :=
  match line with
  | '#' :: _ => ⟨⟨r.title, r.description⟩ :: r.done, [], []⟩
  | _ =>
    if r.title.isEmpty then { r with title := line.erase Text.carriageReturn }
    else { r with body := Text.normalizeNewlines (line ++ [Text.newline]) :: r.body }

end Reading

/-- The dungeons of a file. -/
def parse (t : Text) : List Dungeon := (t.lines.foldl Reading.step Reading.start).done.reverse

end Dungeon

end ArenaData
