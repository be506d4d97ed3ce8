import ArenaData.Text.Basic

/-!
# Lines

A line ends at a line feed and nowhere else, so a carriage return belongs to the line it stands in.
A line feed at the very end of a text closes the last line and opens no further one.

`normalizeNewlines` turns the three conventions (line feed, carriage return, both) into one.
-/

namespace ArenaData.Text

/-- The line feed, which ends a line. -/
def newline : Char := '\n'

/-- The carriage return, which does not. -/
def carriageReturn : Char := '\r'

/-- One pass over the characters: `current` holds the line read so far and `done` the lines before
it, both reversed. -/
def linesFrom (done : List Text) (current : Text) : Text → List Text
  | [] => if current.isEmpty then done.reverse else (current.reverse :: done).reverse
  | c :: rest =>
    if c = newline then linesFrom (current.reverse :: done) [] rest
    else linesFrom done (c :: current) rest

/-- The lines of a text, without the line feeds that end them. -/
def lines (t : Text) : List Text := linesFrom [] [] t

/-- The text with every carriage return, and every pair of carriage return and line feed, turned
into one line feed. -/
def normalizeNewlines : Text → Text
  | '\r' :: '\n' :: rest => '\n' :: normalizeNewlines rest
  | '\r' :: rest => '\n' :: normalizeNewlines rest
  | c :: rest => c :: normalizeNewlines rest
  | [] => []

end ArenaData.Text
