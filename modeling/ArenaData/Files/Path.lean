import ArenaData.Text.Basic

/-!
# Paths

A path is a place to start from and the names on the way. Empty names and `.` are left out when a
path is read, and `..` is kept, because what it leads to depends on the files that are there. Two
slashes in front are another start than one, and three or more are the same as one.
-/

namespace ArenaData

/-- Where a path starts. -/
inductive Anchor where
  /-- At the working directory. -/
  | here
  /-- At the root. -/
  | root
  /-- At the root, written with two slashes. -/
  | doubleRoot
  deriving DecidableEq, Repr

/-- A path. -/
structure Path where
  /-- Where it starts. -/
  anchor : Anchor
  /-- The names on the way. -/
  parts : List Text
  deriving DecidableEq, Repr

namespace Path

/-- What comes between the names of a path. -/
def slash : Char := '/'

/-- The name of a directory in itself. -/
def dot : Text := ['.']

/-- The name of the directory around a directory. -/
def dotDot : Text := ['.', '.']

/-- The pieces of a text between slashes; `current` is the piece read so far, reversed. -/
def splitFrom (current : Text) : Text → List Text
  | [] => [current.reverse]
  | c :: rest =>
    if c = slash then current.reverse :: splitFrom [] rest else splitFrom (c :: current) rest

/-- Where a text that is a path starts. -/
def anchorOf (t : Text) : Anchor :=
  match (t.takeWhile (· == slash)).length with
  | 0 => .here
  | 2 => .doubleRoot
  | _ => .root

/-- The path that a text spells. -/
def ofText (t : Text) : Path where
  anchor := anchorOf t
  parts := (splitFrom [] t).filter fun part => !part.isEmpty && part != dot

/-- The slashes in front of a path. -/
def anchorText : Anchor → Text
  | .here => []
  | .root => ['/']
  | .doubleRoot => ['/', '/']

/-- The text of a path. -/
def text (p : Path) : Text :=
  match p.anchor, p.parts with
  | .here, [] => dot
  | anchor, parts => anchorText anchor ++ Text.joinWith [slash] parts

/-- The path that leads on from `p`; one that starts at the root does not depend on `p`. -/
def join (p next : Path) : Path :=
  match next.anchor with
  | .here => { p with parts := p.parts ++ next.parts }
  | _ => next

/-- The path to a name from `p`. -/
def child (p : Path) (name : Text) : Path := p.join (ofText name)

/-- The last name of a path; empty if it has none. -/
def name (p : Path) : Text := p.parts.getLast?.getD []

/-- The path without its last name. -/
def parent (p : Path) : Path := { p with parts := p.parts.dropLast }

end Path

end ArenaData
