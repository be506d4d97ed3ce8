import ArenaData.AssetTable.Basic

/-!
# The shared table

A process has at most one table that all of it uses. Tables are told apart by the order in which
they were loaded, so that it can be said whether two answers come from the same one.
-/

namespace ArenaData

/-- The tables that a process has loaded, and the one it shares. -/
structure SharedTables where
  /-- All tables loaded so far, the first one first. -/
  loaded : List AssetTable
  /-- The position of the shared one. -/
  current : Option Nat

namespace SharedTables

/-- No table has been loaded. -/
def empty : SharedTables := ⟨[], none⟩

/-- A further table, and its position. -/
def add (s : SharedTables) (table : AssetTable) : Nat × SharedTables :=
  (s.loaded.length, { s with loaded := s.loaded ++ [table] })

/-- The table at a position becomes the shared one. -/
def install (s : SharedTables) (position : Nat) : SharedTables :=
  { s with current := some position }

/-- No table is shared any more. -/
def reset (s : SharedTables) : SharedTables := { s with current := none }

/-- The table at a position. -/
def table? (s : SharedTables) (position : Nat) : Option AssetTable := s.loaded[position]?

/-- The shared table and its position. -/
def get (s : SharedTables) : Except Fault (Nat × AssetTable) :=
  match s.current with
  | none => .error .noSharedTable
  | some position => match s.table? position with
    | some table => .ok (position, table)
    | none => .error .noSharedTable

/-- A table loaded on its own, whatever is shared. -/
def load (s : SharedTables) (loading : Except Fault AssetTable) : Except Fault Nat × SharedTables :=
  match loading with
  | .ok table =>
    let (position, s) := s.add table
    (.ok position, s)
  | .error fault => (.error fault, s)

end SharedTables

end ArenaData
