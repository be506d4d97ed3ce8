/-!
# Phases of loading

A loader has nothing to show before its first successful load and while a load is under way.
-/

namespace ArenaData

/-- How far a loader has come. -/
inductive Phase where
  /-- Nothing has been loaded, or the last attempt failed. -/
  | uninitialized
  /-- A load is under way. -/
  | loading
  /-- The tables are there. -/
  | ready
  deriving DecidableEq, Repr

/-- The word for a phase. -/
def Phase.name : Phase → String
  | uninitialized => "uninitialized"
  | loading => "loading"
  | ready => "ready"

end ArenaData
