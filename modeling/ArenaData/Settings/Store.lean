import ArenaData.Json.Value

/-!
# Stores of settings

Settings are kept as values under keys. Several profiles share a store: the keys of a profile start
with its name and a slash. There is a store for each settings file, and one for settings that have
no file of their own.
-/

namespace ArenaData

open Json (Value)

/-- Values under keys. -/
structure Store where
  /-- Each key once, with its value. -/
  values : List (Text × Value)
  deriving Inhabited

namespace Store

/-- A store without values. -/
def empty : Store := ⟨[]⟩

/-- The value under a key. -/
def get? (s : Store) (key : Text) : Option Value := s.values.lookup key

/-- The store with a value under a key. -/
def set (s : Store) (key : Text) (value : Value) : Store := ⟨Json.setField key value s.values⟩

end Store

/-- The stores by settings file. -/
structure Storage where
  /-- The stores that have been used. -/
  stores : List (Option Text × Store)

namespace Storage

/-- No store has been used. -/
def empty : Storage := ⟨[]⟩

/-- The store of a settings file. -/
def store (s : Storage) (file : Option Text) : Store := (s.stores.lookup file).getD .empty

/-- The storage with another content of one store. -/
def put (s : Storage) (file : Option Text) (store : Store) : Storage :=
  ⟨(file, store) :: s.stores.filter (·.1 != file)⟩

end Storage

end ArenaData
