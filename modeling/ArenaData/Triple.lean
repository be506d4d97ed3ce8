/-!
# Triples

Many records of the game come in threes of one kind: the variants of a line of dialogue, the answer
counts of a quiz result, the effects of a spell.
-/

namespace ArenaData

/-- Three values of one kind. -/
structure Triple (α : Type) where
  /-- The first value. -/
  first : α
  /-- The second value. -/
  second : α
  /-- The third value. -/
  third : α
  deriving DecidableEq, Repr

namespace Triple

variable {α β : Type}

/-- The values in order. -/
def toList (t : Triple α) : List α := [t.first, t.second, t.third]

/-- The function applied to each value. -/
def map (f : α → β) (t : Triple α) : Triple β := ⟨f t.first, f t.second, f t.third⟩

/-- A list cut into triples; one or two values at its end are left out. -/
def ofList : List α → List (Triple α)
  | a :: b :: c :: rest => ⟨a, b, c⟩ :: ofList rest
  | _ => []

/-- Cutting into triples undoes putting them together. -/
theorem ofList_flatMap_toList (ts : List (Triple α)) : ofList (ts.flatMap toList) = ts := by
  induction ts with
  | nil => rfl
  | cons t ts ih => simp [toList, ofList, ih]

end Triple

end ArenaData
