import ArenaData.Text.Basic
import Std.Data.TreeSet

/-!
# Items with keys

Wherever items go by names, of several items with one name one counts and the others are passed
over. Here it is the first. The names met so far are kept in a tree, so that long lists take no more
than their share of time; `firsts_eq_eraseDupsBy` says that this is the removal of later repeats.
-/

namespace ArenaData.Keyed

variable {α : Type}

/-- The items whose keys are not in `seen`, of several with one key the first. -/
def firstsFrom (key : α → Text) (seen : Std.TreeSet (List Char)) : List α → List α
  | [] => []
  | item :: rest =>
    if seen.contains (key item) then firstsFrom key seen rest
    else item :: firstsFrom key (seen.insert (key item)) rest

/-- The items in their order, of several with one key the first. -/
def firsts (key : α → Text) (items : List α) : List α := firstsFrom key ∅ items

/-- What has been seen goes at once, and later repeats go. -/
theorem firstsFrom_eq_eraseDupsBy (key : α → Text) (seen : Std.TreeSet (List Char))
    (items : List α) : firstsFrom key seen items =
      (items.filter fun item => !seen.contains (key item)).eraseDupsBy
        fun a b => key a == key b := by
  induction items generalizing seen with
  | nil => simp [firstsFrom]
  | cons item rest ih =>
    by_cases h : seen.contains (key item)
    · simp [firstsFrom, h, ih]
    · simp [firstsFrom, h, ih, List.eraseDupsBy_cons, List.filter_filter, Bool.beq_eq_decide_eq]
      simp [eq_comm]

/-- The first items of all keys are what is left when later repeats go. -/
theorem firsts_eq_eraseDupsBy (key : α → Text) (items : List α) :
    firsts key items = items.eraseDupsBy fun a b => key a == key b := by
  rw [firsts, firstsFrom_eq_eraseDupsBy, List.filter_eq_self.2 fun item _ => by simp]

end ArenaData.Keyed
