import ArenaData.Json.Shown
import ArenaData.Proofs.Outcome

/-!
# Values that can be shown

A value can be shown iff it is not nested more deeply than there are steps inwards to take, and no
integer in it has too many digits (`checkShown_eq_ok_iff`). Where a value cannot be shown, the fault
is one of two (`checkShown_faults`), and neither says that something is malformed.
-/

namespace ArenaData

/-- The fault says that a value cannot be shown. -/
def Fault.Unshown (fault : Fault) : Prop := fault = .tooDeep ∨ fault = .tooManyDigits

theorem Fault.Unshown.kind_ne {fault : Fault} (h : fault.Unshown) :
    fault.kind ≠ .malformedRecord := by
  rcases h with rfl | rfl
  · exact nofun
  · exact nofun

namespace Json.Value

open Fault (Unshown)

mutual

/-- The integers in a value. -/
def integers : Value → List Int
  | int n => [n]
  | list items => itemsIntegers items
  | object fields => fieldsIntegers fields
  | _ => []

/-- The integers in the items of a list. -/
def itemsIntegers : List Value → List Int
  | [] => []
  | item :: rest => item.integers ++ itemsIntegers rest

/-- The integers in the values of an object. -/
def fieldsIntegers : List (Text × Value) → List Int
  | [] => []
  | (_, value) :: rest => value.integers ++ fieldsIntegers rest

end

/-- The value can be shown with so many steps inwards. -/
structure CanBeShown (levels : Nat) (v : Value) : Prop where
  /-- There are enough of them. -/
  depth : v.depth ≤ levels
  /-- No integer has too many digits. -/
  integers : ∀ n ∈ v.integers, Text.shows n = true

/-- The value has a text: it is one, or it can be shown. -/
def HasText (levels : Nat) (v : Value) : Prop := (∃ t, v = .text t) ∨ v.CanBeShown levels

/-- Values without others in them: only an integer can have too many digits. -/
theorem checkShown_of_flat {v : Value} (hdepth : v.depth = 1) (hintegers : v.integers = [])
    (hcheck : ∀ levels, v.checkShown (levels + 1) = .ok ()) (levels : Nat) :
    v.checkShown levels = .ok () ↔ v.depth ≤ levels ∧ ∀ n ∈ v.integers, Text.shows n = true := by
  rw [hdepth, hintegers]
  cases levels with
  | zero => simp [checkShown]
  | succ levels => simp [hcheck]

mutual

theorem checkShown_eq_ok_iff : ∀ (v : Value) (levels : Nat), v.checkShown levels = .ok () ↔
    v.depth ≤ levels ∧ ∀ n ∈ v.integers, Text.shows n = true
  | null, levels => checkShown_of_flat rfl rfl (fun _ => rfl) levels
  | bool _, levels => checkShown_of_flat rfl rfl (fun _ => rfl) levels
  | float _, levels => checkShown_of_flat rfl rfl (fun _ => rfl) levels
  | text _, levels => checkShown_of_flat rfl rfl (fun _ => rfl) levels
  | int n, 0 => by simp [checkShown, depth]
  | int n, levels + 1 => by simp [checkShown, depth, integers]
  | list items, 0 => by simp [checkShown, depth]
  | list items, levels + 1 => by
    rw [checkShown, checkItems_eq_ok_iff items levels, depth, integers, Nat.add_le_add_iff_right]
  | object fields, 0 => by simp [checkShown, depth]
  | object fields, levels + 1 => by
    rw [checkShown, checkFields_eq_ok_iff fields levels, depth, integers, Nat.add_le_add_iff_right]

theorem checkItems_eq_ok_iff : ∀ (items : List Value) (levels : Nat),
    checkItems items levels = .ok () ↔
      itemsDepth items ≤ levels ∧ ∀ n ∈ itemsIntegers items, Text.shows n = true
  | [], levels => by simp [checkItems, itemsDepth, itemsIntegers]
  | item :: rest, levels => by
    rw [checkItems, bind_eq_ok]
    simp only [checkShown_eq_ok_iff item levels, checkItems_eq_ok_iff rest levels, itemsDepth,
      itemsIntegers, Nat.max_le, List.mem_append, or_imp, forall_and, exists_const,
      and_and_and_comm]

theorem checkFields_eq_ok_iff : ∀ (fields : List (Text × Value)) (levels : Nat),
    checkFields fields levels = .ok () ↔
      fieldsDepth fields ≤ levels ∧ ∀ n ∈ fieldsIntegers fields, Text.shows n = true
  | [], levels => by simp [checkFields, fieldsDepth, fieldsIntegers]
  | (_, value) :: rest, levels => by
    rw [checkFields, bind_eq_ok]
    simp only [checkShown_eq_ok_iff value levels, checkFields_eq_ok_iff rest levels, fieldsDepth,
      fieldsIntegers, Nat.max_le, List.mem_append, or_imp, forall_and, exists_const,
      and_and_and_comm]

end

mutual

theorem checkShown_faults : ∀ (v : Value) (levels : Nat), FailsOnly Unshown (v.checkShown levels)
  | null, 0 | bool _, 0 | int _, 0 | float _, 0 | text _, 0 | list _, 0 | object _, 0 =>
    failsOnly_error.mpr (Or.inl rfl)
  | null, _ + 1 | bool _, _ + 1 | float _, _ + 1 | text _, _ + 1 => failsOnly_ok _
  | int n, _ + 1 => by
    rw [checkShown]
    split
    · exact failsOnly_ok _
    · exact failsOnly_error.mpr (Or.inr rfl)
  | list items, levels + 1 => checkItems_faults items levels
  | object fields, levels + 1 => checkFields_faults fields levels

theorem checkItems_faults : ∀ (items : List Value) (levels : Nat),
    FailsOnly Unshown (checkItems items levels)
  | [], _ => failsOnly_ok _
  | item :: rest, levels =>
    (checkShown_faults item levels).bind fun _ _ => checkItems_faults rest levels

theorem checkFields_faults : ∀ (fields : List (Text × Value)) (levels : Nat),
    FailsOnly Unshown (checkFields fields levels)
  | [], _ => failsOnly_ok _
  | (_, value) :: rest, levels =>
    (checkShown_faults value levels).bind fun _ _ => checkFields_faults rest levels

end

variable {v : Value} {levels : Nat}

theorem canBeShown_iff : v.CanBeShown levels ↔ v.checkShown levels = .ok () := by
  rw [checkShown_eq_ok_iff]
  exact ⟨fun h => ⟨h.depth, h.integers⟩, fun h => ⟨h.1, h.2⟩⟩

/-- Just the values that can be shown have a line in a message. -/
theorem shownWithin_eq_ok_iff {t : Text} :
    v.shownWithin levels = .ok t ↔ v.CanBeShown levels ∧ v.shown = t := by
  rw [shownWithin, canBeShown_iff, bind_eq_ok]
  constructor
  · rintro ⟨_, hcheck, hshown⟩
    exact ⟨hcheck, Except.ok.inj hshown⟩
  · rintro ⟨hcheck, rfl⟩
    exact ⟨(), hcheck, rfl⟩

theorem shownWithin_faults (v : Value) (levels : Nat) :
    FailsOnly Unshown (v.shownWithin levels) :=
  (checkShown_faults v levels).bind fun _ _ => failsOnly_ok _

theorem plainWithin_of_not_text (levels : Nat) (h : ∀ t, v ≠ .text t) :
    v.plainWithin levels = v.shownWithin levels ∧ v.plain = v.shown := by
  cases v with
  | text t => exact absurd rfl (h t)
  | _ => exact ⟨rfl, rfl⟩

/-- Just the values that have a text are read as one. -/
theorem plainWithin_eq_ok_iff {t : Text} :
    v.plainWithin levels = .ok t ↔ v.HasText levels ∧ v.plain = t := by
  by_cases htext : ∃ s, v = .text s
  · obtain ⟨s, rfl⟩ := htext
    simp [plainWithin, HasText, plain]
  · obtain ⟨hwithin, hplain⟩ := plainWithin_of_not_text levels (not_exists.mp htext)
    rw [hwithin, hplain, HasText, or_iff_right htext, shownWithin_eq_ok_iff]

theorem plainWithin_faults (v : Value) (levels : Nat) :
    FailsOnly Unshown (v.plainWithin levels) := by
  unfold plainWithin
  split
  · exact failsOnly_ok _
  · exact shownWithin_faults v levels

end Json.Value

end ArenaData
