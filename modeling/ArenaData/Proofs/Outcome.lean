import ArenaData.Fault
import Mathlib.Algebra.Group.Nat.Defs
import Mathlib.Data.List.Forall2

/-!
# Outcomes

A reader is a chain of steps that may fail. Such a chain succeeds iff every step does, so a
successful run is peeled apart step by step with `bind_eq_ok`, and a list of runs with
`mapM_eq_ok`. What a caller sees of a failure is its family, which is what `Fails` speaks of.
`FailsOnly` bounds the faults of a chain by those of its steps, and `AgreeUpTo` compares two chains.

A fault whose message shows a number is reported as what it is only if the number can be shown. The
numbers that the game's files bring with them are far below that bound (`Text.shows_of_lt`).
-/

namespace ArenaData

variable {α β : Type}

/-! ## Faults that are reported -/

/-- Numbers of up to twenty digits can be shown, which are those of 64 bits among others. -/
theorem Text.shows_of_lt {n : Int} (h : n.natAbs < 10 ^ 20) : shows n = true := by
  have hbound (digits : Nat) (hdigits : 20 ≤ digits) : 10 ^ 20 ≤ Nat.pow 10 digits :=
    Nat.pow_le_pow_right (by decide) hdigits
  rw [shows, decide_eq_true_eq]
  exact Nat.lt_of_lt_of_le h (hbound maxDigits (by decide))

/-- The least number with too many digits. -/
def Text.leastUnshown : Int := Int.ofNat (Nat.pow 10 maxDigits)

namespace Fault

variable {fault : Fault}

theorem hasMessage_iff : fault.hasMessage = true ↔ ∀ n ∈ fault.numbers, Text.shows n = true :=
  List.all_eq_true

theorem reported_of_hasMessage (h : fault.hasMessage = true) : fault.reported = fault := if_pos h

theorem reported_of_not_hasMessage (h : ¬ fault.hasMessage = true) :
    fault.reported = tooManyDigits := if_neg h

/-- A fault keeps its family where it is reported iff every number of its message can be shown. -/
theorem kind_reported_eq_iff {kind : Kind} (hkind : fault.kind = kind) (hne : kind ≠ .badValue) :
    fault.reported.kind = kind ↔ fault.hasMessage = true := by
  by_cases h : fault.hasMessage = true
  · rw [reported_of_hasMessage h]
    exact iff_of_true hkind h
  · rw [reported_of_not_hasMessage h]
    exact iff_of_false hne.symm h

end Fault

/-! ## Chains of steps -/

/-- The computation fails, with a fault of the given family. -/
def Fails (kind : Fault.Kind) (r : Except Fault α) : Prop :=
  ∃ fault, r = .error fault ∧ fault.kind = kind

theorem Fails.ne_ok {kind : Fault.Kind} {r : Except Fault α} (h : Fails kind r) (a : α) :
    r ≠ .ok a := by
  obtain ⟨fault, rfl, _⟩ := h
  simp

theorem fails_error {kind : Fault.Kind} {fault : Fault} :
    Fails kind (.error fault : Except Fault α) ↔ fault.kind = kind := by
  simp [Fails]

@[simp]
theorem not_fails_ok {kind : Fault.Kind} {a : α} : ¬ Fails kind (.ok a : Except Fault α) := by
  simp [Fails]

@[simp]
theorem ok_bind (a : α) (f : α → Except Fault β) : (Except.ok a >>= f) = f a := rfl

@[simp]
theorem error_bind (fault : Fault) (f : α → Except Fault β) :
    ((Except.error fault : Except Fault α) >>= f) = .error fault := rfl

theorem error_ne_ok {fault : Fault} {a : α} : (Except.error fault : Except Fault α) ≠ .ok a := by
  simp

theorem ok_ne_error {a : α} {fault : Fault} : (Except.ok a : Except Fault α) ≠ .error fault := by
  simp

/-- Two steps succeed iff the first does and the second does on its result. -/
theorem bind_eq_ok {x : Except Fault α} {f : α → Except Fault β} {b : β} :
    x >>= f = .ok b ↔ ∃ a, x = .ok a ∧ f a = .ok b := by
  cases x with
  | error fault => simp
  | ok a => simp

/-- Two steps fail iff the first does or the second does on its result. -/
theorem bind_eq_error {x : Except Fault α} {f : α → Except Fault β} {fault : Fault} :
    x >>= f = .error fault ↔ x = .error fault ∨ ∃ a, x = .ok a ∧ f a = .error fault := by
  cases x with
  | error fault' => simp
  | ok a => simp

/-- A failure of the first step is the failure of both. -/
theorem Fails.bind {kind : Fault.Kind} {x : Except Fault α} (h : Fails kind x)
    (f : α → Except Fault β) : Fails kind (x >>= f) := by
  obtain ⟨fault, rfl, hk⟩ := h
  exact ⟨fault, rfl, hk⟩

/-- A step that is run on every item of a list succeeds iff it does on each of them. -/
theorem mapM_eq_ok {f : α → Except Fault β} {xs : List α} {ys : List β} :
    xs.mapM f = .ok ys ↔ List.Forall₂ (fun x y => f x = .ok y) xs ys := by
  induction xs generalizing ys with
  | nil =>
    rw [List.mapM_nil, List.forall₂_nil_left_iff]
    exact ⟨fun h => (Except.ok.inj h).symm, fun h => h ▸ rfl⟩
  | cons x xs ih =>
    rw [List.mapM_cons, bind_eq_ok, List.forall₂_cons_left_iff]
    constructor
    · rintro ⟨y, hy, h⟩
      obtain ⟨zs, hzs, h⟩ := bind_eq_ok.mp h
      exact ⟨y, zs, hy, ih.mp hzs, (Except.ok.inj h).symm⟩
    · rintro ⟨y, zs, hy, hzs, rfl⟩
      exact ⟨y, hy, bind_eq_ok.mpr ⟨zs, ih.mpr hzs, rfl⟩⟩

theorem exists_mapM_eq_ok_iff {f : α → Except Fault β} {xs : List α} :
    (∃ ys, xs.mapM f = .ok ys) ↔ ∀ x ∈ xs, ∃ y, f x = .ok y := by
  simp only [mapM_eq_ok]
  induction xs with
  | nil => simp
  | cons x xs ih => simp [List.forall₂_cons_left_iff, ← ih]

/-- What fails in one way only succeeds where it does not fail. -/
theorem exists_ok_iff_of_error {x : Except Fault α} {P : Prop} {refusal : Fault}
    (h : ∀ fault, x = .error fault ↔ ¬ P ∧ fault = refusal) : (∃ a, x = .ok a) ↔ P := by
  cases x with
  | ok a =>
    refine iff_of_true ⟨a, rfl⟩ (not_not.mp fun hnot => ?_)
    exact ok_ne_error ((h refusal).mpr ⟨hnot, rfl⟩)
  | error fault => exact iff_of_false (fun ⟨_, ha⟩ => error_ne_ok ha) ((h fault).mp rfl).1

/-- The first item with a property is the head of the list, or it comes behind the head. -/
theorem exists_first_cons_iff {before here : α → Prop} {x : α} {xs : List α} :
    (∃ front y rest, x :: xs = front ++ y :: rest ∧ (∀ z ∈ front, before z) ∧ here y) ↔
      here x ∨ before x ∧
        ∃ front y rest, xs = front ++ y :: rest ∧ (∀ z ∈ front, before z) ∧ here y := by
  constructor
  · rintro ⟨front, y, rest, hxs, hfront, hy⟩
    cases front with
    | nil =>
      obtain ⟨rfl, rfl⟩ := List.cons.inj hxs
      exact Or.inl hy
    | cons w front =>
      obtain ⟨rfl, rfl⟩ := List.cons.inj hxs
      obtain ⟨hw, hfront⟩ := List.forall_mem_cons.mp hfront
      exact Or.inr ⟨hw, front, y, rest, rfl, hfront, hy⟩
  · rintro (hx | ⟨hx, front, y, rest, rfl, hfront, hy⟩)
    · exact ⟨[], x, xs, rfl, by simp, hx⟩
    · exact ⟨x :: front, y, rest, rfl, List.forall_mem_cons.mpr ⟨hx, hfront⟩, hy⟩

/-- A step that is run on every item of a list fails with the fault of the first item on which it
fails. -/
theorem mapM_eq_error {f : α → Except Fault β} {xs : List α} {fault : Fault} :
    xs.mapM f = .error fault ↔ ∃ front x rest, xs = front ++ x :: rest ∧
      (∀ y ∈ front, ∃ z, f y = .ok z) ∧ f x = .error fault := by
  induction xs with
  | nil =>
    refine iff_of_false ok_ne_error ?_
    rintro ⟨front, x, rest, h, -⟩
    simp at h
  | cons x xs ih =>
    rw [exists_first_cons_iff, ← ih, List.mapM_cons, bind_eq_error]
    refine or_congr_right ⟨?_, ?_⟩
    · rintro ⟨z, hz, h⟩
      rcases bind_eq_error.mp h with h | ⟨_, _, h⟩
      · exact ⟨⟨z, hz⟩, h⟩
      · cases h
    · rintro ⟨⟨z, hz⟩, h⟩
      exact ⟨z, hz, bind_eq_error.mpr (Or.inl h)⟩

/-- A step that is run on all numbers below a bound fails on the least one on which it fails. -/
theorem mapM_range_eq_error {f : Nat → Except Fault α} {n : Nat} {fault : Fault} :
    (List.range n).mapM f = .error fault ↔
      ∃ i < n, (∀ j < i, ∃ x, f j = .ok x) ∧ f i = .error fault := by
  rw [mapM_eq_error]
  constructor
  · rintro ⟨front, i, rest, hrange, hfront, hi⟩
    rw [List.range_eq_range'] at hrange
    obtain ⟨k, hk, rfl, hrest⟩ := List.range'_eq_append_iff.mp hrange
    obtain ⟨hki, hpos, -⟩ := List.range'_eq_cons_iff.mp hrest.symm
    obtain rfl : k = i := by omega
    refine ⟨k, by omega, fun j hj => hfront j ?_, hi⟩
    rwa [← List.range_eq_range', List.mem_range]
  · rintro ⟨i, hi, hfront, hfault⟩
    have hcut : List.range n = List.range i ++ i :: List.range' (i + 1) (n - i - 1) := by
      rw [List.range_eq_range', List.range_eq_range']
      refine List.range'_eq_append_iff.mpr ⟨i, Nat.le_of_lt hi, rfl, ?_⟩
      exact (List.range'_eq_cons_iff.mpr ⟨by omega, by omega, rfl⟩).symm
    exact ⟨_, i, _, hcut, fun j hj => hfront j (List.mem_range.mp hj), hfault⟩

section Inverse

variable {f : α → Except Fault β} {g : β → α} (h : ∀ x y, f x = .ok y ↔ x = g y) {xs : List α}

include h

/-- A step that only undoes `g` undoes it on every item of a list. -/
theorem mapM_eq_ok_of_inverse {ys : List β} : xs.mapM f = .ok ys ↔ xs = ys.map g := by
  rw [mapM_eq_ok, ← List.forall₂_eq_eq_eq, List.forall₂_map_right_iff]
  simp only [h]

end Inverse

theorem exists_bind_unit_iff {x : Except Fault α} :
    (∃ u : Unit, (x >>= fun _ => pure ()) = .ok u) ↔ ∃ a, x = .ok a := by
  cases x with
  | error fault => simp
  | ok a => exact iff_of_true ⟨(), rfl⟩ ⟨a, rfl⟩

theorem bind_unit_eq_error_iff {x : Except Fault α} {fault : Fault} :
    (x >>= fun _ => pure () : Except Fault Unit) = .error fault ↔ x = .error fault := by
  cases x with
  | error fault' => simp
  | ok a => exact iff_of_false ok_ne_error ok_ne_error

/-- Computations that do the same but for their results fail alike. -/
theorem eq_error_iff_of_bind_unit {x : Except Fault α} {y : Except Fault β} {fault : Fault}
    (h : (x >>= fun _ => pure ()) = (y >>= fun _ => pure () : Except Fault Unit)) :
    x = .error fault ↔ y = .error fault := by
  rw [← bind_unit_eq_error_iff, h, bind_unit_eq_error_iff]

/-- Checks of all items of a list pass iff each of them does. -/
theorem forM_eq_ok_iff {f : α → Except Fault Unit} {xs : List α} :
    xs.forM f = .ok () ↔ ∀ x ∈ xs, f x = .ok () := by
  induction xs with
  | nil => exact iff_of_true rfl (by simp)
  | cons x xs ih =>
    rw [List.forM_eq_forM, List.forM_cons, bind_eq_ok, List.forall_mem_cons, ← ih]
    exact ⟨fun ⟨_, hx, hxs⟩ => ⟨hx, hxs⟩, fun ⟨hx, hxs⟩ => ⟨(), hx, hxs⟩⟩

/-! ## The faults that are possible -/

/-- Whatever fault the computation ends with, if any, has the property. -/
def FailsOnly (P : Fault → Prop) (r : Except Fault α) : Prop := ∀ fault, r = .error fault → P fault

variable {P : Fault → Prop}

theorem failsOnly_ok (a : α) : FailsOnly P (.ok a) := fun _ h => nomatch h

theorem failsOnly_error {fault : Fault} : FailsOnly P (.error fault : Except Fault α) ↔ P fault :=
  ⟨fun h => h fault rfl, fun h _ e => Except.error.inj e ▸ h⟩

theorem FailsOnly.bind {x : Except Fault α} {f : α → Except Fault β} (hx : FailsOnly P x)
    (hf : ∀ a, x = .ok a → FailsOnly P (f a)) : FailsOnly P (x >>= f) := by
  cases x with
  | error fault => exact failsOnly_error.mpr (hx fault rfl)
  | ok a => exact hf a rfl

theorem FailsOnly.mapM {f : α → Except Fault β} {xs : List α}
    (h : ∀ x ∈ xs, FailsOnly P (f x)) : FailsOnly P (xs.mapM f) := by
  induction xs with
  | nil => exact failsOnly_ok []
  | cons x xs ih =>
    rw [List.mapM_cons]
    refine (h x List.mem_cons_self).bind fun y _ => ?_
    refine (ih fun x hx => h x (List.mem_cons_of_mem _ hx)).bind fun ys _ => ?_
    exact failsOnly_ok (y :: ys)

theorem FailsOnly.forM {f : α → Except Fault Unit} {xs : List α}
    (h : ∀ x ∈ xs, FailsOnly P (f x)) : FailsOnly P (xs.forM f) := by
  induction xs with
  | nil => exact failsOnly_ok ()
  | cons x xs ih =>
    rw [List.forM_eq_forM, List.forM_cons]
    refine (h x List.mem_cons_self).bind fun _ _ => ?_
    exact ih fun x hx => h x (List.mem_cons_of_mem _ hx)

theorem FailsOnly.foldlM {f : β → α → Except Fault β} {xs : List α} {b : β}
    (h : ∀ b, ∀ x ∈ xs, FailsOnly P (f b x)) : FailsOnly P (xs.foldlM f b) := by
  induction xs generalizing b with
  | nil => exact failsOnly_ok b
  | cons x xs ih =>
    rw [List.foldlM_cons]
    refine (h b x List.mem_cons_self).bind fun c _ => ?_
    exact ih fun b x hx => h b x (List.mem_cons_of_mem _ hx)

theorem FailsOnly.imp {Q : Fault → Prop} {r : Except Fault α} (h : FailsOnly P r)
    (himp : ∀ fault, P fault → Q fault) : FailsOnly Q r :=
  fun fault hr => himp fault (h fault hr)

/-- The computation ends with a fault that has the property. -/
def FailsWith (P : Fault → Prop) (r : Except Fault α) : Prop := ∃ fault, r = .error fault ∧ P fault

theorem not_failsWith_ok (a : α) : ¬ FailsWith P (.ok a : Except Fault α) :=
  fun ⟨_, h, _⟩ => ok_ne_error h

theorem failsWith_error {fault : Fault} :
    FailsWith P (.error fault : Except Fault α) ↔ P fault := by
  simp [FailsWith]

theorem failsWith_bind_iff {x : Except Fault α} {f : α → Except Fault β} :
    FailsWith P (x >>= f) ↔ FailsWith P x ∨ ∃ a, x = .ok a ∧ FailsWith P (f a) := by
  cases x with
  | error fault => simp [failsWith_error]
  | ok a => simp [not_failsWith_ok]

/-- The fault of a list of runs is that of the first run that fails. -/
theorem failsWith_mapM_iff {f : α → Except Fault β} {xs : List α} :
    FailsWith P (xs.mapM f) ↔ ∃ front x rest, xs = front ++ x :: rest ∧
      (∀ y ∈ front, ∃ z, f y = .ok z) ∧ FailsWith P (f x) := by
  constructor
  · rintro ⟨fault, hxs, hfault⟩
    obtain ⟨front, x, rest, rfl, hfront, hx⟩ := mapM_eq_error.mp hxs
    exact ⟨front, x, rest, rfl, hfront, fault, hx, hfault⟩
  · rintro ⟨front, x, rest, rfl, hfront, fault, hx, hfault⟩
    exact ⟨fault, mapM_eq_error.mpr ⟨front, x, rest, rfl, hfront, hx⟩, hfault⟩

/-- If the step only undoes `g`, what stands in front of that run is what `g` makes. -/
theorem failsWith_mapM_iff_of_inverse {f : α → Except Fault β} {g : β → α}
    (h : ∀ x y, f x = .ok y ↔ x = g y) {xs : List α} :
    FailsWith P (xs.mapM f) ↔ ∃ (ys : List β) (x : α) (rest : List α),
      xs = ys.map g ++ x :: rest ∧ FailsWith P (f x) := by
  rw [failsWith_mapM_iff]
  constructor
  · rintro ⟨front, x, rest, rfl, hfront, hx⟩
    obtain ⟨ys, hys⟩ := exists_mapM_eq_ok_iff.mpr hfront
    obtain rfl := (mapM_eq_ok_of_inverse h).mp hys
    exact ⟨ys, x, rest, rfl, hx⟩
  · rintro ⟨ys, x, rest, rfl, hx⟩
    have hys := (mapM_eq_ok_of_inverse h).mpr (Eq.refl (ys.map g))
    exact ⟨ys.map g, x, rest, rfl, exists_mapM_eq_ok_iff.mp ⟨ys, hys⟩, hx⟩

theorem failsWith_bind_unit_iff {x : Except Fault α} :
    FailsWith P (x >>= fun _ => pure () : Except Fault Unit) ↔ FailsWith P x := by
  simp only [FailsWith, bind_unit_eq_error_iff]

/-- A computation whose faults all have the property fails with it just where it gives nothing. -/
theorem FailsOnly.failsWith_iff {r : Except Fault α} (h : FailsOnly P r) :
    FailsWith P r ↔ ¬ ∃ a, r = .ok a := by
  cases r with
  | ok a => simp [not_failsWith_ok]
  | error fault => exact iff_of_true (failsWith_error.mpr (h fault rfl)) (by simp)

/-- Where every fault is of one family, the computation fails with it or succeeds. -/
theorem FailsOnly.fails_iff {kind : Fault.Kind} {r : Except Fault α}
    (h : FailsOnly (fun fault => fault.kind = kind) r) : Fails kind r ↔ ¬ ∃ a, r = .ok a :=
  h.failsWith_iff

/-! ## Outcomes that are the same but for their faults -/

/-- The outcomes are one value, or two faults that `F` relates. -/
def AgreeUpTo (F : Fault → Fault → Prop) : Except Fault α → Except Fault α → Prop
  | .ok a, .ok b => a = b
  | .error f, .error g => F f g
  | _, _ => False

theorem agreeUpTo_eq_iff {x y : Except Fault α} : AgreeUpTo Eq x y ↔ x = y := by
  cases x with
  | ok a => cases y with
    | ok b => exact ⟨congrArg Except.ok, Except.ok.inj⟩
    | error g => exact ⟨False.elim, fun h => nomatch h⟩
  | error f => cases y with
    | ok b => exact ⟨False.elim, fun h => nomatch h⟩
    | error g => exact ⟨congrArg Except.error, Except.error.inj⟩

theorem AgreeUpTo.eq_ok {F : Fault → Fault → Prop} {x : Except Fault α} {b : α}
    (h : AgreeUpTo F x (.ok b)) : x = .ok b := by
  cases x with
  | ok a => exact congrArg Except.ok h
  | error fault => exact h.elim

theorem agreeUpTo_self_iff {F : Fault → Fault → Prop} {x : Except Fault α} :
    AgreeUpTo F x x ↔ FailsOnly (fun fault => F fault fault) x := by
  cases x with
  | ok a => exact iff_of_true rfl (failsOnly_ok a)
  | error fault => exact ⟨fun h => failsOnly_error.mpr h, fun h => h fault rfl⟩

end ArenaData
