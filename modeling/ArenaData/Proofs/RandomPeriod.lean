import ArenaData.Naming.Random
import Mathlib.Algebra.BigOperators.Ring.Nat
import Mathlib.Algebra.Ring.GeomSum
import Mathlib.Data.Int.ModEq
import Mathlib.Data.Nat.Count
import Mathlib.Data.Nat.Prime.Basic
import Mathlib.Tactic.Ring

/-!
# The period of the game's generator

From whatever seed, the state of the generator comes back after `2 ^ 32` draws and not before, so it
takes every 32-bit value once in a period, and every number that a draw can show comes up equally
often.

After `n` draws from a state `x` the state is `a ^ n * x + s` with `s = 1 + a + ... + a ^ (n - 1)`,
in 32 bits, where `a` is the multiplier. This is `x` plus `s * ((a - 1) * x + 1)`. The second factor
is odd, so the state is back iff `2 ^ 32` divides `s`. Since `a` is 1 modulo 4, a power of two
divides `s` iff it divides `n`: an odd number of powers has an odd sum, and an even number of them
splits into two halves, the second of which is `a ^ m` times the first, where `a ^ m + 1` is twice
an odd number.
-/

namespace ArenaData.ArenaRandom

open Finset (range)
open Function (iterate_succ_apply iterate_succ_apply' iterate_add_apply)

/-! ## Sums of powers -/

theorem sum_pow_double (a m : Nat) :
    ∑ i ∈ range (2 * m), a ^ i = (a ^ m + 1) * ∑ i ∈ range m, a ^ i := by
  rw [two_mul, Finset.sum_range_add]
  simp only [pow_add, ← Finset.mul_sum]
  ring

theorem odd_sum_pow {a n : Nat} (ha : Odd a) (hn : Odd n) : Odd (∑ i ∈ range n, a ^ i) := by
  have hall : (range n).filter (fun i => Odd (a ^ i)) = range n :=
    Finset.filter_true_of_mem fun i _ => ha.pow
  rw [Finset.odd_sum_iff_odd_card_odd, hall, Finset.card_range]
  exact hn

/-- A sum of powers of a number that is 1 modulo 4 has the powers of two of the number of its
terms. -/
theorem two_pow_dvd_sum_pow_iff {a : Nat} (ha : a % 4 = 1) (k n : Nat) :
    2 ^ k ∣ ∑ i ∈ range n, a ^ i ↔ 2 ^ k ∣ n := by
  have hodd : Odd a := Nat.odd_iff.mpr (by omega)
  induction k generalizing n with
  | zero => simp
  | succ k ih =>
    rcases n.even_or_odd' with ⟨m, rfl | rfl⟩
    · have hpow : a ^ m % 4 = 1 := by simp [Nat.pow_mod, ha]
      obtain ⟨b, hb, hbodd⟩ : ∃ b, a ^ m + 1 = 2 * b ∧ Odd b :=
        ⟨(a ^ m + 1) / 2, by omega, Nat.odd_iff.mpr (by omega)⟩
      have hcoprime : Nat.Coprime (2 ^ k) b := (Nat.coprime_two_left.mpr hbodd).pow_left k
      have hhalf : 2 ^ k ∣ ∑ i ∈ range m, a ^ i ↔ 2 ^ k ∣ m := ih m
      rw [sum_pow_double, hb, mul_assoc, pow_succ', Nat.mul_dvd_mul_iff_left two_pos,
        hcoprime.dvd_mul_left, hhalf, Nat.mul_dvd_mul_iff_left two_pos]
    · have hnotdvd {N : Nat} (hN : Odd N) : ¬ 2 ^ (k + 1) ∣ N := by
        intro h
        have h2 : 2 ∣ N := (dvd_pow_self 2 k.succ_ne_zero).trans h
        rw [Nat.odd_iff] at hN
        omega
      have hm : Odd (2 * m + 1) := odd_two_mul_add_one m
      exact iff_of_false (hnotdvd (odd_sum_pow hodd hm)) (hnotdvd hm)

/-! ## States -/

theorem eq_iff_toNat_value_eq {r s : ArenaRandom} : r = s ↔ r.value.toNat = s.value.toNat := by
  cases r
  cases s
  rw [mk.injEq, UInt32.toNat_inj]

theorem toNat_value_advance (r : ArenaRandom) :
    r.advance.value.toNat = (multiplier.toNat * r.value.toNat + 1) % 2 ^ 32 := by
  show (r.value * multiplier + 1).toNat = _
  rw [UInt32.toNat_add, UInt32.toNat_mul, Nat.mul_comm, UInt32.toNat_one, Nat.mod_add_mod]

/-- The state after any number of draws, in closed form. -/
theorem toNat_value_iterate (r : ArenaRandom) (n : Nat) :
    (advance^[n] r).value.toNat =
      (multiplier.toNat ^ n * r.value.toNat + ∑ i ∈ range n, multiplier.toNat ^ i) % 2 ^ 32 := by
  induction n with
  | zero =>
    have h := r.value.toNat_lt
    rw [Function.iterate_zero_apply, Finset.sum_range_zero, pow_zero, one_mul, add_zero,
      Nat.mod_eq_of_lt h]
  | succ n ih =>
    rw [iterate_succ_apply', toNat_value_advance, ih, Nat.add_mod, Nat.mul_mod_mod,
      ← Nat.add_mod, Finset.sum_range_succ', pow_zero]
    simp only [pow_succ', ← Finset.mul_sum]
    congr 1
    ring

/-- The state is back after the multiples of `2 ^ 32` draws and no others. -/
theorem iterate_advance_eq_self_iff (r : ArenaRandom) (n : Nat) :
    advance^[n] r = r ↔ 2 ^ 32 ∣ n := by
  set s := ∑ i ∈ range n, multiplier.toNat ^ i with hs
  obtain ⟨b, hb, heven⟩ : ∃ b, multiplier.toNat = b + 1 ∧ Even b := ⟨7143468, rfl, by decide⟩
  have hsum : multiplier.toNat ^ n * r.value.toNat + s =
      r.value.toNat + s * (b * r.value.toNat + 1) := by
    have hpow : multiplier.toNat ^ n = s * b + 1 := by
      rw [hs, hb]
      exact (geom_sum_mul_add b n).symm
    rw [hpow]
    ring
  have hodd : Odd (b * r.value.toNat + 1) := (heven.mul_right _).add_one
  have hcoprime : Nat.Coprime (2 ^ 32) (b * r.value.toNat + 1) :=
    (Nat.coprime_two_left.mpr hodd).pow_left 32
  have hback : (r.value.toNat + s * (b * r.value.toNat + 1)) % 2 ^ 32 = r.value.toNat ↔
      2 ^ 32 ∣ s * (b * r.value.toNat + 1) := by
    have h := r.value.toNat_lt
    omega
  rw [eq_iff_toNat_value_eq, toNat_value_iterate, ← hs, hsum, hback, hcoprime.dvd_mul_right]
  exact two_pow_dvd_sum_pow_iff (by decide) 32 n

/-! ## A whole period -/

/-- No state comes twice within a period. -/
theorem iterate_advance_injOn (r : ArenaRandom) :
    Set.InjOn (fun n => (advance^[n] r).value.toNat) (range (2 ^ 32)) := by
  have hlt : ∀ i j, i < j → j < 2 ^ 32 → advance^[i] r ≠ advance^[j] r := by
    intro i j hij hj heq
    have hback : advance^[j - i] (advance^[i] r) = advance^[i] r := by
      rw [← iterate_add_apply, Nat.sub_add_cancel hij.le, heq]
    have hdvd := (iterate_advance_eq_self_iff _ _).mp hback
    have hle := Nat.le_of_dvd (by omega) hdvd
    omega
  intro i hi j hj hij
  have heq : advance^[i] r = advance^[j] r := eq_iff_toNat_value_eq.mpr hij
  rw [Finset.coe_range, Set.mem_Iio] at hi hj
  rcases lt_trichotomy i j with h | h | h
  · exact absurd heq (hlt i j h hj)
  · exact h
  · exact absurd heq.symm (hlt j i h hi)

theorem iterate_advance_mapsTo (r : ArenaRandom) :
    Set.MapsTo (fun n => (advance^[n] r).value.toNat) (range (2 ^ 32)) (range (2 ^ 32)) := by
  intro n _
  rw [Finset.coe_range, Set.mem_Iio]
  exact (advance^[n] r).value.toNat_lt

/-- Within a period every state comes. -/
theorem iterate_advance_surjOn (r : ArenaRandom) :
    Set.SurjOn (fun n => (advance^[n] r).value.toNat) (range (2 ^ 32)) (range (2 ^ 32)) :=
  Finset.surjOn_of_injOn_of_card_le _ (iterate_advance_mapsTo r) (iterate_advance_injOn r) le_rfl

theorem existsUnique_iterate_advance (r : ArenaRandom) (value : UInt32) :
    ∃! n, n < 2 ^ 32 ∧ (advance^[n] r).value = value := by
  have hmem : value.toNat ∈ (range (2 ^ 32) : Set Nat) := by
    rw [Finset.coe_range, Set.mem_Iio]
    exact value.toNat_lt
  obtain ⟨n, hn, hvalue⟩ := iterate_advance_surjOn r hmem
  refine ⟨n, ⟨Finset.mem_range.mp hn, UInt32.toNat_inj.mp hvalue⟩, ?_⟩
  rintro m ⟨hm, rfl⟩
  exact (iterate_advance_injOn r hn (Finset.mem_coe.mpr (Finset.mem_range.mpr hm)) hvalue).symm

/-! ## Draws -/

theorem output_eq_div (r : ArenaRandom) : r.output = r.value.toNat / 65536 := by
  simp [output, UInt32.toNat_shiftRight, Nat.shiftRight_eq_div_pow]

theorem map_range_iterate_succ {α β : Type} (f : α → α) (g : α → β) (x : α) (n : Nat) :
    (List.range (n + 1)).map (fun i => g (f^[i + 1] x)) =
      g (f x) :: (List.range n).map fun i => g (f^[i + 1] (f x)) := by
  rw [List.range_succ_eq_map, List.map_cons, List.map_map]
  rfl

theorem count_map_range (f : Nat → Nat) (v n : Nat) :
    ((List.range n).map fun i => (f i : Int)).count (v : Int) = Nat.count (fun i => f i = v) n := by
  rw [List.count, List.countP_map, Nat.count]
  apply List.countP_congr
  intro i _
  simp

theorem draws_succ (n : Nat) (r : ArenaRandom) :
    draws (n + 1) r =
      ((r.advance.output : Int) :: (draws n r.advance).1, (draws n r.advance).2) := rfl

theorem snd_draws (n : Nat) (r : ArenaRandom) : (draws n r).2 = advance^[n] r := by
  induction n generalizing r with
  | zero => rfl
  | succ n ih => rw [draws_succ, ih, iterate_succ_apply]

theorem fst_draws (n : Nat) (r : ArenaRandom) :
    (draws n r).1 = (List.range n).map fun i => ((advance^[i + 1] r).output : Int) := by
  induction n generalizing r with
  | zero => rfl
  | succ n ih =>
    rw [draws_succ, ih, map_range_iterate_succ advance (fun r => (r.output : Int))]

/-- Of the states of a period, as many show one number as another. -/
theorem count_output {shown : Nat} (h : shown < 65536) (r : ArenaRandom) :
    Nat.count (fun i => (advance^[i + 1] r).output = shown) (2 ^ 32) = 65536 := by
  have hcard : (Finset.Ico (65536 * shown) (65536 * shown + 65536)).card = 65536 := by
    rw [Nat.card_Ico]
    omega
  rw [Nat.count_eq_card_filter_range, ← hcard]
  -- The draws of a period go through the states of a period from the next state on.
  refine Finset.card_nbij (fun i => (advance^[i] r.advance).value.toNat) ?_ ?_ ?_
  · intro i hi
    have hshown := (Finset.mem_filter.mp hi).2
    rw [iterate_succ_apply, output_eq_div] at hshown
    show (advance^[i] r.advance).value.toNat ∈ Finset.Ico _ _
    rw [Finset.mem_Ico]
    omega
  · intro i hi j hj
    exact iterate_advance_injOn r.advance (Finset.mem_filter.mp hi).1 (Finset.mem_filter.mp hj).1
  · intro w hw
    rw [Finset.mem_coe, Finset.mem_Ico] at hw
    have hmem : w ∈ (range (2 ^ 32) : Set Nat) := by
      rw [Finset.coe_range, Set.mem_Iio]
      omega
    obtain ⟨i, hi, hvalue⟩ := iterate_advance_surjOn r.advance hmem
    refine ⟨i, Finset.mem_coe.mpr (Finset.mem_filter.mpr ⟨hi, ?_⟩), hvalue⟩
    rw [iterate_succ_apply, output_eq_div]
    have hstate : (advance^[i] r.advance).value.toNat = w := hvalue
    omega

theorem ofSeed_congr {seed other : Int} (h : seed ≡ other [ZMOD 2 ^ 32]) :
    ofSeed seed = ofSeed other := by
  have hmod : seed % 0x100000000 = other % 0x100000000 := h
  rw [ofSeed, ofSeed, hmod]

/-- The generator has the full period. From any seed, the state is back after exactly the multiples
of `2 ^ 32` draws. From any place on, a period of `2 ^ 32` draws takes the state to every value
exactly once, and shows every number of 16 bits 65536 times. Seeds that are equal modulo `2 ^ 32`
give the same numbers and states. -/
theorem draws_full_period :
    (∀ (seed : Int) (n : Nat), (draws n (ofSeed seed)).2 = ofSeed seed ↔ 2 ^ 32 ∣ n) ∧
    (∀ (seed : Int) (start : Nat) (value : UInt32),
      ∃! n, n < 2 ^ 32 ∧ (draws n (draws start (ofSeed seed)).2).2.value = value) ∧
    (∀ (seed : Int) (start shown : Nat), shown < 65536 →
      (draws (2 ^ 32) (draws start (ofSeed seed)).2).1.count (shown : Int) = 65536) ∧
    ∀ seed other : Int, seed ≡ other [ZMOD 2 ^ 32] → ∀ n,
      draws n (ofSeed seed) = draws n (ofSeed other) := by
  refine ⟨?_, ?_, ?_, ?_⟩
  · intro seed n
    rw [snd_draws]
    exact iterate_advance_eq_self_iff (ofSeed seed) n
  · intro seed start value
    simp only [snd_draws]
    exact existsUnique_iterate_advance _ value
  · intro seed start shown h
    rw [fst_draws, count_map_range]
    exact count_output h _
  · intro seed other h n
    rw [ofSeed_congr h]

/-- The seed -1 stands for the greatest state. Half a period does not lead back to it, and from the
sixth draw on a period shows the greatest number as often as any. -/
theorem draws_of_negative_seed :
    (draws (2 ^ 31) (ofSeed (-1))).2 ≠ ofSeed (-1) ∧
      65535 < 65536 ∧
      (draws (2 ^ 32) (draws 5 (ofSeed (-1))).2).1.count ((65535 : Nat) : Int) = 65536 ∧
      -1 ≡ 4294967295 [ZMOD 2 ^ 32] ∧ ∀ n, draws n (ofSeed (-1)) = draws n (ofSeed 4294967295) := by
  obtain ⟨hback, -, hcount, hseeds⟩ := draws_full_period
  have hshown : 65535 < 65536 := by decide
  have hequal : -1 ≡ 4294967295 [ZMOD 2 ^ 32] := by decide
  refine ⟨fun h => ?_, hshown, hcount (-1) 5 65535 hshown, hequal, hseeds _ _ hequal⟩
  exact absurd ((hback (-1) (2 ^ 31)).mp h) (by decide)

end ArenaData.ArenaRandom
