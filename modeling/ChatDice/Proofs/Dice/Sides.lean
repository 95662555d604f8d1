import ChatDice.Proofs.Dice.ClampedSum
import ChatDice.Proofs.Dice.Recorder
import Mathlib.Algebra.GroupWithZero.Nat
import Mathlib.Algebra.Order.BigOperators.Group.List
import Mathlib.Algebra.Order.Group.Nat

/-!
# Sides of dice

A source need not give sides of the die that is rolled: a fixed row of values is given out whatever
the die. The counter and the random words do.

**Theorem (`Throw.sum_bounds`).** If every draw of a throw is a side of its die, the sum is at least
the number of draws, and at most that number times the number of sides, or the greatest number if
that is less.
-/

namespace ChatDice

variable {σ : Type} [Roller σ]

/-- The value is a side of the die. -/
def Die.Shows (die : Die) (value : UInt32) : Prop := 1 ≤ value.toNat ∧ value.toNat ≤ die.sides.toNat

instance (die : Die) (value : UInt32) : Decidable (die.Shows value) :=
  inferInstanceAs (Decidable (_ ∧ _))

/-! ## Sources that stay on the die -/

namespace Roller

/-- Whatever was rolled with the source before, the next die shows one of its sides. -/
def OnDie (s : σ) : Prop :=
  ∀ (dice : List Die) (die : Die), die.Shows (roll die (rollAll dice s).2).1

theorem onDie_of_forall (h : ∀ (die : Die) (s : σ), die.Shows (roll die s).1) (s : σ) : OnDie s :=
  fun _ die => h die _

theorem OnDie.rollAll {s : σ} (h : OnDie s) (dice : List Die) : OnDie (rollAll dice s).2 := by
  intro more die
  have both := h (dice ++ more) die
  rwa [rollAll_append] at both

theorem OnDie.exists_shows {s : σ} (h : OnDie s) (dice : List Die) :
    ∀ value ∈ (Roller.rollAll dice s).1, ∃ die ∈ dice, die.Shows value := by
  induction dice generalizing s with
  | nil =>
    intro value hv
    cases hv
  | cons die dice ih =>
    intro value hv
    rw [rollAll_cons] at hv
    rcases List.mem_cons.1 hv with rfl | hv
    · exact ⟨die, List.mem_cons_self, h [] die⟩
    · obtain ⟨other, ho, shows⟩ := ih (h.rollAll [die]) value hv
      exact ⟨other, List.mem_cons_of_mem _ ho, shows⟩

end Roller

theorem Steps.onDie (s : Steps) : Roller.OnDie s := by
  refine Roller.onDie_of_forall (fun die s => ?_) s
  have some : 0 < die.sides.toNat := UInt32.lt_iff_toNat_lt.1 die.sides_pos
  have side : s.passed % die.sides.toNat + 1 ≤ die.sides.toNat := Nat.mod_lt _ some
  have small : s.passed % die.sides.toNat + 1 < 2 ^ 32 := Nat.lt_of_le_of_lt side die.sides.toNat_lt
  show die.Shows (UInt32.ofNat (s.passed % die.sides.toNat + 1))
  rw [Die.Shows, UInt32.toNat_ofNat_of_lt' small]
  exact ⟨Nat.succ_pos _, side⟩

theorem firstFace_shows (die : Die) (words : List UInt32) :
    die.Shows (firstFace die.sides words).1 := by
  induction words with
  | nil => exact ⟨Nat.le_refl 1, UInt32.lt_iff_toNat_lt.1 die.sides_pos⟩
  | cons v rest ih =>
    rw [firstFace]
    by_cases accepted : accepts die.sides v = true
    · rw [if_pos accepted]
      exact ⟨face_pos die.sides_pos v, face_le die.sides_pos v⟩
    · rw [if_neg accepted]
      exact ih

theorem RandomWords.onDie (s : RandomWords) : Roller.OnDie s :=
  Roller.onDie_of_forall (fun die s => firstFace_shows die s.words) s

/-! ## Sums of draws -/

theorem toInt_points (value : UInt32) : (points value).toInt = value.toNat := by
  have small : value.toNat < 2 ^ 63 := Nat.lt_trans value.toNat_lt (by decide)
  exact Int64.toInt_ofNat_of_lt small

theorem gains_points (values : List UInt32) :
    gains (values.map points) = (values.map UInt32.toNat).sum := by
  induction values with
  | nil => rfl
  | cons value rest ih =>
    rw [List.map_cons, List.map_cons, List.sum_cons, gains_cons, toInt_points, ih]
    omega

namespace Throw

/-- Draws are added up exactly, as far as the range goes. -/
theorem toInt_sum (t : Throw) :
    t.sum.toInt = min ((t.draws.map UInt32.toNat).sum : Int) Int64.maxValue.toInt := by
  have noLoss : losses (t.draws.map points) = 0 := by
    refine losses_eq_zero fun n hn => ?_
    obtain ⟨value, -, rfl⟩ := List.mem_map.1 hn
    rw [toInt_points]
    exact Int.natCast_nonneg _
  have zero : (0 : Int64).toInt = 0 := rfl
  rw [sum, sumClamped, foldl_of_losses_eq_zero noLoss, toInt_clamp, gains_points, zero,
    Int.zero_add, Int64.toInt_minValue, Int64.toInt_maxValue]
  omega

/-- **A sum between one and all sides for each draw.** -/
theorem sum_bounds {t : Throw} {n : UInt32} (count : t.draws.length = n.toNat)
    (shows : ∀ value ∈ t.draws, t.spec.die.Shows value) :
    (n.toNat : Int) ≤ t.sum.toInt ∧
      t.sum.toInt ≤ min ((n.toNat * t.spec.die.sides.toNat : Nat) : Int) Int64.maxValue.toInt := by
  have low : ∀ value ∈ t.draws.map UInt32.toNat, 1 ≤ value := by
    intro value hv
    obtain ⟨draw, hd, rfl⟩ := List.mem_map.1 hv
    exact (shows draw hd).1
  have high : ∀ value ∈ t.draws.map UInt32.toNat, value ≤ t.spec.die.sides.toNat := by
    intro value hv
    obtain ⟨draw, hd, rfl⟩ := List.mem_map.1 hv
    exact (shows draw hd).2
  have least := List.card_nsmul_le_sum _ _ low
  have most := List.sum_le_card_nsmul _ _ high
  simp only [List.length_map, count, Nat.nsmul_eq_mul, Nat.mul_one] at least most
  have fits : n.toNat < 2 ^ 32 := n.toNat_lt
  rw [toInt_sum, Int64.toInt_maxValue]
  omega

end Throw

end ChatDice
