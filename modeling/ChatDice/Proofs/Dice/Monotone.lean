import ChatDice.Proofs.Dice.Sides
import Mathlib.Data.List.Forall2

/-!
# Totals go up with the dice

Two outcomes of one shape, where the first has nowhere a greater draw or a greater modifier than the
second.

**Theorem (`Outcome.Below.total_le`).** What counts in the first outcome, and its total, are at most
those of the second.

A sum that is clamped after each addition cannot be taken apart, so the two sums are followed side
by side: an addition keeps the order of what has been summed up so far (`addClamped_mono`), also
where one of the sums is clamped and the other is not.
-/

namespace ChatDice

/-! ## Rows of numbers -/

theorem foldl_addClamped_mono {ms ns : List Int64} (h : List.Forall₂ (· ≤ ·) ms ns) {a b : Int64}
    (hab : a ≤ b) : ms.foldl addClamped a ≤ ns.foldl addClamped b := by
  induction h generalizing a b with
  | nil => exact hab
  | cons hmn _ ih => exact ih (addClamped_mono hab hmn)

/-- **A sum goes up with each of its numbers.** -/
theorem sumClamped_mono {ms ns : List Int64} (h : List.Forall₂ (· ≤ ·) ms ns) :
    sumClamped ms ≤ sumClamped ns :=
  foldl_addClamped_mono h (Int64.le_refl 0)

theorem points_mono {a b : UInt32} (h : a ≤ b) : points a ≤ points b := by
  rw [Int64.le_iff_toInt_le, toInt_points, toInt_points]
  exact Int.ofNat_le.2 (UInt32.le_iff_toNat_le.1 h)

theorem Advantage.pick_mono (mode : Advantage) {a b c d : Int64} (first : a ≤ c) (replay : b ≤ d) :
    mode.pick a b ≤ mode.pick c d := by
  rw [Int64.le_iff_toInt_le] at first replay ⊢
  cases mode with
  | straight => exact first
  | advantage =>
    rw [toInt_pick_advantage, toInt_pick_advantage]
    omega
  | disadvantage =>
    rw [toInt_pick_disadvantage, toInt_pick_disadvantage]
    omega

/-! ## One outcome below another -/

/-- A throw with as many draws as another has no greater draw and no greater modifier. A modifier
that is not given counts as zero. -/
structure Throw.Below (t u : Throw) : Prop where
  draws : List.Forall₂ (· ≤ ·) t.draws u.draws
  modifier : t.spec.modifier.getD 0 ≤ u.spec.modifier.getD 0

/-- A trial of the same kind as another, and with as many throws, is nowhere greater. -/
inductive Trial.Below : Trial → Trial → Prop
  | cursed {a b : UInt32} : a ≤ b → Below (.cursed a) (.cursed b)
  | dice {throws others : List Throw} : List.Forall₂ Throw.Below throws others →
      Below (.dice throws) (.dice others)

/-- An outcome of the same shape as another is nowhere greater. -/
structure Outcome.Below (o p : Outcome) : Prop where
  advantage : o.advantage = p.advantage
  trials : List.Forall₂ Trial.Below o.trials p.trials
  modifier : o.modifier.getD 0 ≤ p.modifier.getD 0

theorem Throw.Below.sum_le {t u : Throw} (h : t.Below u) : t.sum ≤ u.sum := by
  refine sumClamped_mono ?_
  rw [List.forall₂_map_left_iff, List.forall₂_map_right_iff]
  exact h.draws.imp fun _ _ => points_mono

theorem Throw.Below.total_le {t u : Throw} (h : t.Below u) : t.total ≤ u.total :=
  addClamped_mono h.sum_le h.modifier

theorem Trial.Below.total_le {t u : Trial} (h : t.Below u) : t.total ≤ u.total := by
  cases h with
  | cursed le => exact points_mono le
  | dice throws =>
    refine sumClamped_mono ?_
    rw [List.forall₂_map_left_iff, List.forall₂_map_right_iff]
    exact throws.imp fun _ _ h => h.total_le

namespace Outcome

variable {o p : Outcome}

theorem Below.rollTotal_le (h : o.Below p) : o.rollTotal ≤ p.rollTotal := by
  obtain ⟨first, later⟩ := List.forall₂_cons.1 h.trials
  unfold rollTotal replay
  rw [h.advantage]
  generalize o.later = later₁ at later ⊢
  generalize p.later = later₂ at later ⊢
  cases later with
  | nil => exact first.total_le
  | cons replay _ => exact p.advantage.pick_mono first.total_le replay.total_le

/-- **A total goes up with each draw and each modifier.** -/
theorem Below.total_le (h : o.Below p) : o.total ≤ p.total :=
  addClamped_mono h.rollTotal_le h.modifier

end Outcome

end ChatDice
