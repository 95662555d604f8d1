import ChatDice.Dice.Outcome
import Mathlib.Algebra.BigOperators.Group.List.Basic
import Mathlib.Algebra.Ring.Int.Defs

/-!
# Clamped sums and the order of their terms

A trial adds up its throws one by one and clamps after each of them. A sum that was clamped has lost
its excess, so what comes after it starts from the end of the range.

**Theorem (`Trial.total_perm_iff`).** The throws of a trial have the same total in every order just
if they are moderate: what is added stays in range, unless nothing is taken away, and what is taken
away stays in range, unless nothing is added.

A moderate row is either in range at every point, or it only goes up, or it only goes down. In each
case its sum is the exact one, clamped once (`sumClamped_of_moderate`), and the exact sum has no
order. In any other row two orders differ: the one with the gains first loses their excess, and the
one with the losses first keeps it.
-/

namespace ChatDice

/-! ## Gains and losses -/

/-- What a row of numbers adds. -/
def gains (ns : List Int64) : Int := (ns.map fun n => max n.toInt 0).sum

/-- What a row of numbers takes away. -/
def losses (ns : List Int64) : Int := (ns.map fun n => max (-n.toInt) 0).sum

/-- What is added stays in range, unless nothing is taken away, and the other way round. -/
structure Moderate (ns : List Int64) : Prop where
  gains_le : losses ns = 0 ∨ gains ns ≤ Int64.maxValue.toInt
  losses_le : gains ns = 0 ∨ Int64.minValue.toInt ≤ -losses ns

variable {ms ns : List Int64}

theorem gains_cons (n : Int64) (ns : List Int64) : gains (n :: ns) = max n.toInt 0 + gains ns := by
  simp [gains]

theorem losses_cons (n : Int64) (ns : List Int64) :
    losses (n :: ns) = max (-n.toInt) 0 + losses ns := by
  simp [losses]

theorem gains_append (ms ns : List Int64) : gains (ms ++ ns) = gains ms + gains ns := by
  simp [gains]

theorem losses_append (ms ns : List Int64) : losses (ms ++ ns) = losses ms + losses ns := by
  simp [losses]

theorem gains_of_perm (h : ms.Perm ns) : gains ms = gains ns := (h.map _).sum_eq

theorem losses_of_perm (h : ms.Perm ns) : losses ms = losses ns := (h.map _).sum_eq

theorem gains_nonneg (ns : List Int64) : 0 ≤ gains ns := by
  induction ns with
  | nil => exact Int.le_refl 0
  | cons n ns ih =>
    rw [gains_cons]
    omega

theorem losses_nonneg (ns : List Int64) : 0 ≤ losses ns := by
  induction ns with
  | nil => exact Int.le_refl 0
  | cons n ns ih =>
    rw [losses_cons]
    omega

theorem gains_eq_zero (h : ∀ n ∈ ns, n.toInt ≤ 0) : gains ns = 0 := by
  induction ns with
  | nil => rfl
  | cons n ns ih =>
    have hn : n.toInt ≤ 0 := h n List.mem_cons_self
    rw [gains_cons, ih fun m hm => h m (List.mem_cons_of_mem _ hm)]
    omega

theorem losses_eq_zero (h : ∀ n ∈ ns, 0 ≤ n.toInt) : losses ns = 0 := by
  induction ns with
  | nil => rfl
  | cons n ns ih =>
    have hn : 0 ≤ n.toInt := h n List.mem_cons_self
    rw [losses_cons, ih fun m hm => h m (List.mem_cons_of_mem _ hm)]
    omega

theorem Moderate.of_perm (h : Moderate ns) (perm : ms.Perm ns) : Moderate ms := by
  obtain ⟨high, low⟩ := h
  rw [← gains_of_perm perm, ← losses_of_perm perm] at high low
  exact ⟨high, low⟩

/-! ## Sums that need a single clamp -/

theorem toInt_foldl_of_fits {a : Int64} (high : a.toInt + gains ns ≤ Int64.maxValue.toInt)
    (low : Int64.minValue.toInt ≤ a.toInt - losses ns) :
    (ns.foldl addClamped a).toInt = a.toInt + (gains ns - losses ns) := by
  induction ns generalizing a with
  | nil => simp [gains, losses]
  | cons n ns ih =>
    rw [gains_cons] at high
    rw [losses_cons] at low
    have up := gains_nonneg ns
    have down := losses_nonneg ns
    -- What is still to come leaves room for this number.
    have step : (addClamped a n).toInt = a.toInt + n.toInt :=
      toInt_addClamped_of_fits (by omega) (by omega)
    rw [List.foldl_cons, ih (by rw [step]; omega) (by rw [step]; omega), step, gains_cons,
      losses_cons]
    omega

/-- On the way up, clamping once more makes no difference. -/
theorem clamp_clamp_add {m n : Int} (hm : Int64.minValue.toInt ≤ m) (hn : 0 ≤ n) :
    clamp ((clamp m).toInt + n) = clamp (m + n) := by
  rw [← Int64.toInt_inj, toInt_clamp, toInt_clamp, toInt_clamp]
  omega

theorem clamp_clamp_sub {m n : Int} (hm : m ≤ Int64.maxValue.toInt) (hn : 0 ≤ n) :
    clamp ((clamp m).toInt - n) = clamp (m - n) := by
  have ends : Int64.minValue.toInt ≤ Int64.maxValue.toInt := by decide
  rw [← Int64.toInt_inj, toInt_clamp, toInt_clamp, toInt_clamp]
  omega

theorem foldl_of_losses_eq_zero {a : Int64} (h : losses ns = 0) :
    ns.foldl addClamped a = clamp (a.toInt + gains ns) := by
  induction ns generalizing a with
  | nil => simp [gains, clamp_toInt]
  | cons n ns ih =>
    rw [losses_cons] at h
    have down := losses_nonneg ns
    have least := a.minValue_le_toInt
    have up : max n.toInt 0 = n.toInt := by omega
    rw [List.foldl_cons, ih (by omega), addClamped,
      clamp_clamp_add (by omega) (gains_nonneg ns), gains_cons, up, Int.add_assoc]

theorem foldl_of_gains_eq_zero {a : Int64} (h : gains ns = 0) :
    ns.foldl addClamped a = clamp (a.toInt - losses ns) := by
  induction ns generalizing a with
  | nil => simp [losses, clamp_toInt]
  | cons n ns ih =>
    rw [gains_cons] at h
    have up := gains_nonneg ns
    have greatest := a.toInt_le
    have down : max (-n.toInt) 0 = -n.toInt := by omega
    rw [List.foldl_cons, ih (by omega), addClamped,
      clamp_clamp_sub (by omega) (losses_nonneg ns), losses_cons, down, Int.sub_eq_add_neg,
      Int.sub_eq_add_neg, Int.neg_add, Int.neg_neg, Int.add_assoc]

/-- **A moderate row is added up exactly and clamped once.** -/
theorem sumClamped_of_moderate (h : Moderate ns) :
    sumClamped ns = clamp (gains ns - losses ns) := by
  have zero : (0 : Int64).toInt = 0 := rfl
  by_cases down : losses ns = 0
  · rw [sumClamped, foldl_of_losses_eq_zero down, down, zero, Int.zero_add, Int.sub_zero]
  · by_cases up : gains ns = 0
    · rw [sumClamped, foldl_of_gains_eq_zero up, up, zero]
    · have high := h.gains_le.resolve_left down
      have low := h.losses_le.resolve_left up
      have kept : (sumClamped ns).toInt = (0 : Int64).toInt + (gains ns - losses ns) :=
        toInt_foldl_of_fits (by omega) (by omega)
      rw [← clamp_toInt (sumClamped ns), kept, zero, Int.zero_add]

/-! ## Rows in two orders -/

theorem sumClamped_gains_first (hm : losses ms = 0) (hn : gains ns = 0) :
    sumClamped (ms ++ ns) = clamp ((clamp (gains ms)).toInt - losses ns) := by
  rw [sumClamped, List.foldl_append, foldl_of_losses_eq_zero hm, foldl_of_gains_eq_zero hn]
  simp

theorem sumClamped_losses_first (hm : losses ms = 0) (hn : gains ns = 0) :
    sumClamped (ns ++ ms) = clamp ((clamp (-losses ns)).toInt + gains ms) := by
  rw [sumClamped, List.foldl_append, foldl_of_gains_eq_zero hn, foldl_of_losses_eq_zero hm]
  simp

/-- The two orders agree on no row that is not moderate. -/
theorem moderate_of_agree (hm : losses ms = 0) (hn : gains ns = 0)
    (agree : sumClamped (ms ++ ns) = sumClamped (ns ++ ms)) : Moderate (ms ++ ns) := by
  have up := gains_nonneg ms
  have down := losses_nonneg ns
  rw [sumClamped_gains_first hm hn, sumClamped_losses_first hm hn, ← Int64.toInt_inj] at agree
  simp only [toInt_clamp, Int64.toInt_minValue, Int64.toInt_maxValue] at agree
  constructor
  · rw [losses_append, gains_append, hm, hn, Int64.toInt_maxValue]
    omega
  · rw [losses_append, gains_append, hm, hn, Int64.toInt_minValue]
    omega

/-- A row whose sum has no order is moderate. -/
theorem moderate_of_forall_perm {α : Type} {f : α → Int64} {xs : List α}
    (h : ∀ ys : List α, ys.Perm xs → sumClamped (ys.map f) = sumClamped (xs.map f)) :
    Moderate (xs.map f) := by
  -- Two orders are enough: what is added comes first, or what is taken away.
  let ups := xs.filter fun x => decide (0 ≤ (f x).toInt)
  let downs := xs.filter fun x => !decide (0 ≤ (f x).toInt)
  have noLoss : losses (ups.map f) = 0 := by
    refine losses_eq_zero fun n hn => ?_
    obtain ⟨x, hx, rfl⟩ := List.mem_map.1 hn
    exact of_decide_eq_true (List.mem_filter.1 hx).2
  have noGain : gains (downs.map f) = 0 := by
    refine gains_eq_zero fun n hn => ?_
    obtain ⟨x, hx, rfl⟩ := List.mem_map.1 hn
    have := (List.mem_filter.1 hx).2
    simp only [Bool.not_eq_true', decide_eq_false_iff_not] at this
    omega
  have upsFirst : (ups ++ downs).Perm xs := List.filter_append_perm _ xs
  have downsFirst : (downs ++ ups).Perm xs := List.perm_append_comm.trans upsFirst
  have agree := (h _ upsFirst).trans (h _ downsFirst).symm
  rw [List.map_append, List.map_append] at agree
  refine (moderate_of_agree noLoss noGain agree).of_perm ?_
  rw [← List.map_append]
  exact (upsFirst.map f).symm

/-! ## Trials -/

namespace Trial

/-- **The order of the throws matters just if they are not moderate.** -/
theorem total_perm_iff (throws : List Throw) :
    (∀ others, others.Perm throws → (dice others).total = (dice throws).total) ↔
      Moderate (throws.map Throw.total) := by
  constructor
  · intro h
    exact moderate_of_forall_perm h
  · intro moderate others perm
    have totals : (others.map Throw.total).Perm (throws.map Throw.total) := perm.map _
    show sumClamped (others.map Throw.total) = sumClamped (throws.map Throw.total)
    rw [sumClamped_of_moderate moderate, sumClamped_of_moderate (moderate.of_perm totals),
      gains_of_perm totals, losses_of_perm totals]

/-- `d1+9223372036854775806`, `d1` and `d1-2` are worth the greatest number, one and minus one.
Their sum is in range, and in one of the two orders it is missed. -/
theorem total_depends_on_order :
    let high : Throw := ⟨⟨1, { sides := 1 }, some 9223372036854775806⟩, [1]⟩
    let one : Throw := ⟨⟨1, { sides := 1 }, none⟩, [1]⟩
    let low : Throw := ⟨⟨1, { sides := 1 }, some (-2)⟩, [1]⟩
    [high, low, one].Perm [high, one, low] ∧
      (dice [high, low, one]).total = 9223372036854775807 ∧
      (dice [high, one, low]).total = 9223372036854775806 := by
  intro high one low
  exact ⟨(List.Perm.swap one low []).cons high, by decide, by decide⟩

end Trial

end ChatDice
