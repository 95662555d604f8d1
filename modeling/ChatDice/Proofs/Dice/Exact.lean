import ChatDice.Proofs.Dice.Sides

/-!
# Exact totals

Every sum of points is clamped after each addition, so that a sum can lose points on the way even
where it is in range itself. How large the numbers are without their signs says when none is lost.

**Theorem (`Outcome.exact_of_small`).** If, in each trial, the draws, the sizes of the modifiers and
the size of the bare modifier add up to a number in range, every sum and every total of the outcome
is the exact one, and the bare modifier is added once.

The size of a row of numbers is what it adds and what it takes away together, so that no part of the
row leaves the range if the size is in it (`toInt_sumClamped_of_size`). The bound is then handed
down: the total of a throw is not larger than the draws and the modifier of the throw
(`Throw.natAbs_total_le`), so the row of the totals is not larger than those of all its throws.
-/

namespace ChatDice

/-! ## Rows of numbers -/

/-- How large the numbers of a row are together, without their signs. -/
def size (ns : List Int64) : Nat := (ns.map fun n => n.toInt.natAbs).sum

@[simp] theorem size_cons (n : Int64) (ns : List Int64) :
    size (n :: ns) = n.toInt.natAbs + size ns := by
  simp [size]

theorem size_append (ms ns : List Int64) : size (ms ++ ns) = size ms + size ns := by
  simp [size]

theorem gains_add_losses (ns : List Int64) : gains ns + losses ns = size ns := by
  induction ns with
  | nil => rfl
  | cons n ns ih =>
    rw [gains_cons, losses_cons, size_cons]
    omega

theorem gains_sub_losses (ns : List Int64) : gains ns - losses ns = (ns.map Int64.toInt).sum := by
  induction ns with
  | nil => rfl
  | cons n ns ih =>
    rw [gains_cons, losses_cons, List.map_cons, List.sum_cons]
    omega

theorem natAbs_sum_le (ns : List Int64) : (ns.map Int64.toInt).sum.natAbs ≤ size ns := by
  have whole := gains_add_losses ns
  have up := gains_nonneg ns
  have down := losses_nonneg ns
  rw [← gains_sub_losses]
  omega

/-- **A row whose size is in range is added up exactly.** -/
theorem toInt_sumClamped_of_size {ns : List Int64}
    (small : (size ns : Int) ≤ Int64.maxValue.toInt) :
    (sumClamped ns).toInt = (ns.map Int64.toInt).sum := by
  have whole := gains_add_losses ns
  have up := gains_nonneg ns
  have down := losses_nonneg ns
  have zero : (0 : Int64).toInt = 0 := rfl
  have kept : (sumClamped ns).toInt = (0 : Int64).toInt + (gains ns - losses ns) := by
    rw [Int64.toInt_maxValue] at small
    refine toInt_foldl_of_fits ?_ ?_
    · rw [zero, Int64.toInt_maxValue]
      omega
    · rw [zero, Int64.toInt_minValue]
      omega
  rw [kept, zero, Int.zero_add, gains_sub_losses]

theorem toInt_addClamped_of_natAbs {a b : Int64}
    (small : ((a.toInt.natAbs + b.toInt.natAbs : Nat) : Int) ≤ Int64.maxValue.toInt) :
    (addClamped a b).toInt = a.toInt + b.toInt := by
  rw [Int64.toInt_maxValue] at small
  refine toInt_addClamped_of_fits ?_ ?_
  · rw [Int64.toInt_minValue]
    omega
  · rw [Int64.toInt_maxValue]
    omega

/-! ## Throws -/

namespace Throw

/-- What the draws add up to. -/
def drawn (t : Throw) : Nat := (t.draws.map UInt32.toNat).sum

/-- What is added to the draws. -/
def added (t : Throw) : Int := (t.spec.modifier.getD 0).toInt

/-- The draws and the modifier without its sign. -/
def size (t : Throw) : Nat := t.drawn + t.added.natAbs

variable {t : Throw}

theorem toInt_sum_of_small (small : (t.size : Int) ≤ Int64.maxValue.toInt) :
    t.sum.toInt = t.drawn := by
  have part : t.drawn ≤ t.size := Nat.le_add_right _ _
  rw [toInt_sum, ← drawn]
  omega

theorem toInt_total_of_small (small : (t.size : Int) ≤ Int64.maxValue.toInt) :
    t.total.toInt = t.drawn + t.added := by
  have sum := toInt_sum_of_small small
  rw [total, toInt_addClamped_of_natAbs, sum, ← added]
  rw [sum, Int.natAbs_natCast, ← added]
  exact small

/-- Exact or not, a total is not larger than the draws and the modifier. -/
theorem natAbs_total_le (t : Throw) : t.total.toInt.natAbs ≤ t.size := by
  have sum := t.toInt_sum
  rw [← drawn, Int64.toInt_maxValue] at sum
  rw [total, toInt_addClamped, ← added, Int64.toInt_maxValue, Int64.toInt_minValue, size]
  omega

end Throw

/-! ## Trials -/

namespace Trial

/-- The modifiers of the dice expressions that have one. -/
def modifiers : Trial → List Int64
  | cursed _ => []
  | dice throws => throws.flatMap fun t => t.spec.modifier.toList

/-- The exact value of a trial: all its draws and all its modifiers. -/
def exact (t : Trial) : Int :=
  (t.draws.map UInt32.toNat).sum + (t.modifiers.map Int64.toInt).sum

/-- All draws and all modifiers of a trial without their signs. -/
def size (t : Trial) : Nat := (t.draws.map UInt32.toNat).sum + ChatDice.size t.modifiers

theorem exact_cons (t : Throw) (throws : List Throw) :
    (dice (t :: throws)).exact = t.drawn + t.added + (dice throws).exact := by
  have added : (t.spec.modifier.toList.map Int64.toInt).sum = t.added := by
    unfold Throw.added
    cases t.spec.modifier <;> simp
  simp only [exact, draws, modifiers, List.flatMap_cons, List.map_append, List.sum_append, added,
    Throw.drawn]
  omega

theorem size_cons (t : Throw) (throws : List Throw) :
    (dice (t :: throws)).size = t.size + (dice throws).size := by
  have added : ChatDice.size t.spec.modifier.toList = t.added.natAbs := by
    unfold Throw.added
    cases t.spec.modifier <;> simp [ChatDice.size]
  simp only [size, draws, modifiers, List.flatMap_cons, List.map_append, List.sum_append,
    size_append, added, Throw.size, Throw.drawn]
  omega

theorem size_le_of_mem {throws : List Throw} {t : Throw} (h : t ∈ throws) :
    t.size ≤ (dice throws).size := by
  induction throws with
  | nil => cases h
  | cons t' throws ih =>
    rw [size_cons]
    rcases List.mem_cons.1 h with rfl | h
    · exact Nat.le_add_right _ _
    · exact (ih h).trans (Nat.le_add_left _ _)

/-- The totals of the throws are not larger together than the trial is. -/
theorem size_map_total_le (throws : List Throw) :
    ChatDice.size (throws.map Throw.total) ≤ (dice throws).size := by
  induction throws with
  | nil => exact Nat.le_refl 0
  | cons t throws ih =>
    rw [List.map_cons, ChatDice.size_cons, size_cons]
    exact Nat.add_le_add t.natAbs_total_le ih

theorem exact_eq_sum {throws : List Throw}
    (small : ∀ t ∈ throws, t.total.toInt = t.drawn + t.added) :
    (dice throws).exact = ((throws.map Throw.total).map Int64.toInt).sum := by
  induction throws with
  | nil => rfl
  | cons t throws ih =>
    rw [exact_cons, ih fun t ht => small t (List.mem_cons_of_mem _ ht), List.map_cons,
      List.map_cons, List.sum_cons, small t List.mem_cons_self]

/-- **A trial of which the size is in range has its exact value.** -/
theorem toInt_total_of_small {t : Trial} (small : (t.size : Int) ≤ Int64.maxValue.toInt) :
    t.total.toInt = t.exact := by
  cases t with
  | cursed value =>
    rw [total, toInt_points]
    simp [exact, draws, modifiers]
  | dice throws =>
    -- The row of the totals is in range for any totals; that they are exact is only needed after.
    have row := size_map_total_le throws
    have each : ∀ t ∈ throws, t.total.toInt = t.drawn + t.added := by
      intro t ht
      have part := size_le_of_mem ht
      exact Throw.toInt_total_of_small (by omega)
    rw [total, toInt_sumClamped_of_size (by omega), exact_eq_sum each]

theorem natAbs_exact_le (t : Trial) : t.exact.natAbs ≤ t.size := by
  have modifiers := natAbs_sum_le t.modifiers
  rw [exact, size]
  omega

end Trial

/-! ## Outcomes -/

namespace Outcome

/-- The exact value that counts: that of the first trial, or the greater or the smaller of the first
two. -/
def exactRoll (o : Outcome) : Int :=
  match o.advantage, o.replay with
  | .advantage, some replay => max o.first.exact replay.exact
  | .disadvantage, some replay => min o.first.exact replay.exact
  | _, _ => o.first.exact

/-- What is added to the value that counts. -/
def added (o : Outcome) : Int := (o.modifier.getD 0).toInt

variable {o : Outcome}

theorem replay_mem_trials {replay : Trial} (h : o.replay = some replay) : replay ∈ o.trials :=
  List.mem_cons_of_mem _ (List.mem_of_mem_head? h)

theorem toInt_rollTotal (each : ∀ t ∈ o.trials, t.total.toInt = t.exact) :
    o.rollTotal.toInt = o.exactRoll := by
  have first := each o.first List.mem_cons_self
  unfold rollTotal exactRoll
  cases hr : o.replay with
  | none => cases o.advantage <;> exact first
  | some replay =>
    have second := each replay (replay_mem_trials hr)
    cases o.advantage with
    | straight => exact first
    | advantage => rw [Advantage.toInt_pick_advantage, first, second]
    | disadvantage => rw [Advantage.toInt_pick_disadvantage, first, second]

/-- The value that counts is that of one of the trials. -/
theorem exists_exactRoll_eq (o : Outcome) : ∃ t ∈ o.trials, o.exactRoll = t.exact := by
  have first : o.first ∈ o.trials := List.mem_cons_self
  unfold exactRoll
  split
  · next replay _ hr =>
    rcases Int.le_total o.first.exact replay.exact with h | h
    · exact ⟨replay, replay_mem_trials hr, Int.max_eq_right h⟩
    · exact ⟨o.first, first, Int.max_eq_left h⟩
  · next replay _ hr =>
    rcases Int.le_total o.first.exact replay.exact with h | h
    · exact ⟨o.first, first, Int.min_eq_left h⟩
    · exact ⟨replay, replay_mem_trials hr, Int.min_eq_right h⟩
  · exact ⟨o.first, first, rfl⟩

/-- **Totals are exact where the sizes are in range.** -/
theorem exact_of_small
    (small : ∀ t ∈ o.trials, ((t.size + o.added.natAbs : Nat) : Int) ≤ Int64.maxValue.toInt) :
    (∀ throws : List Throw, .dice throws ∈ o.trials → ∀ t ∈ throws,
      t.sum.toInt = t.drawn ∧ t.total.toInt = t.drawn + t.added) ∧
    (∀ t ∈ o.trials, t.total.toInt = t.exact) ∧
    o.rollTotal.toInt = o.exactRoll ∧ o.total.toInt = o.exactRoll + o.added := by
  have each : ∀ t ∈ o.trials, t.total.toInt = t.exact := by
    intro t ht
    have := small t ht
    exact Trial.toInt_total_of_small (by omega)
  have roll := toInt_rollTotal each
  refine ⟨fun throws hd t ht => ?_, each, roll, ?_⟩
  · have whole := small _ hd
    have part := Trial.size_le_of_mem ht
    have fits : (t.size : Int) ≤ Int64.maxValue.toInt := by omega
    exact ⟨Throw.toInt_sum_of_small fits, Throw.toInt_total_of_small fits⟩
  · -- What counts is the value of one trial, and the bare modifier has room beside that trial.
    obtain ⟨t, ht, same⟩ := o.exists_exactRoll_eq
    have whole := small t ht
    have part := t.natAbs_exact_le
    have fits : ((o.rollTotal.toInt.natAbs + o.added.natAbs : Nat) : Int) ≤
        Int64.maxValue.toInt := by
      rw [roll, same]
      omega
    rw [total, toInt_addClamped_of_natAbs fits, roll, ← added]

/-- `d1+9223372036854775000 2d6-300 adv -495`: the draws and the sizes of the modifiers of the first
trial add up to the greatest number, and what counts is less by twice what is taken away. -/
theorem exact_of_small_at_the_end :
    let high : Spec := ⟨1, { sides := 1 }, some 9223372036854775000⟩
    let pair : Spec := ⟨2, .d6, some (-300)⟩
    let o : Outcome :=
      { title := none, advantage := .advantage, modifier := some (-495)
        first := .dice [⟨high, [1]⟩, ⟨pair, [5, 6]⟩]
        later := [.dice [⟨high, [1]⟩, ⟨pair, [2, 3]⟩]] }
    (∀ t ∈ o.trials, ((t.size + o.added.natAbs : Nat) : Int) ≤ Int64.maxValue.toInt) ∧
      (o.first.size + o.added.natAbs : Nat) = Int64.maxValue.toInt ∧
      o.rollTotal.toInt = 9223372036854774712 ∧ o.total.toInt = 9223372036854774217 := by
  intro high pair o
  have small : ∀ t ∈ o.trials,
      ((t.size + o.added.natAbs : Nat) : Int) ≤ Int64.maxValue.toInt := by decide
  obtain ⟨-, -, roll, total⟩ := exact_of_small small
  have exactly : o.exactRoll = 9223372036854774712 := by decide
  refine ⟨small, by decide, roll.trans exactly, ?_⟩
  rw [total, exactly]
  rfl

end Outcome

end ChatDice
