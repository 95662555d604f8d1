import ChatDice.Proofs.Play.Asked
import Mathlib.Algebra.GroupWithZero.Nat
import Mathlib.Algebra.Order.BigOperators.Group.List
import Mathlib.Algebra.Order.Group.Nat

/-!
# The dice budget is a cut-off

A limit on the number of dice either refuses a request or makes no difference to it.

**Theorem (`play_limited`).** A request without a fault of its own is refused for too many dice just
if it needs more of them than the limit. If it does not, the outcome and the source are those of a
session without a limit. The dice asked of the source are never more than the limit, and where the
request is refused they are those of the longest run of its rows, from the first on, that stays
within the limit.

The proof is an induction over the rows of dice. The count is the number of dice in the rows played
so far, because a count that has not passed the limit has not stopped at the greatest number either;
so the first row that passes the limit is the first whose dice take the sum beyond it.
-/

namespace ChatDice

variable {σ : Type}

/-! ## What a request needs -/

namespace Request

/-- The numbers of dice that are counted one after the other: one for each dice expression, or a
single one for the cursed die, and the same again for a replay. -/
def counts (r : Request) : List Nat :=
  let once := if r.cursed then [1] else r.dice.map fun spec => spec.count.toNat
  if r.advantage != r.disadvantage then once ++ once else once

/-- The number of dice that a request needs. -/
def needed (r : Request) : Nat :=
  (if r.cursed then 1 else (r.dice.map fun spec => spec.count.toNat).sum) *
    if r.advantage != r.disadvantage then 2 else 1

theorem sum_counts (r : Request) : r.counts.sum = r.needed := by
  rw [counts, needed]
  by_cases hc : r.cursed = true <;> by_cases hr : (r.advantage != r.disadvantage) = true <;>
    simp [hc, hr, Nat.mul_two]

theorem length_rows (r : Request) :
    r.rows.map List.length = if r.cursed then [1] else r.dice.map fun spec => spec.count.toNat := by
  rw [rows]
  split
  · rfl
  · simp [Function.comp_def]

theorem length_course (r : Request) : r.course.map List.length = r.counts := by
  rw [course, List.map_append, length_rows, counts, mode, Advantage.replays_ofFlags]
  by_cases hr : (r.advantage != r.disadvantage) = true
  · rw [if_pos hr, if_pos hr, length_rows]
  · rw [if_neg hr, if_neg hr, List.map_nil, List.append_nil]

theorem length_take_course (r : Request) (k : Nat) :
    (r.course.take k).flatten.length = (r.counts.take k).sum := by
  rw [List.length_flatten, List.map_take, length_course]

theorem length_flatten_course (r : Request) : r.course.flatten.length = r.needed := by
  rw [List.length_flatten, length_course, sum_counts]

end Request

/-! ## Rows within and beyond a limit -/

namespace Session

/-- The session under another limit. -/
def limited (s : Session σ) (limit : Option Nat) : Session σ := { s with maxRolls := limit }

theorem exceeded?_charged_of_le {s : Session σ} {m n : Nat} (hm : s.maxRolls = some m)
    (h : s.rolls + n ≤ m) : (s.charged n).exceeded? = none := by
  rw [exceeded?, maxRolls_charged, hm, Option.filter_some_eq_none, decide_eq_true_eq]
  show ¬ m < min (s.rolls + n) maxCount
  omega

theorem exceeded?_charged_of_lt {s : Session σ} {m n : Nat} (hm : s.maxRolls = some m)
    (hmax : m < maxCount) (h : m < s.rolls + n) : (s.charged n).exceeded? = some m := by
  rw [exceeded?, maxRolls_charged, hm, Option.filter_some_eq_some, decide_eq_true_eq]
  show m < min (s.rolls + n) maxCount
  omega

theorem exceeded?_charged_of_none {s : Session σ} (hm : s.maxRolls = none) (n : Nat) :
    (s.charged n).exceeded? = none := by
  rw [exceeded?, maxRolls_charged, hm]
  rfl

variable [Roller σ]

theorem advance_of_none {s : Session σ} (hm : s.maxRolls = none) (rows : List (List Die)) :
    (s.advance rows).1 = .ok () := by
  induction rows generalizing s with
  | nil => rfl
  | cons row rows ih =>
    rw [advance_cons, exceeded?_charged_of_none hm]
    exact ih hm

theorem advance_of_le {s : Session σ} {m : Nat} {rows : List (List Die)} (hm : s.maxRolls = some m)
    (h : s.rolls + rows.flatten.length ≤ m) : (s.advance rows).1 = .ok () := by
  induction rows generalizing s with
  | nil => rfl
  | cons row rows ih =>
    rw [List.flatten_cons, List.length_append] at h
    rw [advance_cons, exceeded?_charged_of_le hm (by omega)]
    refine ih hm ?_
    show min (s.rolls + row.length) maxCount + _ ≤ m
    omega

/-- **The row that passes the limit.** If the rows are beyond the limit, one of them is the first
that takes the count beyond it, and the dice of the rows before it are rolled. -/
theorem advance_of_lt {s : Session σ} {m : Nat} {rows : List (List Die)} (hm : s.maxRolls = some m)
    (hmax : m < maxCount) (hs : s.rolls ≤ m) (h : m < s.rolls + rows.flatten.length) :
    (s.advance rows).1 = .error (.tooManyRolls m) ∧
      ∃ k < rows.length, s.rolls + (rows.take k).flatten.length ≤ m ∧
        m < s.rolls + (rows.take (k + 1)).flatten.length ∧
        (s.advance rows).2.source = (Roller.rollAll (rows.take k).flatten s.source).2 := by
  induction rows generalizing s with
  | nil =>
    rw [List.flatten_nil, List.length_nil] at h
    omega
  | cons row rows ih =>
    rw [List.flatten_cons, List.length_append] at h
    rw [advance_cons]
    -- If the first row is within the limit, the one that passes it is among the others.
    by_cases hrow : s.rolls + row.length ≤ m
    · have hrolls : (s.rolled row).rolls = s.rolls + row.length := by
        show min (s.rolls + row.length) maxCount = _
        omega
      obtain ⟨herr, k, hk, hle, hlt, hsrc⟩ := ih (s := s.rolled row) hm (by omega) (by omega)
      rw [exceeded?_charged_of_le hm hrow]
      refine ⟨herr, k + 1, Nat.succ_lt_succ hk, ?_, ?_, ?_⟩
      · rw [List.take_succ_cons, List.flatten_cons, List.length_append]
        omega
      · rw [List.take_succ_cons, List.flatten_cons, List.length_append]
        omega
      · rw [List.take_succ_cons, List.flatten_cons, Roller.rollAll_append]
        exact hsrc
    · rw [exceeded?_charged_of_lt hm hmax (by omega)]
      refine ⟨rfl, 0, Nat.succ_pos _, ?_, ?_, rfl⟩
      · simpa using hs
      · simp only [List.take_succ_cons, List.take_zero, List.flatten_cons, List.flatten_nil,
          List.append_nil]
        omega

/-! ## Requests within and beyond a limit -/

variable {r : Request} {m : Nat}

theorem play_of_advance {s : Session σ} (valid : r.objection? = none) (noHelp : r.help = false)
    (h : (s.restarted.advance r.course).1 = .ok ()) :
    (s.play r).value.1 = .ok (.rolled (r.outcomeFrom s.source)) ∧
      (s.play r).value.2.source = (Roller.rollAll r.course.flatten s.source).2 := by
  have all : (s.restarted.advance r.course).2.source =
      (Roller.rollAll r.course.flatten s.source).2 :=
    source_advance (s := s.restarted) (Prod.ext h rfl)
  rw [value_play_of_valid s valid noHelp, h]
  exact ⟨rfl, all⟩

theorem play_of_le {s : Session σ} (hm : s.maxRolls = some m) (valid : r.objection? = none)
    (noHelp : r.help = false) (h : r.needed ≤ m) :
    (s.play r).value.1 = .ok (.rolled (r.outcomeFrom s.source)) ∧
      (s.play r).value.2.source = (Roller.rollAll r.course.flatten s.source).2 := by
  refine play_of_advance valid noHelp (advance_of_le hm ?_)
  rw [r.length_flatten_course]
  exact (Nat.zero_add _).trans_le h

/-- Beyond the limit a request without a fault of its own is refused, and the rows are rolled that
come before the one that passes the limit. -/
theorem play_of_lt {s : Session σ} (hm : s.maxRolls = some m) (hmax : m < maxCount)
    (valid : r.objection? = none) (noHelp : r.help = false) (h : m < r.needed) :
    (s.play r).value.1 = .error (.tooManyRolls m) ∧
      ∃ k < r.counts.length, (r.counts.take k).sum ≤ m ∧ m < (r.counts.take (k + 1)).sum ∧
        (s.play r).value.2.source = (Roller.rollAll (r.course.take k).flatten s.source).2 := by
  have restarted : s.restarted.rolls = 0 := rfl
  have beyond : m < s.restarted.rolls + r.course.flatten.length := by
    rw [r.length_flatten_course]
    omega
  obtain ⟨herr, k, hk, hle, hlt, hsrc⟩ :=
    advance_of_lt (s := s.restarted) hm hmax (by omega) beyond
  rw [restarted, Nat.zero_add, r.length_take_course] at hle hlt
  rw [value_play_of_valid s valid noHelp, herr]
  refine ⟨rfl, k, ?_, hle, hlt, hsrc⟩
  rwa [← r.length_course, List.length_map]

/-- **A limit is a cut-off and nothing else.** -/
theorem play_limited (s : Session σ) (valid : r.objection? = none) (noHelp : r.help = false)
    (hmax : m < maxCount) :
    (((s.limited (some m)).play r).value.1 = .error (.tooManyRolls m) ↔ m < r.needed) ∧
    (r.needed ≤ m → ∃ o, ((s.limited (some m)).play r).value.1 = .ok (.rolled o) ∧
      ((s.limited none).play r).value.1 = .ok (.rolled o) ∧
      ((s.limited (some m)).play r).value.2.source =
        ((s.limited none).play r).value.2.source) ∧
    ((s.limited (some m)).asked r).length ≤ m ∧
    (m < r.needed → ∃ k ≤ r.counts.length,
      ((s.limited (some m)).asked r).length = (r.counts.take k).sum ∧
      (r.counts.take k).sum ≤ m ∧
      ∀ j ≤ r.counts.length, (r.counts.take j).sum ≤ m → j ≤ k) ∧
    ((s.limited (some m)).play r).value.2.source =
      (Roller.rollAll ((s.limited (some m)).asked r) s.source).2 := by
  have limit : (s.limited (some m)).maxRolls = some m := rfl
  rcases Nat.lt_or_ge m r.needed with h | h
  · obtain ⟨herr, -⟩ := play_of_lt limit hmax valid noHelp h
    -- With a recorder the same rows are rolled, and the recorder has the dice asked for.
    obtain ⟨-, k, hk, hle, hlt, hsrc⟩ :=
      play_of_lt (s := (s.limited (some m)).recording) limit hmax valid noHelp h
    have hasked : ((s.limited (some m)).asked r).length = (r.counts.take k).sum := by
      rw [asked_of_source hsrc, r.length_take_course]
    refine ⟨iff_of_true herr h, fun h' => absurd h (Nat.not_lt.2 h'), hasked ▸ hle,
      fun _ => ⟨k, hk.le, hasked, hle, fun j _ hj => ?_⟩, source_play _ r⟩
    -- A longer run of rows contains the one that passes the limit.
    by_contra hjk
    have := List.monotone_sum_take r.counts (show k + 1 ≤ j by omega)
    simp only at this
    omega
  · obtain ⟨hok, hsrc⟩ := play_of_le limit valid noHelp h
    obtain ⟨hfree, hfreeSrc⟩ :=
      play_of_advance valid noHelp (advance_of_none (s := (s.limited none).restarted) rfl _)
    have hasked : (s.limited (some m)).asked r = r.course.flatten :=
      asked_of_source (play_of_le (s := (s.limited (some m)).recording) limit valid noHelp h).2
    refine ⟨iff_of_false (by rw [hok]; exact nofun) (by omega),
      fun _ => ⟨_, hok, hfree, hsrc.trans hfreeSrc.symm⟩, ?_, fun h' => absurd h' (by omega),
      source_play _ r⟩
    rwa [hasked, r.length_flatten_course]

/-- `2d6 3d20 adv` needs ten dice. A limit of eight refuses it in the replay, after seven dice. -/
theorem play_limited_in_replay :
    let s : Session Steps := start none (.startingAt 1 1)
    let r : Request := { dice := [⟨2, .d6, none⟩, ⟨3, { sides := 20 }, none⟩], advantage := true }
    r.objection? = none ∧ r.help = false ∧ 8 < maxCount ∧
      ((s.limited (some 8)).play r).value.1 = .error (.tooManyRolls 8) ∧
      ∃ k ≤ 4, ((s.limited (some 8)).asked r).length = ([2, 3, 2, 3].take k).sum ∧
        ([2, 3, 2, 3].take k).sum ≤ 8 ∧ ∀ j ≤ 4, ([2, 3, 2, 3].take j).sum ≤ 8 → j ≤ k := by
  intro s r
  have valid : r.objection? = none := by decide
  have small : 8 < maxCount := by decide
  have beyond : 8 < r.needed := by decide
  obtain ⟨refused, -, -, asked, -⟩ := play_limited s valid rfl small
  exact ⟨valid, rfl, small, refused.2 beyond, asked beyond⟩

end Session

end ChatDice
