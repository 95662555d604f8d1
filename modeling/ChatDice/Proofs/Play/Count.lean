import ChatDice.Proofs.Play.Asked
import ChatDice.Proofs.Play.Sequence

/-!
# The count of dice

A session counts the dice of a row before it rolls them, and a row that takes the count beyond the
limit is not rolled.

**Theorem (`rolls_after_iff`).** After each request of a session the count is the number of dice
that were asked of the source just if the request was not refused for too many dice, as long as a
count can be that great. After such a refusal the dice asked for are within the limit and the count
is beyond it.

A recording session shows the dice asked for next to the count, so that one look at the four ways in
which a request ends gives both. In the refused one the rows are cut in two (`RefusedAt`): those
before the row that is refused were counted and rolled, and that row was counted alone.
-/

namespace ChatDice

variable {σ : Type} [Roller σ]

namespace Session

/-! ## Rows that are counted -/

theorem rolls_advance {s t : Session σ} {rows : List (List Die)} (h : s.advance rows = (.ok (), t))
    (hs : s.rolls ≤ maxCount) : t.rolls = min (s.rolls + rows.flatten.length) maxCount := by
  induction rows generalizing s with
  | nil =>
    obtain rfl : s = t := congrArg Prod.snd h
    simp only [List.flatten_nil, List.length_nil]
    omega
  | cons row rows ih =>
    rw [advance_cons] at h
    split at h
    · cases congrArg Prod.fst h
    · have charged : (s.rolled row).rolls = min (s.rolls + row.length) maxCount := rfl
      rw [ih h (by omega), charged, List.flatten_cons, List.length_append]
      omega

/-- Rows that were rolled up to `row`, which took the count beyond the limit. -/
structure RefusedAt (s : Session σ) (limit : Nat) (before : List (List Die)) (row : List Die)
    (t : Session σ) : Prop where
  source : t.source = (Roller.rollAll before.flatten s.source).2
  rolls : t.rolls = min (s.rolls + before.flatten.length + row.length) maxCount
  within : s.rolls + before.flatten.length ≤ limit
  beyond : limit < t.rolls

/-- **The row that is refused.** A count that is not beyond the limit has not stopped at the
greatest number either. -/
theorem exists_refusedAt {s t : Session σ} {rows : List (List Die)} {limit : Nat}
    (h : s.advance rows = (.error (.tooManyRolls limit), t)) (hs : s.exceeded? = none) :
    ∃ before row after, rows = before ++ row :: after ∧ s.RefusedAt limit before row t := by
  induction rows generalizing s with
  | nil => cases congrArg Prod.fst h
  | cons row rows ih =>
    rw [advance_cons] at h
    split at h
    · next exceeded he =>
      obtain ⟨same, rfl⟩ := Prod.mk.inj h
      obtain rfl : exceeded = limit := Refusal.tooManyRolls.inj (Except.error.inj same)
      obtain ⟨hm, beyond⟩ := Option.filter_eq_some_iff.1 he
      refine ⟨[], row, rows, rfl, rfl, rfl, ?_, of_decide_eq_true beyond⟩
      have : s.maxRolls = some exceeded := hm
      rw [exceeded?, this, Option.filter_some_eq_none, decide_eq_true_eq] at hs
      exact Nat.not_lt.1 hs
    · next he =>
      obtain ⟨before, row', after, rfl, source, rolls, within, beyond⟩ := ih h he
      have counted : (s.rolled row).rolls = min (s.rolls + row.length) maxCount := rfl
      have small : t.rolls ≤ maxCount := rolls ▸ Nat.min_le_right _ _
      refine ⟨row :: before, row', after, rfl, ?_, ?_, ?_, beyond⟩
      · rw [List.flatten_cons, Roller.rollAll_append]
        exact source
      · rw [rolls, counted, List.flatten_cons, List.length_append]
        omega
      · rw [List.flatten_cons, List.length_append]
        omega

/-! ## The count after a request -/

/-- A record shows the answer and the count as they are without it. -/
theorem play_recording (s : Session σ) (r : Request) :
    (s.play r).value.1 = (s.recording.play r).value.1 ∧
      (s.play r).value.2.rolls = (s.recording.play r).value.2.rolls := by
  have forgotten := s.recording.forget_play r
  rw [show s.recording.forget = s from rfl] at forgotten
  rw [forgotten]
  exact ⟨rfl, rfl⟩

/-- **The count tells the dice asked for, unless there were too many.** Then it is beyond the limit,
and the dice asked for are not. -/
theorem count_play (s : Session σ) (r : Request) :
    (∀ limit, (s.play r).value.1 ≠ .error (.tooManyRolls limit)) ∧
        (s.play r).value.2.rolls = min (s.asked r).length maxCount ∨
      ∃ limit, (s.play r).value.1 = .error (.tooManyRolls limit) ∧
        (s.asked r).length ≤ limit ∧ limit < (s.play r).value.2.rolls := by
  obtain ⟨answer, rolls⟩ := s.play_recording r
  rw [answer, rolls, asked]
  have ends := s.recording.ends_play r
  generalize (s.recording.play r).value = p at ends
  cases ends with
  | objected hr =>
    left
    refine ⟨fun limit same => ?_, (Nat.zero_min _).symm⟩
    cases same
    rcases Request.objection?_cases hr with hw | hw | ⟨_, hw⟩ <;> cases hw
  | manual =>
    left
    refine ⟨fun limit same => ?_, (Nat.zero_min _).symm⟩
    cases same
  | refused _ _ ha =>
    right
    obtain ⟨limit, -, rfl⟩ := refused_of_advance (congrArg Prod.fst ha)
    have fresh : s.recording.restarted.exceeded? = none := by
      rw [exceeded?, Option.filter_eq_none_iff]
      intro m _
      exact Bool.not_eq_true _ ▸ decide_eq_false (Nat.not_lt_zero m)
    obtain ⟨before, row, after, -, stop⟩ := exists_refusedAt ha fresh
    have within : 0 + before.flatten.length ≤ limit := stop.within
    refine ⟨limit, rfl, ?_, stop.beyond⟩
    rw [stop.source, Recorder.rollAll_eq]
    rwa [Nat.zero_add] at within
  | rolled _ _ ha =>
    left
    refine ⟨fun limit same => ?_, ?_⟩
    · cases same
    · rw [source_advance ha, Recorder.rollAll_eq, rolls_advance ha (Nat.zero_le _)]
      show min (0 + r.course.flatten.length) maxCount = min ([] ++ r.course.flatten).length maxCount
      rw [Nat.zero_add, List.nil_append]

/-! ## Whole sessions -/

/-- **The count tells the truth just if the request was not refused for too many dice.** -/
theorem rolls_after_iff (s : Session σ) (earlier : List Request) (r : Request) :
    ((s.after (earlier ++ [r])).rolls = ((s.after earlier).asked r).length ↔
      (∀ limit, ((s.after earlier).play r).value.1 ≠ .error (.tooManyRolls limit)) ∧
        ((s.after earlier).asked r).length ≤ maxCount) ∧
    ∀ limit, ((s.after earlier).play r).value.1 = .error (.tooManyRolls limit) →
      ((s.after earlier).asked r).length ≤ limit ∧ limit < (s.after (earlier ++ [r])).rolls := by
  have last : s.after (earlier ++ [r]) = ((s.after earlier).play r).value.2 := by
    rw [after_append, after_cons]
    rfl
  rw [last]
  rcases (s.after earlier).count_play r with ⟨admitted, counted⟩ | ⟨most, refused, within, beyond⟩
  · rw [counted]
    refine ⟨⟨fun same => ⟨admitted, by omega⟩, fun ⟨_, small⟩ => by omega⟩, fun limit h => ?_⟩
    exact absurd h (admitted limit)
  · refine ⟨⟨fun same => by omega, fun ⟨admitted, _⟩ => absurd refused (admitted most)⟩, ?_⟩
    intro limit h
    rw [refused] at h
    cases h
    exact ⟨within, beyond⟩

/-- `2d6 9d6` is refused under a limit of five after two dice, and eleven are counted. -/
theorem rolls_after_iff_refused :
    let s : Session Steps := start (some 5) (.startingAt 1 1)
    let high : Request := { dice := [⟨2, .d6, none⟩, ⟨9, .d6, none⟩] }
    (s.play high).value.1 = .error (.tooManyRolls 5) ∧
      (s.asked high).length ≤ 5 ∧ 5 < (s.after [high]).rolls := by
  intro s high
  have refused : (s.play high).value.1 = .error (.tooManyRolls 5) := rfl
  exact ⟨refused, (rolls_after_iff s [] high).2 5 refused⟩

/-- `2d6` is refused under a limit of one. No die is asked for, and two are counted. -/
theorem rolls_after_refusal :
    let s : Session Steps := start (some 1) (.startingAt 1 1)
    let r : Request := { dice := [⟨2, .d6, none⟩] }
    (s.play r).value.1 = .error (.tooManyRolls 1) ∧ s.asked r = [] ∧ (s.after [r]).rolls = 2 :=
  ⟨rfl, rfl, rfl⟩

end Session

end ChatDice
