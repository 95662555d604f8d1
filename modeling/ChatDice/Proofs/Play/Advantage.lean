import ChatDice.Proofs.Play.Budget

/-!
# Advantage helps and disadvantage hurts

A request, the same with advantage and the same with disadvantage, each played in a session of its
own that starts from the same place.

**Theorem (`play_under`).** If the request with advantage is rolled, so are the other two. All three
have the same first trial, and the two with a replay have the same replay. The total with
disadvantage is at most that of the request by itself, which is at most that with advantage, and the
outer two are the values of the two trials with the modifier added to each.

The rows of dice of the request by itself are the first half of the rows of the other two, so within
the limit for those it is within the limit too. What is picked out of two values is one of them, and
adding the modifier keeps their order even where the sum is clamped (`addClamped_le_addClamped`).
-/

namespace ChatDice

/-! ## Picking and adding -/

theorem addClamped_le_addClamped {a b : Int64} (h : a ≤ b) (m : Int64) :
    addClamped a m ≤ addClamped b m :=
  addClamped_mono h (Int64.le_refl m)

/-- Of two values, advantage picks the greater and disadvantage the other one. -/
theorem Advantage.pick_cases (a b : Int64) :
    (a ≤ b ∧ pick .disadvantage a b = a ∧ pick .advantage a b = b) ∨
      (b ≤ a ∧ pick .disadvantage a b = b ∧ pick .advantage a b = a) := by
  by_cases h : a ≤ b
  · exact .inl ⟨h, if_pos h, if_pos h⟩
  · refine .inr ⟨?_, if_neg h, if_neg h⟩
    rw [Int64.le_iff_toInt_le] at h ⊢
    omega

/-! ## A request under another mode -/

namespace Request

/-- The request played in another mode. -/
def under (r : Request) (mode : Advantage) : Request :=
  { r with advantage := mode = .advantage, disadvantage := mode = .disadvantage }

@[simp] theorem mode_under (r : Request) (mode : Advantage) : (r.under mode).mode = mode := by
  cases mode <;> rfl

theorem under_straight {r : Request} (noAdvantage : r.advantage = false)
    (noDisadvantage : r.disadvantage = false) : r.under .straight = r := by
  obtain ⟨⟩ := r
  simp_all [under]

/-- Whether a request has a fault does not depend on its mode, which is never both at once. -/
theorem objection?_under (r : Request) (a b : Advantage) :
    (r.under a).objection? = (r.under b).objection? := by
  cases a <;> cases b <;> rfl

theorem course_under (r : Request) (mode : Advantage) :
    (r.under mode).course = r.rows ++ if mode.replays then r.rows else [] := by
  rw [course, mode_under]
  rfl

variable {σ : Type} [Roller σ]

/-- The trial that follows the first one, if the request is played twice. -/
def replayFrom (r : Request) (s : σ) : Trial := r.trialFrom (Roller.rollAll r.rows.flatten s).2

theorem trials_under (r : Request) (mode : Advantage) (s : σ) :
    ((r.under mode).outcomeFrom s).trials =
      r.trialFrom s :: if mode.replays then [r.replayFrom s] else [] := by
  cases mode <;> rfl

/-- The total of a request in another mode: a value of a trial, picked if there are two, with the
modifier added. -/
theorem total_under (r : Request) (mode : Advantage) (s : σ) :
    ((r.under mode).outcomeFrom s).total =
      addClamped (if mode.replays then mode.pick (r.trialFrom s).total (r.replayFrom s).total
        else (r.trialFrom s).total) (r.modifierValue?.getD 0) := by
  cases mode <;> rfl

end Request

/-! ## Three sessions -/

namespace Session

variable {σ : Type} [Roller σ]

/-- If rows are not refused, neither are those at their start. -/
theorem advance_of_append {s : Session σ} {a b : List (List Die)}
    (h : (s.advance (a ++ b)).1 = .ok ()) : (s.advance a).1 = .ok () := by
  rw [advance_append] at h
  rcases ha : s.advance a with ⟨why | _, t⟩
  · rw [ha] at h
    cases h
  · rfl

theorem play_under_of_rolled {s : Session σ} {r : Request} {mode : Advantage} {o : Outcome}
    (replays : mode.replays = true) (h : (s.play (r.under mode)).value.1 = .ok (.rolled o))
    (other : Advantage) :
    (s.play (r.under other)).value.1 = .ok (.rolled ((r.under other).outcomeFrom s.source)) := by
  have ends := s.ends_play (r.under mode)
  generalize (s.play (r.under mode)).value = p at h ends
  cases ends with
  | objected | manual | refused => cases h
  | rolled valid noHelp ha =>
    rw [r.objection?_under mode other] at valid
    refine (play_of_advance valid noHelp ?_).1
    -- With a replay the rows are rolled twice, and without one only the first time.
    have whole : (s.restarted.advance (r.rows ++ r.rows)).1 = .ok () := by
      rw [Request.course_under, if_pos replays] at ha
      rw [ha]
    rw [Request.course_under]
    by_cases again : other.replays = true
    · rw [if_pos again]
      exact whole
    · rw [if_neg again, List.append_nil]
      exact advance_of_append whole

/-- **Advantage never lowers a total and disadvantage never raises it.** -/
theorem play_under (s : Session σ) {r : Request} {high : Outcome}
    (noAdvantage : r.advantage = false) (noDisadvantage : r.disadvantage = false)
    (h : (s.play (r.under .advantage)).value.1 = .ok (.rolled high)) :
    ∃ plain low first replay,
      (s.play r).value.1 = .ok (.rolled plain) ∧
      (s.play (r.under .disadvantage)).value.1 = .ok (.rolled low) ∧
      plain.trials = [first] ∧ high.trials = [first, replay] ∧ low.trials = [first, replay] ∧
      low.total ≤ plain.total ∧ plain.total ≤ high.total ∧
      let added := fun t : Trial => addClamped t.total (r.modifierValue?.getD 0)
      (low.total = added first ∧ high.total = added replay) ∨
        (low.total = added replay ∧ high.total = added first) := by
  have played := play_under_of_rolled rfl h
  have straight := played .straight
  have single := r.trials_under .straight s.source
  have plain_total := r.total_under .straight s.source
  rw [Request.under_straight noAdvantage noDisadvantage] at straight single plain_total
  obtain rfl : (r.under .advantage).outcomeFrom s.source = high :=
    Answer.rolled.inj (Except.ok.inj ((played .advantage).symm.trans h))
  refine ⟨_, _, r.trialFrom s.source, r.replayFrom s.source, straight, played .disadvantage,
    single, r.trials_under .advantage _, r.trials_under .disadvantage _, ?_⟩
  rw [plain_total, r.total_under .advantage, r.total_under .disadvantage]
  simp only [Advantage.replays, if_true, Bool.false_eq_true, if_false]
  obtain ⟨le, low, high⟩ | ⟨le, low, high⟩ :=
    Advantage.pick_cases (r.trialFrom s.source).total (r.replayFrom s.source).total
  · rw [low, high]
    exact ⟨Int64.le_refl _, addClamped_le_addClamped le _, .inl ⟨rfl, rfl⟩⟩
  · rw [low, high]
    exact ⟨addClamped_le_addClamped le _, Int64.le_refl _, .inr ⟨rfl, rfl⟩⟩

/-- `2d6 d20-3 +9223372036854775800` under a limit of six: the trials are worth fifteen and twelve,
and with the modifier both are the greatest number. -/
theorem play_under_clamped :
    let s : Session Steps := start (some 6) (.startingAt 5 1)
    let r : Request :=
      { dice := [⟨2, .d6, none⟩, ⟨1, { sides := 20 }, some (-3)⟩]
        modifier := some (.value 9223372036854775800) }
    let first : Trial := .dice [⟨⟨2, .d6, none⟩, [5, 6]⟩, ⟨⟨1, { sides := 20 }, some (-3)⟩, [7]⟩]
    let replay : Trial := .dice [⟨⟨2, .d6, none⟩, [2, 3]⟩, ⟨⟨1, { sides := 20 }, some (-3)⟩, [10]⟩]
    let high : Outcome :=
      { title := none, advantage := .advantage, first, later := [replay],
        modifier := some 9223372036854775800 }
    (s.play (r.under .advantage)).value.1 = .ok (.rolled high) ∧
      high.total = 9223372036854775807 ∧
      ∃ plain low, (s.play r).value.1 = .ok (.rolled plain) ∧
        (s.play (r.under .disadvantage)).value.1 = .ok (.rolled low) ∧
        plain.trials = [first] ∧ low.trials = [first, replay] ∧
        low.total ≤ plain.total ∧ plain.total ≤ high.total := by
  intro s r first replay high
  have rolled : (s.play (r.under .advantage)).value.1 = .ok (.rolled high) := by decide +kernel
  obtain ⟨plain, low, first', replay', hp, hl, single, both, both', least, most, -⟩ :=
    play_under s rfl rfl rolled
  obtain ⟨rfl, rest⟩ := List.cons.inj both
  obtain ⟨rfl, -⟩ := List.cons.inj rest
  exact ⟨rolled, by decide, plain, low, hp, hl, single, both', least, most⟩

end Session

end ChatDice
