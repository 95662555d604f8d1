import ChatDice.Proofs.Play.Course

/-!
# The dice that a request asks for

A session whose source keeps a record shows which dice playing a request asks of the source.

**Theorem (`forget_play`).** Without its record, a recording session plays every request like a
session with the source alone.

**Theorem (`source_play`).** The source is left where rolling just the dice on record leaves it.
-/

namespace ChatDice

variable {σ : Type} [Roller σ]

namespace Session

/-- A session without the record of its source. -/
def forget (s : Session (Recorder σ)) : Session σ :=
  { maxRolls := s.maxRolls, rolls := s.rolls, source := s.source.source }

/-- The session with an empty record. -/
def recording (s : Session σ) : Session (Recorder σ) :=
  { maxRolls := s.maxRolls, rolls := s.rolls, source := { source := s.source, asked := [] } }

/-- The dice that playing a request asks of the source, in order. -/
def asked (s : Session σ) (r : Request) : List Die := (s.recording.play r).value.2.source.asked

theorem forget_rolled (s : Session (Recorder σ)) (row : List Die) :
    (s.rolled row).forget = s.forget.rolled row := by
  simp only [forget, rolled, Recorder.rollAll_eq]
  rfl

theorem forget_advance (s : Session (Recorder σ)) (rows : List (List Die)) :
    s.forget.advance rows = ((s.advance rows).1, (s.advance rows).2.forget) := by
  induction rows generalizing s with
  | nil => rfl
  | cons row rows ih =>
    rw [advance_cons, advance_cons, ← forget_rolled, ih,
      show (s.forget.charged row.length).exceeded? = (s.charged row.length).exceeded? from rfl]
    cases (s.charged row.length).exceeded? <;> rfl

end Session

/-! ## Values do not depend on the record -/

theorem Spec.throws_recorder (specs : List Spec) (s : Recorder σ) :
    throws specs s = throws specs s.source := by
  induction specs generalizing s with
  | nil => rfl
  | cons spec rest ih => rw [throws, throws, ih, Recorder.rollAll_eq]

namespace Request

theorem trialFrom_recorder (r : Request) (s : Recorder σ) :
    r.trialFrom s = r.trialFrom s.source := by
  rw [trialFrom, trialFrom, Spec.throws_recorder]
  rfl

theorem outcomeFrom_recorder (r : Request) (s : Recorder σ) :
    r.outcomeFrom s = r.outcomeFrom s.source := by
  rw [outcomeFrom, outcomeFrom, laterFrom, laterFrom, trialFrom_recorder, trialFrom_recorder,
    Recorder.rollAll_eq]

end Request

/-! ## Playing with a record -/

namespace Session

/-- **A record changes nothing.** -/
theorem forget_play (s : Session (Recorder σ)) (r : Request) :
    (s.forget.play r).value = ((s.play r).value.1, (s.play r).value.2.forget) := by
  rw [value_play, value_play]
  cases r.objection? with
  | some why => rfl
  | none =>
    by_cases hh : r.help = true
    · rw [if_pos hh, if_pos hh]
      rfl
    · rw [if_neg hh, if_neg hh, Request.outcomeFrom_recorder,
        show s.forget.restarted = s.restarted.forget from rfl, forget_advance]
      rfl

/-- Rows are rolled from the first on, in order, whether or not they are refused. -/
theorem exists_source_advance (s : Session σ) (rows : List (List Die)) :
    ∃ dice, (s.advance rows).2.source = (Roller.rollAll dice s.source).2 := by
  induction rows generalizing s with
  | nil => exact ⟨[], rfl⟩
  | cons row rows ih =>
    rw [advance_cons]
    cases (s.charged row.length).exceeded? with
    | some limit => exact ⟨[], rfl⟩
    | none =>
      obtain ⟨dice, hd⟩ := ih (s.rolled row)
      refine ⟨row ++ dice, ?_⟩
      rw [Roller.rollAll_append]
      exact hd

theorem exists_source_play (s : Session σ) (r : Request) :
    ∃ dice, (s.play r).value.2.source = (Roller.rollAll dice s.source).2 := by
  have advanced := s.restarted.exists_source_advance r.course
  have ends := s.ends_play r
  generalize (s.play r).value = p at ends
  cases ends with
  | objected => exact ⟨[], rfl⟩
  | manual => exact ⟨[], rfl⟩
  | refused _ _ ha | rolled _ _ ha =>
    rw [ha] at advanced
    exact advanced

/-- The dice on record are those that moved the source. -/
theorem asked_of_source {s : Session σ} {r : Request} {dice : List Die}
    (h : (s.recording.play r).value.2.source = (Roller.rollAll dice s.recording.source).2) :
    s.asked r = dice := by
  rw [asked, h, Recorder.rollAll_eq]
  rfl

/-- **Only the dice asked for move the source.** -/
theorem source_play (s : Session σ) (r : Request) :
    (s.play r).value.2.source = (Roller.rollAll (s.asked r) s.source).2 := by
  obtain ⟨dice, hd⟩ := s.recording.exists_source_play r
  have forgotten := s.recording.forget_play r
  rw [show s.recording.forget = s from rfl] at forgotten
  rw [forgotten, asked_of_source hd]
  show (s.recording.play r).value.2.source.source = _
  rw [hd, Recorder.rollAll_eq]
  rfl

end Session

end ChatDice
