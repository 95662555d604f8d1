import ChatDice.Dice.Source

/-!
# Recorded dice

A recorder is a source together with the dice that were rolled with it. It shows how many dice of
which kind a computation asks for, while its values are those of the source.

**Theorem (`Recorder.rollAll_eq`).** Rolling a row of dice with a recorder gives the values that the
source gives, leaves the source where the source alone would be, and writes down just these dice.
-/

namespace ChatDice

variable {σ : Type} [Roller σ]

namespace Roller

theorem rollAll_cons (die : Die) (dice : List Die) (s : σ) :
    rollAll (die :: dice) s =
      ((roll die s).1 :: (rollAll dice (roll die s).2).1,
        (rollAll dice (roll die s).2).2) := rfl

theorem rollAll_append (a b : List Die) (s : σ) :
    rollAll (a ++ b) s =
      ((rollAll a s).1 ++ (rollAll b (rollAll a s).2).1, (rollAll b (rollAll a s).2).2) := by
  induction a generalizing s with
  | nil => rfl
  | cons die a ih =>
    rw [List.cons_append, rollAll_cons, rollAll_cons, ih]
    rfl

@[simp] theorem length_rollAll (dice : List Die) (s : σ) :
    (rollAll dice s).1.length = dice.length := by
  induction dice generalizing s with
  | nil => rfl
  | cons die dice ih =>
    rw [rollAll_cons, List.length_cons, List.length_cons, ih]

end Roller

/-- A source of dice and the dice that were rolled with it, in order. -/
structure Recorder (σ : Type) where
  source : σ
  /-- The dice rolled so far. -/
  asked : List Die

instance : Roller (Recorder σ) where
  roll die s :=
    ((Roller.roll die s.source).1, ⟨(Roller.roll die s.source).2, s.asked ++ [die]⟩)

namespace Recorder

theorem roll_eq (die : Die) (s : Recorder σ) :
    Roller.roll die s =
      ((Roller.roll die s.source).1, ⟨(Roller.roll die s.source).2, s.asked ++ [die]⟩) := rfl

/-- **A recorder changes nothing but its record.** -/
theorem rollAll_eq (dice : List Die) (s : Recorder σ) :
    Roller.rollAll dice s =
      ((Roller.rollAll dice s.source).1,
        ⟨(Roller.rollAll dice s.source).2, s.asked ++ dice⟩) := by
  induction dice generalizing s with
  | nil => simp [Roller.rollAll]
  | cons die dice ih =>
    rw [Roller.rollAll_cons, Roller.rollAll_cons, ih, roll_eq]
    simp

end Recorder

end ChatDice
