import ChatDice.Dice.Cursed
import ChatDice.Dice.Outcome
import ChatDice.Play.Basic
import ChatDice.Request.Basic

/-!
# Trials

How the dice of a request are rolled. The dice of an expression are counted before they are rolled,
so that a huge expression is refused at once; the expressions before it have been rolled by then.
The cursed die takes the place of all dice expressions. Main statement: `value_throwSpec` — what an
expression gives, and where it leaves the session.
-/

namespace ChatDice

namespace Play

variable {σ : Type} [Roller σ]

def throwSpec (spec : Spec) : Play σ Throw := do
  charge spec.count.toNat
  report (.rolling spec)
  let draws ← take (Roller.rollTimes spec.die spec.count.toNat)
  return { spec, draws }

/-- An expression beyond the limit is refused before any of its dice are rolled; the dice of any
other are the next ones of the source. -/
theorem value_throwSpec (spec : Spec) (s : Session σ) :
    ((throwSpec spec : Play σ Throw).run s).value =
      match (s.charged spec.count.toNat).exceeded? with
      | some limit => (.error (.tooManyRolls limit), s.charged spec.count.toNat)
      | none =>
        (.ok { spec, draws := (Roller.rollTimes spec.die spec.count.toNat s.source).1 },
          { s.charged spec.count.toNat with
            source := (Roller.rollTimes spec.die spec.count.toNat s.source).2 }) := by
  simp only [throwSpec, value_run_bind, run_charge, Logged.value_pure]
  cases (s.charged spec.count.toNat).exceeded? with
  | some limit => rfl
  | none => simp

def throwAll : List Spec → Play σ (List Throw)
  | [] => return []
  | spec :: rest => do
    let t ← throwSpec spec
    let others ← throwAll rest
    return t :: others

/-- Plays one trial. The cursed die takes the place of all dice expressions. -/
def trial (r : Request) : Play σ Trial :=
  if r.cursed then do
    charge 1
    return .cursed (← take rollCursed)
  else do
    return .dice (← throwAll r.dice)

/-- Plays the second trial, if there is to be one. -/
def replays (mode : Advantage) (r : Request) : Play σ (List Trial) :=
  if mode.replays then do
    return [← trial r]
  else return []

/-- Plays the trials of a request that is in order. -/
def outcome (r : Request) : Play σ Outcome := do
  let mode := Advantage.ofFlags r.advantage r.disadvantage
  let first ← trial r
  let later ← replays mode r
  let outcome : Outcome :=
    { title := r.title, advantage := mode, first, later, modifier := r.modifierValue? }
  report (.evaluated outcome.total (← counted) outcome.isCursed mode)
  return outcome

end Play

end ChatDice
