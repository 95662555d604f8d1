import ChatDice.Play.Trial

/-!
# Answers to requests

A request is refused for the first reason that applies: advantage and disadvantage together, nothing
to roll, a malformed modifier, and only then too many dice. A request for help is answered before
any dice are counted. Main statements: `play_of_objection`, `play_of_help` — in these cases the
source stays as it is.
-/

namespace ChatDice

/-- What a request that is not refused leads to. -/
inductive Answer
  | help
  | rolled (outcome : Outcome)
deriving DecidableEq

/-- The word of a malformed modifier without its sign. It is empty if the word is, or if the word
starts with a character of more than one byte. -/
def afterSign (word : String) : String :=
  match word.toList with
  | [] => ""
  | c :: rest => if c.utf8Size = 1 then String.ofList rest else ""

/-- Why a request is refused whatever the dice: the first reason that applies. -/
def Request.objection? (r : Request) : Option Refusal :=
  if r.advantage && r.disadvantage then some .conflictingAdvantage
  else if !r.cursed && r.dice.isEmpty then some .missingRoll
  else match r.modifier with
    | some (.malformed word) => some (.invalidModifier (afterSign word))
    | _ => none

namespace Session

variable {σ : Type} [Roller σ]

/-- Plays a request and gives the answer, or the refusal, with the session after it. -/
def play (s : Session σ) (r : Request) : Logged (Except Refusal Answer × Session σ) :=
  let s := { s with rolls := 0 }
  match r.objection? with
  | some why => pure (.error why, s)
  | none =>
    if r.help then pure (.ok .help, s)
    else (Answer.rolled <$> Play.outcome r : Play σ Answer).run s

/-- A request that has a fault of its own is refused for it, and no die is counted or rolled. -/
theorem play_of_objection (s : Session σ) {r : Request} {why : Refusal}
    (h : r.objection? = some why) : s.play r = pure (.error why, { s with rolls := 0 }) := by
  simp [play, h]

/-- A request for help without a fault is answered with the manual, and no die is counted or rolled.
-/
theorem play_of_help (s : Session σ) {r : Request} (h : r.objection? = none) (hh : r.help = true) :
    s.play r = pure (.ok .help, { s with rolls := 0 }) := by
  simp [play, h, hh]

theorem play_of_roll (s : Session σ) {r : Request} (h : r.objection? = none)
    (hh : r.help = false) :
    s.play r = (Answer.rolled <$> Play.outcome r : Play σ Answer).run { s with rolls := 0 } := by
  simp [play, h, hh]

end Session

/-- Plays a single request under limits; the source comes back as the request leaves it. -/
def Request.evaluate {σ : Type} [Roller σ] (r : Request) (limits : Limits) (source : σ) :
    Logged (Except Refusal Answer × σ) := do
  let (answer, s) ← (Session.start limits.maxRolls source).play r
  return (answer, s.source)

end ChatDice
