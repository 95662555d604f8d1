/-!
# Advantage and disadvantage

A roll with advantage or disadvantage is played a second time. With advantage the greater of the two
values counts, with disadvantage the smaller. Main statements: `toInt_pick_advantage`,
`toInt_pick_disadvantage` — what counts as a whole number.
-/

namespace ChatDice

/-- Whether and how a roll is played twice. -/
inductive Advantage
  /-- The roll is played once. -/
  | straight
  /-- The roll is played twice and the greater value counts. -/
  | advantage
  /-- The roll is played twice and the smaller value counts. -/
  | disadvantage
deriving DecidableEq

namespace Advantage

/-- What the two flags of a request ask for; both together ask for a single roll. -/
def ofFlags (advantage disadvantage : Bool) : Advantage :=
  match advantage, disadvantage with
  | true, false => .advantage
  | false, true => .disadvantage
  | _, _ => .straight

def replays : Advantage → Bool
  | straight => false
  | advantage => true
  | disadvantage => true

/-- The value that counts, out of that of the first roll and that of its replay. -/
def pick (a : Advantage) (first replay : Int64) : Int64 :=
  match a with
  | straight => first
  | advantage => if first ≤ replay then replay else first
  | disadvantage => if first ≤ replay then first else replay

/-- The caption of the value that counts. -/
def caption : Advantage → String
  | straight => ""
  | advantage => "Advantage"
  | disadvantage => "Disadvantage"

/-- The short name that the log uses. -/
def tag : Advantage → String
  | straight => "None"
  | advantage => "Adv"
  | disadvantage => "Dis"

theorem toInt_pick_advantage (a b : Int64) :
    (pick .advantage a b).toInt = max a.toInt b.toInt := by
  simp only [pick, Int64.le_iff_toInt_le]
  split <;> omega

theorem toInt_pick_disadvantage (a b : Int64) :
    (pick .disadvantage a b).toInt = min a.toInt b.toInt := by
  simp only [pick, Int64.le_iff_toInt_le]
  split <;> omega

theorem replays_ofFlags (a d : Bool) : (ofFlags a d).replays = (a != d) := by
  cases a <;> cases d <;> rfl

end Advantage

end ChatDice
