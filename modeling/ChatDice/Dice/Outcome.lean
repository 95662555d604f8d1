import ChatDice.Dice.Advantage
import ChatDice.Dice.Clamped
import ChatDice.Dice.Spec

/-!
# The outcome of a roll

Every draw is kept: a throw holds the draws made for one dice expression, a trial is one pass over
all expressions or one draw from the cursed die, and an outcome is a trial, its replay and the
modifier. All sums are clamped to 64 bits after each addition.
-/

namespace ChatDice

/-- The points that a drawn value is worth. -/
def points (value : UInt32) : Int64 := Int64.ofNat value.toNat

/-- The draws made for one dice expression. -/
structure Throw where
  spec : Spec
  draws : List UInt32
deriving DecidableEq

namespace Throw

/-- The sum of the draws, without the modifier. -/
def sum (t : Throw) : Int64 := sumClamped (t.draws.map points)

/-- The sum of the draws with the modifier of the expression. -/
def total (t : Throw) : Int64 := addClamped t.sum (t.spec.modifier.getD 0)

end Throw

/-- One pass over a request. -/
inductive Trial
  | cursed (value : UInt32)
  /-- One throw for each dice expression, in order. -/
  | dice (throws : List Throw)
deriving DecidableEq

namespace Trial

/-- The value of a trial. -/
def total : Trial → Int64
  | cursed value => points value
  | dice throws => sumClamped (throws.map Throw.total)

def draws : Trial → List UInt32
  | cursed value => [value]
  | dice throws => throws.flatMap Throw.draws

def drawCount (t : Trial) : Nat := t.draws.length

/-- Whether the trial is a draw from the cursed die. -/
def isCursed : Trial → Bool
  | cursed _ => true
  | dice _ => false

end Trial

/-- A finished roll. -/
structure Outcome where
  title : Option String
  advantage : Advantage
  first : Trial
  /-- The trials after the first, of which the foremost is the replay. -/
  later : List Trial
  /-- What is added to the value that counts, if anything is. -/
  modifier : Option Int64
deriving DecidableEq

namespace Outcome

def trials (o : Outcome) : List Trial := o.first :: o.later

/-- The second trial, if the roll was played twice. -/
def replay (o : Outcome) : Option Trial := o.later.head?

/-- Whether the roll was made with the cursed die. -/
def isCursed (o : Outcome) : Bool := o.first.isCursed

/-- The value that counts, without the modifier. -/
def rollTotal (o : Outcome) : Int64 :=
  match o.replay with
  | some replay => o.advantage.pick o.first.total replay.total
  | none => o.first.total

/-- The value that counts, with the modifier added once. -/
def total (o : Outcome) : Int64 := addClamped o.rollTotal (o.modifier.getD 0)

def draws (o : Outcome) : List UInt32 := o.trials.flatMap Trial.draws

def drawCount (o : Outcome) : Nat := o.draws.length

end Outcome

end ChatDice
