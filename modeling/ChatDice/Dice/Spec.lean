import ChatDice.Text.Decimal

/-!
# Dice expressions

A dice expression such as `2d10+3` asks for a number of dice of one kind and may carry a modifier of
its own.
-/

namespace ChatDice

/-- A die, which has at least one side. -/
structure Die where
  sides : UInt32
  sides_pos : 0 < sides := by decide
deriving DecidableEq

/-- The die with `n` sides, if there is one. -/
def Die.ofSides? (n : UInt32) : Option Die :=
  if h : 0 < n then some ⟨n, h⟩ else none

/-- The common die. -/
def Die.d6 : Die := ⟨6, by decide⟩

/-- The name of a die, as in `d20`. -/
def Die.name (d : Die) : String := "d" ++ d.sides.toNat.repr

/-- A dice expression: how many dice of what kind, and what to add to their sum. -/
structure Spec where
  count : UInt32
  die : Die
  /-- What to add to the sum of the dice, if anything is to be added. -/
  modifier : Option Int64
deriving DecidableEq

/-- The written form of a dice expression, as in `2d10+3`. -/
def Spec.text (s : Spec) : String :=
  s.count.toNat.repr ++ s.die.name ++ (match s.modifier with
    | some m => Text.signed m
    | none => "")

end ChatDice
