/-!
# Limits

How many dice a request may roll and how long a reply may become.
-/

namespace ChatDice

/-- The greatest number that a limit or a count of dice can be. -/
def maxCount : Nat := UInt64.size - 1

/-- The most dice that a request may roll, if nothing else is said. -/
def usualMaxRolls : Nat := 1000

/-- The most characters that a reply may have, if nothing else is said. -/
def usualMaxLength : Nat := 2000

/-- The limits of one request. -/
structure Limits where
  /-- The most dice that a request may roll, replays included; `none` is no limit. -/
  maxRolls : Option Nat := some usualMaxRolls
  /-- The most characters that a reply may have before its transcript is summarized. -/
  maxLength : Nat := usualMaxLength
deriving DecidableEq

/-- Any number of dice, and replies of the usual length. -/
def Limits.unbounded : Limits := { maxRolls := none }

end ChatDice
