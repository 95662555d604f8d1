/-!
# Refusals

Why a request is not rolled.
-/

namespace ChatDice

/-- Why a request is not rolled. -/
inductive Refusal
  | conflictingAdvantage
  | missingRoll
  /-- What follows the sign of the modifier is no number in range. -/
  | invalidModifier (text : String)
  | tooManyRolls (limit : Nat)
deriving DecidableEq

def Refusal.message : Refusal → String
  | conflictingAdvantage => "Input Error: Can't have both 'adv' and 'dis'"
  | missingRoll => "Input Error: Couldn't find a roll. Include `cursed` or `#d#`."
  | invalidModifier text => "Input Error: Expected modifier to be a number. Got '" ++ text ++ "'."
  | tooManyRolls limit =>
    "Input Error: Too many dice; at most " ++ limit.repr ++ " can be rolled at once."

end ChatDice
