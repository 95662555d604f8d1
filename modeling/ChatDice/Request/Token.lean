import ChatDice.Dice.Spec

/-!
# Tokens

What a single lower case word of a request can say: a dice expression, a signed modifier or one of
seven keywords. A word is a token only as a whole, and only if its numbers are in range: a count has
32 bits, a die has between 1 and 2³² - 1 sides, and a modifier has 64 bits.
-/

namespace ChatDice

/-- What a word of a request says. -/
inductive Token
  /-- A dice expression, as `2d10+3`. -/
  | dice (spec : Spec)
  /-- A modifier of the whole roll, as `-2`. -/
  | modifier (value : Int64)
  | cursed
  | advantage
  | disadvantage
  | help
deriving DecidableEq

/-- The number of 32 bits that a non-empty row of digits stands for. -/
def wordNat? (digits : List Char) : Option UInt32 :=
  (Text.nat? digits).bind fun n => if n < UInt32.size then some (UInt32.ofNat n) else none

/-- The number of dice that stands before the `d`: one if there is none. -/
def Spec.readCount? (digits : List Char) : Option UInt32 :=
  if digits = [] then some 1 else wordNat? digits

/-- The modifier that stands after the sides, if one does; the outer `none` means that something
else stands there. -/
def Spec.readModifier? : List Char → Option (Option Int64)
  | [] => some none
  | c :: rest => (Text.signed? (c :: rest)).map some

def Spec.read? (word : List Char) : Option Spec :=
  match word.dropWhile Char.isDigit with
  | 'd' :: rest => do
    let count ← readCount? (word.takeWhile Char.isDigit)
    let sides ← wordNat? (rest.takeWhile Char.isDigit)
    let die ← Die.ofSides? sides
    let modifier ← readModifier? (rest.dropWhile Char.isDigit)
    return ⟨count, die, modifier⟩
  | _ => none

namespace Token

/-- The keywords and what they say. -/
def keywords : List (List Char × Token) := [
  ("cursed".toList, cursed),
  ("adv".toList, advantage),
  ("advantage".toList, advantage),
  ("dis".toList, disadvantage),
  ("disadvantage".toList, disadvantage),
  ("help".toList, help),
  ("man".toList, help)]

/-- Reads a whole word as a token. No word is a token in two ways. -/
def read? (word : List Char) : Option Token :=
  match keywords.lookup word with
  | some token => some token
  | none =>
    match Spec.read? word with
    | some spec => some (dice spec)
    | none => (Text.signed? word).map modifier

/-- The name of the kind of a token, as the log shows it. -/
def kind : Token → String
  | dice _ => "<roll>"
  | modifier _ => "<modifier>"
  | cursed => "'cursed'"
  | advantage => "'adv'"
  | disadvantage => "'dis'"
  | help => "'help'"

end Token

end ChatDice
