import ChatDice.Dice.Source

/-!
# A pseudo-random source

A generator of random words from a seed of 64 bits, for dice that no one has to foresee. A word that
a die does not accept is passed over; since a run of such words may not last for ever, the first
side is given after 128 of them, which is less likely than once in 2¹²⁸ rolls.
-/

namespace ChatDice

/-- A generator whose state goes up by an odd constant with each word. -/
structure Generator where
  state : UInt64

namespace Generator

/-- The next word: the upper half of the state with its bits mixed. -/
def next (g : Generator) : UInt32 × Generator :=
  let z := g.state + 0x9E3779B97F4A7C15
  let a := (z ^^^ (z >>> 30)) * 0xBF58476D1CE4E5B9
  let b := (a ^^^ (a >>> 27)) * 0x94D049BB133111EB
  (((b ^^^ (b >>> 31)) >>> 32).toUInt32, ⟨z⟩)

/-- The side that the first accepted word gives, out of so many words. -/
def firstFace (n : UInt32) : Nat → Generator → UInt32 × Generator
  | 0, g => (1, g)
  | tries + 1, g =>
    let (v, g) := g.next
    if accepts n v then (face n v, g) else firstFace n tries g

end Generator

instance : Roller Generator where
  roll die g := Generator.firstFace die.sides 128 g

end ChatDice
