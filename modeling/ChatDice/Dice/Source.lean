import ChatDice.Dice.Spec

/-!
# Sources of dice

A source rolls one die after the other. Three sources are given: a counter that walks round the die,
a fixed row of values that starts again at its end, and a row of random words that is turned into
fair dice by rejection. Main statements: `rollTimes_zero`, `rollTimes_succ` — rolling a die several
times is rolling it once and then the other times; `face_pos`, `face_le` — a word gives a side of
the die.
-/

namespace ChatDice

/-- A source of dice: from its state, a die gives a value and the next state. -/
class Roller (σ : Type) where
  roll : Die → σ → UInt32 × σ

namespace Roller

variable {σ : Type} [Roller σ]

/-- Rolls a die `n` times after the values `earlier`, latest first. -/
def rollOnto (die : Die) : Nat → List UInt32 → σ → List UInt32 × σ
  | 0, earlier, s => (earlier.reverse, s)
  | n + 1, earlier, s =>
    let (value, s) := roll die s
    rollOnto die n (value :: earlier) s

def rollTimes (die : Die) (n : Nat) (s : σ) : List UInt32 × σ := rollOnto die n [] s

/-- Rolls each of a row of dice once. -/
def rollAll : List Die → σ → List UInt32 × σ
  | [], s => ([], s)
  | die :: dice, s =>
    let (value, s) := roll die s
    let (values, s) := rollAll dice s
    (value :: values, s)

theorem rollOnto_eq (die : Die) (n : Nat) (earlier : List UInt32) (s : σ) :
    rollOnto die n earlier s =
      (earlier.reverse ++ (rollTimes die n s).1, (rollTimes die n s).2) := by
  induction n generalizing earlier s with
  | zero => simp [rollTimes, rollOnto]
  | succ n ih =>
    simp only [rollTimes, rollOnto]
    rw [ih, ih [_]]
    simp

@[simp] theorem rollTimes_zero (die : Die) (s : σ) : rollTimes die 0 s = ([], s) := rfl

theorem rollTimes_succ (die : Die) (n : Nat) (s : σ) :
    rollTimes die (n + 1) s =
      ((roll die s).1 :: (rollTimes die n (roll die s).2).1,
        (rollTimes die n (roll die s).2).2) := by
  simp only [rollTimes, rollOnto]
  rw [rollOnto_eq]
  simp [rollTimes]

theorem rollTimes_eq_rollAll (die : Die) (n : Nat) (s : σ) :
    rollTimes die n s = rollAll (List.replicate n die) s := by
  induction n generalizing s with
  | zero => rfl
  | succ n ih => simp [rollTimes_succ, List.replicate_succ, rollAll, ih]

@[simp] theorem length_rollTimes (die : Die) (n : Nat) (s : σ) :
    (rollTimes die n s).1.length = n := by
  induction n generalizing s with
  | zero => rfl
  | succ n ih => simp [rollTimes_succ, ih]

end Roller

/-! ## A counter -/

/-- A counter that rolls by its remainder and goes up by a fixed step. A count of one gives the
first side of any die, and the count is never less than one. -/
structure Steps where
  /-- How far the count is beyond one. -/
  passed : Nat
  /-- What each roll adds to the count. -/
  step : Nat

/-- The counter that starts at `start`, or at one if `start` is zero. -/
def Steps.startingAt (start step : Nat) : Steps := { passed := start - 1, step }

instance : Roller Steps where
  roll die s :=
    (UInt32.ofNat (s.passed % die.sides.toNat + 1), { s with passed := s.passed + s.step })

/-! ## A row of values -/

/-- Fixed values that come round again and again, the next one first. They are given out whatever
the die, so that they need not be sides of it. -/
structure Cycle where
  /-- The values, in the order in which they come next. -/
  values : List UInt32

instance : Roller Cycle where
  roll _ s :=
    match s.values with
    | [] => (1, s)
    | value :: others => (value, ⟨others ++ [value]⟩)

/-! ## A row of random words -/

/-- The number of zero bits above the highest bit of a number of 32 bits that is not zero. -/
def leadingZeros (n : UInt32) : Nat := 31 - n.toNat.log2

/-- The greatest lower half of a product that is accepted: below it, each side of a die with `n`
sides has the same number of words. -/
def zone (n : UInt32) : Nat := n.toNat <<< leadingZeros n - 1

/-- Whether the word `v` is used for a die with `n` sides. -/
def accepts (n v : UInt32) : Bool := v.toNat * n.toNat % UInt32.size ≤ zone n

/-- The side that the word `v` gives: the upper half of its product with the number of sides. -/
def face (n v : UInt32) : UInt32 := UInt32.ofNat (1 + v.toNat * n.toNat / UInt32.size)

/-- Random words, followed by zeros without end. -/
structure RandomWords where
  words : List UInt32

/-- The side that the first accepted word gives, and the words after it. Zero is always accepted and
gives the first side. -/
def firstFace (n : UInt32) : List UInt32 → UInt32 × List UInt32
  | [] => (1, [])
  | v :: rest => if accepts n v then (face n v, rest) else firstFace n rest

instance : Roller RandomWords where
  roll die s :=
    let (value, rest) := firstFace die.sides s.words
    (value, ⟨rest⟩)

theorem accepts_zero (n : UInt32) : accepts n 0 = true := by simp [accepts]

theorem face_zero (n : UInt32) : face n 0 = 1 := by simp [face]

theorem upperHalf_lt {n : UInt32} (h : 0 < n) (v : UInt32) :
    v.toNat * n.toNat / UInt32.size < n.toNat :=
  Nat.div_lt_of_lt_mul (Nat.mul_lt_mul_of_pos_right v.toNat_lt (UInt32.lt_iff_toNat_lt.1 h))

theorem toNat_face {n : UInt32} (h : 0 < n) (v : UInt32) :
    (face n v).toNat = 1 + v.toNat * n.toNat / UInt32.size := by
  have fits : 1 + v.toNat * n.toNat / UInt32.size < UInt32.size :=
    Nat.lt_of_le_of_lt (Nat.one_add _ ▸ upperHalf_lt h v) n.toNat_lt
  rw [face, UInt32.toNat_ofNat_of_lt' fits]

theorem face_pos {n : UInt32} (h : 0 < n) (v : UInt32) : 1 ≤ (face n v).toNat := by
  rw [toNat_face h]
  exact Nat.le_add_right _ _

theorem face_le {n : UInt32} (h : 0 < n) (v : UInt32) : (face n v).toNat ≤ n.toNat := by
  rw [toNat_face h, Nat.one_add]
  exact upperHalf_lt h v

/-! ## Any of them -/

/-- One of the sources above. -/
inductive Source
  | steps (s : Steps)
  | cycle (s : Cycle)
  | words (s : RandomWords)

instance : Roller Source where
  roll die
    | .steps s => let (value, s) := Roller.roll die s; (value, .steps s)
    | .cycle s => let (value, s) := Roller.roll die s; (value, .cycle s)
    | .words s => let (value, s) := Roller.roll die s; (value, .words s)

end ChatDice
