/-!
# Clamped addition

Points are whole numbers of 64 bits. A sum that leaves their range becomes the end of the range that
it passed. Main statements: `toInt_clamp` — clamping takes the nearest number in range;
`toInt_addClamped_of_fits` — a sum in range is exact.
-/

namespace ChatDice

/-- The number of 64 bits nearest to `n`. -/
def clamp (n : Int) : Int64 :=
  if n < Int64.minValue.toInt then Int64.minValue
  else if Int64.maxValue.toInt < n then Int64.maxValue
  else Int64.ofInt n

/-- The sum of two numbers, clamped to the range of 64 bits. -/
def addClamped (a b : Int64) : Int64 := clamp (a.toInt + b.toInt)

/-- The sum of a row of numbers, clamped after each of them. -/
def sumClamped (ns : List Int64) : Int64 := ns.foldl addClamped 0

theorem toInt_clamp (n : Int) :
    (clamp n).toInt = max Int64.minValue.toInt (min n Int64.maxValue.toInt) := by
  have ends : Int64.minValue.toInt ≤ Int64.maxValue.toInt := by decide
  rw [clamp]
  split
  · omega
  · split
    · omega
    · next low high =>
      have least : Int64.minValue.toInt = -9223372036854775808 := by decide
      have greatest : Int64.maxValue.toInt = 9223372036854775807 := by decide
      rw [Int64.toInt_ofInt_of_le (by omega) (by omega)]
      omega

theorem clamp_toInt (n : Int64) : clamp n.toInt = n := by
  apply Int64.toInt_inj.1
  have := Int64.minValue_le_toInt n
  have := Int64.toInt_le n
  rw [toInt_clamp]
  omega

theorem toInt_addClamped (a b : Int64) :
    (addClamped a b).toInt =
      max Int64.minValue.toInt (min (a.toInt + b.toInt) Int64.maxValue.toInt) :=
  toInt_clamp _

theorem toInt_addClamped_of_fits {a b : Int64}
    (low : Int64.minValue.toInt ≤ a.toInt + b.toInt)
    (high : a.toInt + b.toInt ≤ Int64.maxValue.toInt) :
    (addClamped a b).toInt = a.toInt + b.toInt := by
  rw [toInt_addClamped]
  omega

theorem addClamped_mono {a b m n : Int64} (h : a ≤ b) (h' : m ≤ n) :
    addClamped a m ≤ addClamped b n := by
  rw [Int64.le_iff_toInt_le] at h h' ⊢
  rw [toInt_addClamped, toInt_addClamped]
  omega

@[simp] theorem addClamped_zero (a : Int64) : addClamped a 0 = a := by
  simp [addClamped, clamp_toInt]

end ChatDice
