import ChatDice.Text.Decimal

/-!
# Numbers in a JSON text

A number keeps the digits with which it is written. Whether a double can hold it is found with the
first digits alone, as many as fit into 64 bits: they and the power of ten are each rounded to a
double, and so is their product.
-/

namespace ChatDice

/-- A number as it is written. -/
structure Numeral where
  negative : Bool := false
  whole : List Char
  /-- The digits after the point, if there is one. -/
  fraction : Option (List Char) := none
  /-- The exponent of ten, if one is given. -/
  exponent : Option Int := none
deriving DecidableEq

namespace Numeral

/-! ## Reading -/

/-- The digits after a point and what follows them. A point needs a digit after it. -/
def readFraction? : List Char → Option (Option (List Char) × List Char)
  | '.' :: rest =>
    match rest.takeWhile Char.isDigit with
    | [] => none
    | digits => some (some digits, rest.dropWhile Char.isDigit)
  | rest => some (none, rest)

/-- The exponent that the rest of a number is; its sign may be left out. -/
def readExponent? : List Char → Option (Option Int)
  | [] => some none
  | e :: rest =>
    if e = 'e' ∨ e = 'E' then
      match rest with
      | '-' :: digits => (Text.nat? digits).map fun n => some (-n)
      | '+' :: digits => (Text.nat? digits).map fun n => some n
      | digits => (Text.nat? digits).map fun n => some n
    else none

/-- Whether digits can stand before the point: there is one at least, and a zero stands alone. -/
def isWhole : List Char → Bool
  | [] => false
  | '0' :: rest => rest.isEmpty
  | _ => true

/-- Reads a number without a sign. -/
def readUnsigned? (negative : Bool) (cs : List Char) : Option Numeral := do
  let whole := cs.takeWhile Char.isDigit
  let (fraction, rest) ← readFraction? (cs.dropWhile Char.isDigit)
  let exponent ← readExponent? rest
  if isWhole whole then return { negative, whole, fraction, exponent } else none

/-- Reads the whole of a word as a number. -/
def read? : List Char → Option Numeral
  | '-' :: rest => readUnsigned? true rest
  | cs => readUnsigned? false cs

/-! ## Writing -/

def ofNat (n : Nat) : Numeral := { whole := Nat.toDigits 10 n }

def text (n : Numeral) : List Char :=
  (if n.negative then ['-'] else []) ++ n.whole ++
    (match n.fraction with
      | some digits => '.' :: digits
      | none => []) ++
    (match n.exponent with
      | some e => 'e' :: (if e < 0 then ['-'] else []) ++ Nat.toDigits 10 e.natAbs
      | none => [])

/-- The natural number that is written without sign, point and exponent. -/
def nat? (n : Numeral) : Option Nat :=
  if n.negative ∨ n.fraction.isSome ∨ n.exponent.isSome then none
  else some (Nat.ofDigitChars 10 n.whole 0)

/-! ## The range of doubles -/

/-- Takes digits before the point into the significand `sig` as long as it stays below 2⁶⁴; each
digit from the first that does not fit counts as a power of ten. -/
def takeWhole (sig : Nat) : List Char → Nat × Int
  | [] => (sig, 0)
  | c :: rest =>
    let next := Nat.ofDigitChars 10 [c] sig
    if next < UInt64.size then takeWhole next rest else (sig, rest.length + 1)

/-- Takes digits after the point into the significand as long as it stays below 2⁶⁴; each of them
lowers the power of ten, and those that do not fit are left out. -/
def takeFraction (sig : Nat) (power : Int) : List Char → Nat × Int
  | [] => (sig, power)
  | c :: rest =>
    let next := Nat.ofDigitChars 10 [c] sig
    if next < UInt64.size then takeFraction next (power - 1) rest else (sig, power)

/-- The number `n` rounded to 53 binary digits; a tie goes to the even neighbour. -/
def round53 (n : Nat) : Nat :=
  if n < 1 <<< 53 then n
  else
    let unit := 1 <<< (n.log2 - 52)
    let q := n / unit
    let r := n % unit
    if unit < 2 * r ∨ (unit = 2 * r ∧ q % 2 = 1) then (q + 1) * unit else q * unit

/-- Whether a double can hold the number: the product of the rounded significand and the rounded
power of ten does not round beyond the greatest double. -/
def isFinite (n : Numeral) : Bool :=
  let (sig, power) := takeWhole 0 n.whole
  let (sig, power) := takeFraction sig power (n.fraction.getD [])
  let power := power + n.exponent.getD 0
  sig == 0 || power ≤ 0 ||
    (power ≤ 308 &&
      round53 sig * round53 (Nat.pow 10 power.toNat) < (1 <<< 1024) - (1 <<< 970))

end Numeral

end ChatDice
