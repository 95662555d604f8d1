/-!
# Decimal numbers

Numbers are written in decimal digits without leading zeros, and read from any number of them. Main
statements: `nat?_toDigits` — what is written reads back; `nat?_eq_some_iff` — a text reads as a
number just if it is a non-empty row of digits, and leading zeros do not count.
-/

namespace ChatDice.Text

/-- The number that a non-empty row of decimal digits stands for. -/
def nat? (cs : List Char) : Option Nat :=
  if cs ≠ [] ∧ cs.all Char.isDigit then some (Nat.ofDigitChars 10 cs 0) else none

/-- A number with its sign only if it is negative. -/
def decimal (n : Int64) : String :=
  if n.toInt < 0 then "-" ++ n.toInt.natAbs.repr else n.toInt.natAbs.repr

/-- A number with its sign in any case, which is `+` for zero. -/
def signed (n : Int64) : String :=
  if n.toInt < 0 then "-" ++ n.toInt.natAbs.repr else "+" ++ n.toInt.natAbs.repr

/-- The whole number of 64 bits that `n` is, if it is in their range. -/
def toInt64? (n : Int) : Option Int64 :=
  if Int64.minValue.toInt ≤ n ∧ n ≤ Int64.maxValue.toInt then some (Int64.ofInt n) else none

/-- The number that a sign and the digits after it stand for, if 64 bits can hold it. -/
def signed? : List Char → Option Int64
  | '+' :: digits => (nat? digits).bind fun n => toInt64? n
  | '-' :: digits => (nat? digits).bind fun n => toInt64? (-n)
  | _ => none

theorem nat?_eq_some_iff {cs : List Char} {n : Nat} :
    nat? cs = some n ↔
      cs ≠ [] ∧ (∀ c ∈ cs, c.isDigit = true) ∧ Nat.ofDigitChars 10 cs 0 = n := by
  simp only [nat?, List.all_eq_true]
  split
  · next h =>
    simp only [Option.some.injEq]
    exact ⟨fun hn => ⟨h.1, h.2, hn⟩, fun hn => hn.2.2⟩
  · next h =>
    simp only [reduceCtorEq, false_iff]
    exact fun hn => h ⟨hn.1, hn.2.1⟩

theorem nat?_toDigits (n : Nat) : nat? (Nat.toDigits 10 n) = some n :=
  nat?_eq_some_iff.2 ⟨Nat.toDigits_ne_nil,
    fun _ hc => Nat.isDigit_of_mem_toDigits (by decide) (by decide) hc,
    Nat.ofDigitChars_ten_toDigits⟩

/-- A number above zero is written without a zero at the start. -/
theorem toDigits_eq_cons {n : Nat} (h : 0 < n) :
    ∃ c rest, Nat.toDigits 10 n = c :: rest ∧ c ≠ '0' := by
  induction n using Nat.strongRecOn with
  | ind n ih =>
    by_cases hn : n < 10
    · have all : ∀ k < 10, 0 < k → Nat.digitChar k ≠ '0' := by decide
      rw [Nat.toDigits_of_lt_base hn]
      exact ⟨_, [], rfl, all n hn h⟩
    · obtain ⟨c, rest, digits, hc⟩ := ih (n / 10) (by omega) (by omega)
      have split : Nat.toDigits 10 (n / 10) ++ Nat.toDigits 10 (n % 10) =
          Nat.toDigits 10 (10 * (n / 10) + n % 10) :=
        Nat.toDigits_append_toDigits (by decide) (by omega) (by omega)
      rw [Nat.div_add_mod, digits, List.cons_append] at split
      exact ⟨c, _, split.symm, hc⟩

/-- A text is cut where `p` stops to hold. -/
theorem takeWhile_front {p : Char → Bool} {front rest : List Char} (hf : ∀ c ∈ front, p c = true)
    (h : ∀ c ∈ rest.head?, p c = false) :
    (front ++ rest).takeWhile p = front ∧ (front ++ rest).dropWhile p = rest := by
  rw [List.takeWhile_append_of_pos hf, List.dropWhile_append_of_pos hf]
  cases rest with
  | nil => exact ⟨List.append_nil _, rfl⟩
  | cons c rest =>
    have hc : ¬p c = true := by simp [h c rfl]
    rw [List.takeWhile_cons_of_neg hc, List.dropWhile_cons_of_neg hc, List.append_nil]
    exact ⟨rfl, rfl⟩

theorem takeWhile_digits {digits : List Char} (hd : ∀ c ∈ digits, c.isDigit = true)
    {rest : List Char} (h : ∀ c ∈ rest.head?, c.isDigit = false) :
    (digits ++ rest).takeWhile Char.isDigit = digits ∧
      (digits ++ rest).dropWhile Char.isDigit = rest :=
  takeWhile_front hd h

theorem toInt64?_toInt (n : Int64) : toInt64? n.toInt = some n := by
  have below := Int64.minValue_le_toInt n
  have above := Int64.toInt_le n
  simp only [toInt64?]
  split
  · simp
  · omega

/-- A number written with its sign reads back. -/
theorem signed?_signed (n : Int64) : signed? (signed n).toList = some n := by
  unfold signed
  split
  · simp only [String.toList_append, Nat.toList_repr]
    show (nat? (Nat.toDigits 10 n.toInt.natAbs)).bind _ = _
    rw [nat?_toDigits, Option.bind_some, show (-(n.toInt.natAbs : Int)) = n.toInt by omega,
      toInt64?_toInt]
  · simp only [String.toList_append, Nat.toList_repr]
    show (nat? (Nat.toDigits 10 n.toInt.natAbs)).bind _ = _
    rw [nat?_toDigits, Option.bind_some, show ((n.toInt.natAbs : Int)) = n.toInt by omega,
      toInt64?_toInt]

end ChatDice.Text
