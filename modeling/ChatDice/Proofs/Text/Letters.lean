import ChatDice.Text.Alphanumeric
import ChatDice.Text.Blank
import ChatDice.Text.Lowercase

/-!
# The case of ASCII letters

Two texts may differ in the case of ASCII letters and be the same otherwise. Other letters have to
be equal, and so has their case.

**Theorem (`lower_map_toLower`).** Such texts have the same lower case form, final sigma included.

An ASCII letter keeps its classes when its case changes: it is a letter of a word, it is cased, and
no rule looks through it. Each of these is a check of 128 characters (`apply_toLower`). So the
neighbours of a capital sigma decide alike in both texts.
-/

namespace ChatDice.Text

/-- The texts are the same but for the case of ASCII letters. -/
def SameLetters (a b : List Char) : Prop := a.map Char.toLower = b.map Char.toLower

instance (a b : List Char) : Decidable (SameLetters a b) :=
  inferInstanceAs (Decidable (a.map Char.toLower = b.map Char.toLower))

/-! ## Classes of characters -/

theorem toLower_of_not_ascii {c : Char} (h : ¬c.toNat < 128) : c.toLower = c := by
  unfold Char.toLower
  rw [dif_neg]
  rintro ⟨-, last⟩
  exact h (Nat.lt_of_le_of_lt (UInt32.le_iff_toNat_le.1 last) (by decide))

/-- What is said of ASCII characters in either case is said of all. -/
theorem apply_toLower {β : Type} (f : Char → β)
    (ascii : ∀ n < 128, f (Char.ofNat n).toLower = f (Char.ofNat n)) (c : Char) :
    f c.toLower = f c := by
  by_cases h : c.toNat < 128
  · have small := ascii c.toNat h
    rwa [Char.ofNat_toNat] at small
  · rw [toLower_of_not_ascii h]

@[simp] theorem toLower_toLower (c : Char) : c.toLower.toLower = c.toLower :=
  apply_toLower Char.toLower (by decide +kernel) c

@[simp] theorem isBlank_toLower (c : Char) : isBlank c.toLower = isBlank c :=
  apply_toLower isBlank (by decide +kernel) c

@[simp] theorem isWordChar_toLower (c : Char) : isWordChar c.toLower = isWordChar c :=
  apply_toLower isWordChar (by decide +kernel) c

@[simp] theorem isCased_toLower (c : Char) : isCased c.toLower = isCased c :=
  apply_toLower isCased (by decide +kernel) c

@[simp] theorem isCaseIgnorable_toLower (c : Char) :
    isCaseIgnorable c.toLower = isCaseIgnorable c :=
  apply_toLower isCaseIgnorable (by decide +kernel) c

@[simp] theorem smallLetter_toLower (c : Char) : smallLetter c.toLower = smallLetter c :=
  apply_toLower smallLetter (by decide +kernel) c

/-- A character that is no ASCII letter is the small form of itself alone. -/
theorem toLower_eq_iff {d : Char} (other : ∀ n < 128,
      ((Char.ofNat n).toLower == d) = (Char.ofNat n == d)) {c : Char} : c.toLower = d ↔ c = d := by
  rw [← beq_iff_eq, apply_toLower (· == d) other c, beq_iff_eq]

@[simp] theorem toLower_eq_quote {c : Char} : c.toLower = '"' ↔ c = '"' :=
  toLower_eq_iff (by decide +kernel)

@[simp] theorem toLower_eq_colon {c : Char} : c.toLower = ':' ↔ c = ':' :=
  toLower_eq_iff (by decide +kernel)

@[simp] theorem toLower_eq_sigma {c : Char} : c.toLower = 'Σ' ↔ c = 'Σ' :=
  toLower_eq_iff (by decide +kernel)

/-! ## Words and their lower case form -/

theorem takeWhile_map_toLower {p : Char → Bool} (h : ∀ c, p c.toLower = p c) (cs : List Char) :
    (cs.map Char.toLower).takeWhile p = (cs.takeWhile p).map Char.toLower := by
  rw [List.takeWhile_map, show p ∘ Char.toLower = p from funext h]

theorem dropWhile_map_toLower {p : Char → Bool} (h : ∀ c, p c.toLower = p c) (cs : List Char) :
    (cs.map Char.toLower).dropWhile p = (cs.dropWhile p).map Char.toLower := by
  rw [List.dropWhile_map, show p ∘ Char.toLower = p from funext h]

theorem trim_map_toLower (cs : List Char) :
    trim (cs.map Char.toLower) = (trim cs).map Char.toLower := by
  rw [trim, dropWhile_map_toLower isBlank_toLower, ← List.map_reverse,
    dropWhile_map_toLower isBlank_toLower, ← List.map_reverse, trim]

theorem endsWord_map_toLower (cs : List Char) : endsWord (cs.map Char.toLower) = endsWord cs := by
  cases cs with
  | nil => rfl
  | cons c rest => exact isBlank_toLower c

theorem words_map_toLower (cs : List Char) :
    words (cs.map Char.toLower) = (words cs).map (List.map Char.toLower) := by
  induction cs with
  | nil => rfl
  | cons c rest ih =>
    rw [List.map_cons, words, words, isBlank_toLower, endsWord_map_toLower, ih]
    split
    · rfl
    · split
      · rfl
      · cases words rest <;> rfl

theorem meetsCased_map_toLower (cs : List Char) :
    meetsCased (cs.map Char.toLower) = meetsCased cs := by
  rw [meetsCased, meetsCased, dropWhile_map_toLower isCaseIgnorable_toLower]
  cases cs.dropWhile isCaseIgnorable with
  | nil => rfl
  | cons c rest => exact isCased_toLower c

theorem lowerFrom_map_toLower (before cs : List Char) :
    lowerFrom (before.map Char.toLower) (cs.map Char.toLower) = lowerFrom before cs := by
  induction cs generalizing before with
  | nil => rfl
  | cons c rest ih =>
    have here : lowerBetween (before.map Char.toLower) c.toLower (rest.map Char.toLower) =
        lowerBetween before c rest := by
      simp only [lowerBetween, toLower_eq_sigma, meetsCased_map_toLower, smallLetter_toLower]
    have rest := ih (c :: before)
    rw [List.map_cons] at rest
    rw [List.map_cons, lowerFrom, lowerFrom, here, rest]

/-- **The case of ASCII letters makes no difference in lower case.** -/
theorem lower_map_toLower (cs : List Char) : lower (cs.map Char.toLower) = lower cs :=
  lowerFrom_map_toLower [] cs

end ChatDice.Text
