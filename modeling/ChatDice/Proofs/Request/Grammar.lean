import ChatDice.Proofs.Request.Spelling

/-!
# The grammar of tokens

Which words are tokens is said here by rules, with what the numbers in a word have to be worth.

**Theorem (`Token.read?_eq_some_iff`).** A word is read as a token just if the rules say so.

**Theorem (`Token.read?_zeros`).** Zeros at the start of a row of digits do not count.

The digits of a count end at the `d`, those of the sides at a sign or at the end. A modifier starts
with a sign, so no two parts run into each other, and a word with a digit in it is no keyword.
-/

namespace ChatDice

open Text

/-! ## Rules -/

/-- A non-empty row of digits that is worth `n`. -/
structure IsNumber (digits : List Char) (n : Nat) : Prop where
  ne_nil : digits ≠ []
  isDigit : ∀ c ∈ digits, c.isDigit = true
  value : Nat.ofDigitChars 10 digits 0 = n

/-- A sign and digits that are worth `n`, which has 64 bits. -/
inductive IsSigned : List Char → Int64 → Prop
  | plus {digits : List Char} {n : Int64} {k : Nat} : IsNumber digits k → n.toInt = k →
    IsSigned ('+' :: digits) n
  | minus {digits : List Char} {n : Int64} {k : Nat} : IsNumber digits k → n.toInt = -k →
    IsSigned ('-' :: digits) n

theorem IsSigned.exists_sign {cs : List Char} {n : Int64} (h : IsSigned cs n) :
    ∃ sign digits, cs = sign :: digits ∧ (sign = '+' ∨ sign = '-') := by
  cases h with
  | plus => exact ⟨_, _, rfl, .inl rfl⟩
  | minus => exact ⟨_, _, rfl, .inr rfl⟩

/-- The part of a dice expression before the `d`. -/
inductive IsCount : List Char → UInt32 → Prop
  | absent : IsCount [] 1
  | digits {digits : List Char} {count : UInt32} : IsNumber digits count.toNat →
    IsCount digits count

/-- The part of a dice expression after the sides. -/
inductive IsModifier : List Char → Option Int64 → Prop
  | absent : IsModifier [] none
  | signed {cs : List Char} {n : Int64} : IsSigned cs n → IsModifier cs (some n)

namespace Token

/-- A word says a token. -/
inductive Reads : List Char → Token → Prop
  | dice {count sides modifier : List Char} {spec : Spec} : IsCount count spec.count →
    IsNumber sides spec.die.sides.toNat → IsModifier modifier spec.modifier →
    Reads (count ++ 'd' :: (sides ++ modifier)) (.dice spec)
  | modifier {cs : List Char} {n : Int64} : IsSigned cs n → Reads cs (.modifier n)
  | cursed : Reads "cursed".toList .cursed
  | adv : Reads "adv".toList .advantage
  | advantage : Reads "advantage".toList .advantage
  | dis : Reads "dis".toList .disadvantage
  | disadvantage : Reads "disadvantage".toList .disadvantage
  | help : Reads "help".toList .help
  | man : Reads "man".toList .help

end Token

/-! ## Numbers -/

namespace Text

theorem nat?_eq_some_iff_isNumber {cs : List Char} {n : Nat} :
    nat? cs = some n ↔ IsNumber cs n :=
  nat?_eq_some_iff.trans ⟨fun h => ⟨h.1, h.2.1, h.2.2⟩, fun h => ⟨h.ne_nil, h.isDigit, h.value⟩⟩

theorem toInt64?_eq_some_iff {n : Int} {m : Int64} : toInt64? n = some m ↔ m.toInt = n := by
  constructor
  · intro h
    unfold toInt64? at h
    split at h
    · next inRange =>
      obtain rfl := Option.some.inj h
      exact Int64.toInt_ofInt_of_le inRange.1 (Int.lt_add_one_of_le inRange.2)
    · cases h
  · rintro rfl
    exact toInt64?_toInt m

theorem signed?_eq_some_iff {cs : List Char} {n : Int64} : signed? cs = some n ↔ IsSigned cs n := by
  constructor
  · intro h
    unfold signed? at h
    split at h
    · obtain ⟨k, hk, hn⟩ := Option.bind_eq_some_iff.1 h
      exact .plus (nat?_eq_some_iff_isNumber.1 hk) (toInt64?_eq_some_iff.1 hn)
    · obtain ⟨k, hk, hn⟩ := Option.bind_eq_some_iff.1 h
      exact .minus (nat?_eq_some_iff_isNumber.1 hk) (toInt64?_eq_some_iff.1 hn)
    · cases h
  · rintro (⟨hk, hn⟩ | ⟨hk, hn⟩)
    · exact Option.bind_eq_some_iff.2
        ⟨_, nat?_eq_some_iff_isNumber.2 hk, toInt64?_eq_some_iff.2 hn⟩
    · exact Option.bind_eq_some_iff.2
        ⟨_, nat?_eq_some_iff_isNumber.2 hk, toInt64?_eq_some_iff.2 hn⟩

end Text

theorem wordNat?_eq_some_iff {cs : List Char} {n : UInt32} :
    wordNat? cs = some n ↔ IsNumber cs n.toNat := by
  rw [wordNat?, Option.bind_eq_some_iff]
  constructor
  · rintro ⟨k, hk, h⟩
    split at h
    · next small =>
      obtain rfl := Option.some.inj h
      rw [UInt32.toNat_ofNat_of_lt' small]
      exact nat?_eq_some_iff_isNumber.1 hk
    · cases h
  · intro h
    exact ⟨n.toNat, nat?_eq_some_iff_isNumber.2 h,
      (if_pos n.toNat_lt_size).trans (congrArg some UInt32.ofNat_toNat)⟩

/-! ## Dice expressions -/

namespace Spec

theorem readCount?_eq_some_iff {cs : List Char} {n : UInt32} :
    readCount? cs = some n ↔ IsCount cs n := by
  unfold readCount?
  split
  · next empty =>
    subst empty
    refine ⟨fun h => Option.some.inj h ▸ .absent, fun h => ?_⟩
    cases h with
    | absent => rfl
    | digits h => exact absurd rfl h.ne_nil
  · next some =>
    rw [wordNat?_eq_some_iff]
    refine ⟨.digits, fun h => ?_⟩
    cases h with
    | absent => exact absurd rfl some
    | digits h => exact h

theorem readModifier?_eq_some_iff {cs : List Char} {modifier : Option Int64} :
    readModifier? cs = some modifier ↔ IsModifier cs modifier := by
  cases cs with
  | nil =>
    refine ⟨fun h => Option.some.inj h ▸ .absent, fun h => ?_⟩
    cases h with
    | absent => rfl
    | signed h => cases h
  | cons c cs =>
    rw [readModifier?, Option.map_eq_some_iff]
    constructor
    · rintro ⟨n, hn, rfl⟩
      exact .signed (signed?_eq_some_iff.1 hn)
    · rintro ⟨⟩
      next h => exact ⟨_, signed?_eq_some_iff.2 h, rfl⟩

theorem digits_head {cs : List Char} {modifier : Option Int64} (h : IsModifier cs modifier) :
    ∀ c ∈ cs.head?, c.isDigit = false := by
  cases h with
  | absent => exact nofun
  | signed h =>
    obtain ⟨sign, digits, rfl, rfl | rfl⟩ := h.exists_sign <;>
    · rintro _ ⟨⟩
      rfl

theorem digits_of_isCount {cs : List Char} {n : UInt32} (h : IsCount cs n) :
    ∀ c ∈ cs, c.isDigit = true := by
  cases h with
  | absent => exact nofun
  | digits h => exact h.isDigit

/-- **A word is a dice expression** just if it has the parts of one. -/
theorem read?_eq_some_iff {word : List Char} {spec : Spec} :
    read? word = some spec ↔ ∃ count sides modifier, word = count ++ 'd' :: (sides ++ modifier) ∧
      IsCount count spec.count ∧ IsNumber sides spec.die.sides.toNat ∧
        IsModifier modifier spec.modifier := by
  constructor
  · intro h
    unfold read? at h
    split at h
    · next rest hd =>
      simp only [Option.bind_eq_bind, Option.bind_eq_some_iff] at h
      obtain ⟨count, hc, sides, hs, die, hdie, modifier, hm, h⟩ := h
      obtain rfl := Option.some.inj h
      -- The parts are those between which the word was cut: before and after the digits.
      have front := List.takeWhile_append_dropWhile (p := Char.isDigit) (l := word)
      have back := List.takeWhile_append_dropWhile (p := Char.isDigit) (l := rest)
      refine ⟨word.takeWhile Char.isDigit, rest.takeWhile Char.isDigit,
        rest.dropWhile Char.isDigit, ?_, readCount?_eq_some_iff.1 hc, ?_,
        readModifier?_eq_some_iff.1 hm⟩
      · rw [back, ← hd, front]
      · unfold Die.ofSides? at hdie
        split at hdie
        · obtain rfl := Option.some.inj hdie
          exact wordNat?_eq_some_iff.1 hs
        · cases hdie
    · cases h
  · rintro ⟨count, sides, modifier, rfl, hc, hs, hm⟩
    rw [read?_parts (digits_of_isCount hc) hs.isDigit (digits_head hm)]
    simp only [readCount?_eq_some_iff.2 hc, wordNat?_eq_some_iff.2 hs, Die.ofSides?_sides,
      readModifier?_eq_some_iff.2 hm, Option.bind_eq_bind, Option.bind_some]
    rfl

end Spec

/-! ## Tokens -/

namespace Token

theorem lookup_keywords_of_digit {word : List Char} {c : Char} (hc : c ∈ word)
    (digit : c.isDigit = true) : keywords.lookup word = none := by
  have letters : ∀ entry ∈ keywords, entry.1.any Char.isDigit = false := by decide
  rw [List.lookup_eq_none_iff]
  intro entry he
  rw [bne_iff_ne]
  rintro rfl
  have none := letters entry he
  rw [List.any_eq_false] at none
  exact none c hc digit

theorem reads_of_mem_keywords : ∀ entry ∈ keywords, Reads entry.1 entry.2 := by
  intro entry he
  simp only [keywords, List.mem_cons, List.not_mem_nil, or_false] at he
  rcases he with rfl | rfl | rfl | rfl | rfl | rfl | rfl
  · exact .cursed
  · exact .adv
  · exact .advantage
  · exact .dis
  · exact .disadvantage
  · exact .help
  · exact .man

/-- **A word is read as a token just if the rules say so.** -/
theorem read?_eq_some_iff {word : List Char} {token : Token} :
    read? word = some token ↔ Reads word token := by
  constructor
  · intro h
    unfold read? at h
    split at h
    · next found hf =>
      obtain rfl := Option.some.inj h
      obtain ⟨before, after, parts, -⟩ := List.lookup_eq_some_iff.1 hf
      exact reads_of_mem_keywords _ (parts ▸ List.mem_append_right before List.mem_cons_self)
    · split at h
      · next spec hs =>
        obtain rfl := Option.some.inj h
        obtain ⟨count, sides, modifier, rfl, hc, hs, hm⟩ := Spec.read?_eq_some_iff.1 hs
        exact .dice hc hs hm
      · obtain ⟨n, hn, rfl⟩ := Option.map_eq_some_iff.1 h
        exact .modifier (signed?_eq_some_iff.1 hn)
  · intro h
    cases h with
    | @dice count sides modifier spec hc hs hm =>
      obtain ⟨c, rest, hr⟩ := List.exists_cons_of_ne_nil hs.ne_nil
      -- Keywords are looked up first, but the sides have a digit and no keyword has.
      have noKeyword : keywords.lookup (count ++ 'd' :: (sides ++ modifier)) = none :=
        lookup_keywords_of_digit (c := c) (by simp [hr]) (hs.isDigit c (by simp [hr]))
      rw [read?, noKeyword]
      simp only [Spec.read?_eq_some_iff.2 ⟨count, sides, modifier, rfl, hc, hs, hm⟩]
    | @modifier _ n h =>
      obtain ⟨sign, rest, rfl, hs⟩ := h.exists_sign
      rw [read?_sign hs, signed?_eq_some_iff.2 h, Option.map_some]
    | cursed | adv | advantage | dis | disadvantage | help | man => rfl

end Token

/-! ## Leading zeros -/

/-- A row of digits that follows the text starts there. -/
def Opens (front : List Char) : Prop := ∀ c ∈ front.getLast?, c.isDigit = false

theorem Opens.of_append (front : List Char) {rest : List Char} (h : Opens (front ++ rest)) :
    Opens rest := by
  intro c hc
  refine h c ?_
  rw [List.getLast?_append, hc]
  rfl

/-- In a text that opens a row, something other than a digit stands behind its first digits. -/
theorem Opens.exists_split {front : List Char} (h : Opens front) (some : front ≠ []) :
    ∃ row c rest, front = row ++ c :: rest ∧ (∀ c ∈ row, c.isDigit = true) ∧ c.isDigit = false := by
  have digits : ∀ c ∈ front.takeWhile Char.isDigit, c.isDigit = true :=
    List.all_eq_true.1 List.all_takeWhile
  have parts := List.takeWhile_append_dropWhile (p := Char.isDigit) (l := front)
  cases hd : front.dropWhile Char.isDigit with
  | nil =>
    -- If there were digits only, the last character would be one.
    rw [hd, List.append_nil] at parts
    rw [parts] at digits
    have digit := digits _ (List.getLast_mem some)
    rw [h _ (List.getLast?_eq_some_getLast some)] at digit
    cases digit
  | cons c rest =>
    have stop := List.head?_dropWhile_not Char.isDigit front
    rw [hd] at parts stop
    exact ⟨_, c, rest, parts.symm, digits, by simpa using stop⟩

variable {front back : List Char} {d : Char}

namespace Text

theorem nat?_zero (d : Char) (back : List Char) : nat? ('0' :: d :: back) = nat? (d :: back) := by
  simp [nat?, Nat.ofDigitChars_cons]

theorem nat?_append_zero (h : Opens front) :
    nat? (front ++ '0' :: d :: back) = nat? (front ++ d :: back) := by
  by_cases hf : front = []
  · subst hf
    exact nat?_zero d back
  -- What stands before the row is no digit, so neither text is a number.
  · obtain ⟨row, c, rest, rfl, -, hc⟩ := h.exists_split hf
    have none : ∀ tail, nat? (row ++ c :: rest ++ tail) = none := fun tail => by
      simp [nat?, hc]
    rw [none, none]

theorem signed?_of_ne {c : Char} {rest : List Char} (plus : c ≠ '+') (minus : c ≠ '-') :
    signed? (c :: rest) = none := by
  simp [signed?, plus, minus]

theorem signed?_append_zero (h : Opens front) (hd : d.isDigit = true) :
    signed? (front ++ '0' :: d :: back) = signed? (front ++ d :: back) := by
  cases front with
  | nil =>
    have plus : d ≠ '+' := by rintro rfl; cases hd
    have minus : d ≠ '-' := by rintro rfl; cases hd
    exact (signed?_of_ne (by decide) (by decide)).trans (signed?_of_ne plus minus).symm
  | cons c front =>
    have opens : Opens front := Opens.of_append [c] h
    by_cases hc : c = '+' ∨ c = '-'
    · have value : ∀ digits, signed? (c :: digits) = (nat? digits).bind fun n =>
          toInt64? (if c = '+' then n else -n) := fun _ => by
        rcases hc with rfl | rfl <;> rfl
      rw [List.cons_append, List.cons_append, value, value, nat?_append_zero opens]
    · obtain ⟨plus, minus⟩ := not_or.1 hc
      exact (signed?_of_ne plus minus).trans (signed?_of_ne plus minus).symm

end Text

theorem wordNat?_zero (d : Char) (back : List Char) :
    wordNat? ('0' :: d :: back) = wordNat? (d :: back) := by
  rw [wordNat?, nat?_zero, wordNat?]

namespace Spec

/-- The sides and the modifier of a dice expression, with a zero more. -/
theorem read_sides_append_zero (h : Opens front) (hd : d.isDigit = true) (back : List Char) :
    wordNat? ((front ++ '0' :: d :: back).takeWhile Char.isDigit) =
        wordNat? ((front ++ d :: back).takeWhile Char.isDigit) ∧
      readModifier? ((front ++ '0' :: d :: back).dropWhile Char.isDigit) =
        readModifier? ((front ++ d :: back).dropWhile Char.isDigit) := by
  by_cases hf : front = []
  · subst hf
    have zero : '0'.isDigit = true := rfl
    simp only [List.nil_append, List.takeWhile_cons_of_pos, List.dropWhile_cons_of_pos, zero, hd,
      wordNat?_zero, and_self]
  -- The sides end before the zero, which is in the modifier.
  · obtain ⟨row, c, rest, rfl, hr, hc⟩ := h.exists_split hf
    have stop : ∀ tail, ∀ x ∈ (c :: (rest ++ tail)).head?, x.isDigit = false := by
      rintro _ _ ⟨⟩
      exact hc
    have opens : Opens (c :: rest) := h.of_append row
    simp only [List.append_assoc, List.cons_append, (takeWhile_digits hr (stop _)).1,
      (takeWhile_digits hr (stop _)).2, readModifier?, true_and]
    exact congrArg _ (signed?_append_zero opens hd)

theorem read?_append_zero (h : Opens front) (hd : d.isDigit = true) :
    read? (front ++ '0' :: d :: back) = read? (front ++ d :: back) := by
  by_cases hf : front = []
  · subst hf
    have zero : '0'.isDigit = true := rfl
    simp only [read?, List.nil_append, List.takeWhile_cons_of_pos, List.dropWhile_cons_of_pos, zero,
      hd, readCount?, reduceCtorEq, if_false, wordNat?_zero]
  · obtain ⟨row, c, rest, rfl, hr, hc⟩ := h.exists_split hf
    have stop : ∀ tail, ∀ x ∈ (c :: (rest ++ tail)).head?, x.isDigit = false := by
      rintro _ _ ⟨⟩
      exact hc
    have opens : Opens rest := Opens.of_append (row ++ [c]) (by simpa using h)
    obtain ⟨sides, modifier⟩ := read_sides_append_zero opens hd back
    simp only [read?, List.append_assoc, List.cons_append, (takeWhile_digits hr (stop _)).1,
      (takeWhile_digits hr (stop _)).2]
    split
    -- What ends the count has to be the `d`. If it is, the zero is behind it.
    · next same =>
      obtain ⟨rfl, rfl⟩ := List.cons.inj same
      simp only [sides, modifier]
    · next other =>
      split
      · next same =>
        obtain ⟨rfl, -⟩ := List.cons.inj same
        exact (other _ rfl).elim
      · rfl

end Spec

namespace Token

theorem read?_append_zero (h : Opens front) (hd : d.isDigit = true) :
    read? (front ++ '0' :: d :: back) = read? (front ++ d :: back) := by
  have noKeyword : ∀ row, keywords.lookup (front ++ (row ++ d :: back)) = none := fun row =>
    lookup_keywords_of_digit (c := d) (by simp) hd
  have first := noKeyword ['0']
  have second := noKeyword []
  rw [List.singleton_append] at first
  rw [List.nil_append] at second
  simp only [read?, first, second, Spec.read?_append_zero h hd, signed?_append_zero h hd]

/-- **Zeros at the start of a row of digits do not count.** -/
theorem read?_zeros (h : Opens front) (hd : d.isDigit = true) (zeros : Nat) :
    read? (front ++ (List.replicate zeros '0' ++ d :: back)) = read? (front ++ d :: back) := by
  induction zeros with
  | zero => rfl
  | succ zeros ih =>
    cases zeros with
    | zero => exact read?_append_zero h hd
    | succ zeros =>
      rw [← ih]
      exact read?_append_zero h (d := '0') rfl

end Token

end ChatDice
