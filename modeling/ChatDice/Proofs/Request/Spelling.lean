import ChatDice.Proofs.Request.Plain

/-!
# The spellings of tokens

A token can be written in one way or, if it is a keyword with a long form, in two.

**Theorem (`Token.read?_of_mem_spellings`).** However a token is written, it reads back, whatever
the numbers in it are.

A dice expression starts with a digit, a modifier with a sign and a keyword with a letter, so a word
is never read as something else first. Within a dice expression the digits end where a letter or a
sign follows.
-/

namespace ChatDice

namespace Text

/-! ## Numbers -/

theorem isDigit_of_mem_toDigits {n : Nat} {c : Char} (h : c ∈ Nat.toDigits 10 n) :
    c.isDigit = true :=
  Nat.isDigit_of_mem_toDigits (by decide) (by decide) h

theorem plain_toDigits (n : Nat) : Plain (Nat.toDigits 10 n) where
  ne_nil := Nat.toDigits_ne_nil
  isPlain _ hc := isPlain_of_isDigit (isDigit_of_mem_toDigits hc)

theorem toList_signed (n : Int64) : ∃ sign, (sign = '+' ∨ sign = '-') ∧
    (signed n).toList = sign :: Nat.toDigits 10 n.toInt.natAbs := by
  unfold signed
  split
  · refine ⟨'-', .inr rfl, ?_⟩
    rw [String.toList_append, Nat.toList_repr]
    rfl
  · refine ⟨'+', .inl rfl, ?_⟩
    rw [String.toList_append, Nat.toList_repr]
    rfl

theorem isPlain_sign {c : Char} (h : c = '+' ∨ c = '-') : isPlain c = true := by
  rcases h with rfl | rfl <;> rfl

theorem plain_signed (n : Int64) : Plain (signed n).toList := by
  obtain ⟨sign, hs, hn⟩ := toList_signed n
  rw [hn]
  refine ⟨List.cons_ne_nil _ _, fun c hc => ?_⟩
  rcases List.mem_cons.1 hc with rfl | hc
  · exact isPlain_sign hs
  · exact (plain_toDigits _).isPlain c hc

end Text

open Text

theorem wordNat?_toDigits (n : UInt32) : wordNat? (Nat.toDigits 10 n.toNat) = some n := by
  rw [wordNat?, nat?_toDigits, Option.bind_some, if_pos n.toNat_lt_size, UInt32.ofNat_toNat]

theorem Die.ofSides?_sides (die : Die) : Die.ofSides? die.sides = some die :=
  dif_pos die.sides_pos

/-! ## Dice expressions -/

namespace Spec

/-- The written form of the modifier of a dice expression. -/
def modifierText (spec : Spec) : List Char :=
  match spec.modifier with
  | some m => (signed m).toList
  | none => []

theorem toList_text (spec : Spec) :
    spec.text.toList = Nat.toDigits 10 spec.count.toNat ++
      'd' :: (Nat.toDigits 10 spec.die.sides.toNat ++ spec.modifierText) := by
  have d : "d".toList = ['d'] := rfl
  unfold text modifierText Die.name
  cases spec.modifier <;> simp [d]

theorem readModifier?_modifierText (spec : Spec) :
    readModifier? spec.modifierText = some spec.modifier := by
  unfold modifierText
  cases spec.modifier with
  | none => rfl
  | some m =>
    obtain ⟨sign, -, hm⟩ := toList_signed m
    show readModifier? (signed m).toList = _
    rw [hm, readModifier?, ← hm, signed?_signed, Option.map_some]

theorem isDigit_head?_modifierText (spec : Spec) :
    ∀ c ∈ spec.modifierText.head?, c.isDigit = false := by
  unfold modifierText
  cases spec.modifier with
  | none => exact nofun
  | some m =>
    obtain ⟨sign, hs, hm⟩ := toList_signed m
    show ∀ c ∈ (signed m).toList.head?, _
    rw [hm]
    rintro _ ⟨⟩
    rcases hs with rfl | rfl <;> rfl

theorem read?_parts {count sides modifier : List Char} (hc : ∀ c ∈ count, c.isDigit = true)
    (hs : ∀ c ∈ sides, c.isDigit = true) (hm : ∀ c ∈ modifier.head?, c.isDigit = false) :
    read? (count ++ 'd' :: (sides ++ modifier)) = do
      let count ← readCount? count
      let sides ← wordNat? sides
      let die ← Die.ofSides? sides
      let modifier ← readModifier? modifier
      return ⟨count, die, modifier⟩ := by
  have stop : ∀ c ∈ ('d' :: (sides ++ modifier)).head?, c.isDigit = false := by
    rintro _ ⟨⟩
    rfl
  obtain ⟨counted, afterCount⟩ := takeWhile_digits hc stop
  obtain ⟨sided, afterSides⟩ := takeWhile_digits hs hm
  unfold read?
  rw [counted, afterCount]
  simp only [sided, afterSides]

/-- **A dice expression reads back.** -/
theorem read?_text (spec : Spec) : read? spec.text.toList = some spec := by
  rw [toList_text, read?_parts (fun _ => isDigit_of_mem_toDigits) (fun _ => isDigit_of_mem_toDigits)
    spec.isDigit_head?_modifierText]
  simp only [readCount?, if_neg Nat.toDigits_ne_nil, wordNat?_toDigits, Die.ofSides?_sides,
    readModifier?_modifierText, Option.bind_eq_bind, Option.bind_some]
  rfl

theorem isPlain_modifierText (spec : Spec) : ∀ c ∈ spec.modifierText, isPlain c = true := by
  unfold modifierText
  cases spec.modifier with
  | none => exact nofun
  | some m => exact (plain_signed m).isPlain

theorem plain_text (spec : Spec) : Plain spec.text.toList := by
  rw [toList_text]
  refine (plain_toDigits _).append fun c hc => ?_
  rcases List.mem_cons.1 hc with rfl | hc
  · rfl
  · exact ((plain_toDigits _).append spec.isPlain_modifierText).isPlain c hc

theorem read?_sign {c : Char} (h : c = '+' ∨ c = '-') (rest : List Char) :
    read? (c :: rest) = none := by
  rcases h with rfl | rfl <;> rfl

end Spec

/-! ## Tokens -/

namespace Token

/-- The ways to write a token. -/
def spellings : Token → List String
  | dice spec => [spec.text]
  | modifier n => [signed n]
  | cursed => ["cursed"]
  | advantage => ["adv", "advantage"]
  | disadvantage => ["dis", "disadvantage"]
  | help => ["help", "man"]

theorem lookup_keywords_eq_none {c : Char} (h : c.isDigit = true ∨ c = '+' ∨ c = '-')
    (rest : List Char) : keywords.lookup (c :: rest) = none := by
  have letters : ∀ entry ∈ keywords,
      entry.1.head?.any (fun d => d.isDigit || d == '+' || d == '-') = false := by
    decide
  rw [List.lookup_eq_none_iff]
  intro entry he
  rw [bne_iff_ne]
  intro hw
  have first := letters entry he
  rw [← hw, List.head?_cons, Option.any_some] at first
  rcases h with h | rfl | rfl
  · rw [h] at first
    cases first
  · cases first
  · cases first

theorem read?_sign {c : Char} (h : c = '+' ∨ c = '-') (rest : List Char) :
    read? (c :: rest) = (signed? (c :: rest)).map modifier := by
  simp only [read?, lookup_keywords_eq_none (.inr h), Spec.read?_sign h]

theorem read?_dice (spec : Spec) : read? spec.text.toList = some (dice spec) := by
  have noKeyword : keywords.lookup spec.text.toList = none := by
    obtain ⟨c, digits, hc⟩ :=
      List.exists_cons_of_ne_nil (Nat.toDigits_ne_nil (b := 10) (n := spec.count.toNat))
    rw [Spec.toList_text, hc]
    exact lookup_keywords_eq_none (.inl (isDigit_of_mem_toDigits (hc ▸ List.mem_cons_self))) _
  simp only [read?, noKeyword, Spec.read?_text]

theorem read?_modifier (n : Int64) : read? (signed n).toList = some (modifier n) := by
  obtain ⟨sign, hs, hn⟩ := toList_signed n
  rw [hn, read?_sign hs, ← hn, signed?_signed, Option.map_some]

/-- **A token reads back, however it is written.** -/
theorem read?_of_mem_spellings {token : Token} {word : String} (h : word ∈ token.spellings) :
    read? word.toList = some token := by
  cases token with
  | dice spec =>
    obtain rfl := List.mem_singleton.1 h
    exact read?_dice spec
  | modifier n =>
    obtain rfl := List.mem_singleton.1 h
    exact read?_modifier n
  | cursed | advantage | disadvantage | help =>
    revert word
    decide

theorem plain_of_mem_spellings {token : Token} {word : String} (h : word ∈ token.spellings) :
    Plain word.toList := by
  cases token with
  | dice spec =>
    obtain rfl := List.mem_singleton.1 h
    exact spec.plain_text
  | modifier n =>
    obtain rfl := List.mem_singleton.1 h
    exact plain_signed n
  | cursed | advantage | disadvantage | help =>
    revert word
    decide

end Token

end ChatDice
