import ChatDice.Proofs.Request.Arrangement
import ChatDice.Proofs.Request.Correspondence
import ChatDice.Proofs.Request.Merge
import ChatDice.Proofs.Text.Blanks

/-!
# The form of a request

An input can be any text, yet what is made of a request relies on its form: the title goes into a
header as it is, and the sign of a malformed modifier is cut off as one byte.

**Theorem (`classify_wellFormed`).** The title of a request that was read is not empty, has no
blanks at its ends and could stand in a clause. A malformed modifier is a sign with something after
it, but no number. If the request is refused for it, the cut behind the sign is on a boundary, what
it leaves is not empty, and the sign and what is left are the first word of the input that is a sign
with something after it.

The modifier of a request is what its first such word is meant as (`modifier_classify`). So it is
malformed just if that word is no number (`modifier_classify_eq_malformed_iff`), and all else about
it is said by the word.
-/

namespace ChatDice

open Text (trim byteSize startingFrom)

/-! ## Titles -/

theorem Text.mem_of_mem_trim {cs : List Char} {c : Char} (h : c ∈ trim cs) : c ∈ cs := by
  obtain ⟨blanks, parts⟩ := exists_eq_trim_append cs
  rw [parts]
  simp [h]

/-- The title that a clause gives can be written in a clause again. -/
theorem Clause.StandsIn.titular {clause : Clause} {cs : List Char} (h : clause.StandsIn cs)
    {title : String} (ht : clause.title? = some title) : Titular title := by
  rw [title?_eq] at ht
  by_cases none : trim clause.text = []
  · simp [none] at ht
  · rw [if_neg none, Option.some.injEq] at ht
    have letters : title.toList = trim clause.text := by rw [← ht, String.toList_ofList]
    constructor
    · intro empty
      rw [empty] at letters
      exact none letters.symm
    · rw [letters]
      exact Text.head?_trim clause.text
    · rw [letters]
      exact Text.getLast?_trimEnd _
    · intro quote
      exact h.text.noQuote (Text.mem_of_mem_trim (letters ▸ quote))
    · intro colon
      exact h.text.noColon (Text.mem_of_mem_trim (letters ▸ colon))

namespace Request

/-! ## Words that are meant as modifiers -/

/-- The word is a sign with something after it. -/
def IsSignLed (word : List Char) : Prop :=
  2 ≤ word.length ∧ (word.head? = some '+' ∨ word.head? = some '-')

variable {word : List Char} {sign : Char}

theorem isSignLed_iff_exists : IsSignLed word ↔
    ∃ sign rest, (sign = '+' ∨ sign = '-') ∧ rest ≠ [] ∧ word = sign :: rest := by
  rcases word with _ | ⟨c, _ | ⟨d, rest⟩⟩ <;> simp [IsSignLed]

theorem looksLikeModifier_iff : looksLikeModifier word = true ↔ IsSignLed word := by
  rcases word with _ | ⟨c, _ | ⟨d, rest⟩⟩ <;> simp [looksLikeModifier, IsSignLed]

theorem byteSize_sign (h : sign = '+' ∨ sign = '-') : byteSize [sign] = 1 := by
  rcases h with rfl | rfl <;> decide

/-- Whether something stands after a sign can be told by the number of bytes. -/
theorem looksLikeModifier_iff_byteSize : looksLikeModifier word = true ↔
    1 < byteSize word ∧ (word.head? = some '+' ∨ word.head? = some '-') := by
  rcases word with _ | ⟨c, rest⟩
  · simp [looksLikeModifier]
  · simp only [looksLikeModifier_iff, IsSignLed, List.head?_cons, Option.some.injEq]
    refine and_congr_left fun h => ?_
    have one := byteSize_sign h
    cases rest with
    | nil => simp [one]
    | cons d rest =>
      have some := d.utf8Size_pos
      simp only [Text.byteSize_cons, Text.byteSize_nil] at one ⊢
      simp
      omega

theorem startingFrom_one (h : sign = '+' ∨ sign = '-') (rest : List Char) :
    startingFrom 1 (sign :: rest) = .ok rest := by
  have cut := Text.startingFrom_byteSize [sign] rest
  rwa [byteSize_sign h] at cut

theorem afterSign_ofList (h : sign = '+' ∨ sign = '-') (rest : List Char) :
    afterSign (String.ofList (sign :: rest)) = String.ofList rest := by
  have one : sign.utf8Size = 1 := by simpa using byteSize_sign h
  simp [afterSign, one]

/-- The word is the first of a row that is a sign with something after it. -/
structure IsFirstSignLed (words : List (List Char)) (word : List Char) : Prop where
  signLed : IsSignLed word
  first : ∃ before after, words = before ++ word :: after ∧ ∀ other ∈ before, ¬IsSignLed other

theorem find?_looksLikeModifier_eq_some_iff {words : List (List Char)} :
    words.find? looksLikeModifier = some word ↔ IsFirstSignLed words word := by
  rw [List.find?_eq_some_iff_append]
  simp only [looksLikeModifier_iff, Bool.not_eq_true', Bool.eq_false_iff, ne_eq]
  constructor
  · intro h
    exact ⟨h.1, h.2⟩
  · intro h
    exact ⟨h.signLed, h.first⟩

/-! ## The modifier of an input -/

/-- The modifier of an input is its first word that is meant as one. -/
theorem modifier_classify (input : String) :
    (classify input).value.modifier =
      ((normalizedWords (extractTitle input.toList).2).find? looksLikeModifier).map meant := by
  have titled := foldl_addWord_retitled {} (extractTitle input.toList).1
    (normalizedWords (extractTitle input.toList).2)
  rw [value_classify, ← modifier_foldl_addWord]
  show (List.foldl addWord (retitled {} _) _).modifier = _
  rw [titled]
  rfl

theorem meant_eq_malformed_iff {text : String} :
    meant word = .malformed text ↔ word = text.toList ∧ ∀ n, ¬IsSigned word n := by
  have number (n : Int64) : IsSigned word n ↔ Text.signed? word = some n :=
    Text.signed?_eq_some_iff.symm
  simp only [number, meant]
  cases Text.signed? word with
  | some n => simp
  | none => simp [← String.toList_inj]

/-- **The modifier is malformed just if its word is no number.** -/
theorem modifier_classify_eq_malformed_iff {input text : String} :
    (classify input).value.modifier = some (.malformed text) ↔
      IsFirstSignLed (normalizedWords (extractTitle input.toList).2) text.toList ∧
        ∀ n, ¬IsSigned text.toList n := by
  rw [modifier_classify, Option.map_eq_some_iff]
  simp only [find?_looksLikeModifier_eq_some_iff, meant_eq_malformed_iff]
  constructor
  · rintro ⟨_, first, rfl, noNumber⟩
    exact ⟨first, noNumber⟩
  · intro h
    exact ⟨_, h.1, rfl, h.2⟩

/-! ## The form -/

/-- The title could stand in a clause, and a malformed modifier is a sign with something after it
that is no number. -/
structure WellFormed (r : Request) : Prop where
  title : ∀ title, r.title = some title → Titular title
  malformed : ∀ text, r.modifier = some (.malformed text) →
    IsSignLed text.toList ∧ ∀ n, ¬IsSigned text.toList n

theorem wellFormed_classify (input : String) : (classify input).value.WellFormed := by
  constructor
  · intro title ht
    rw [title_classify] at ht
    obtain ⟨clause, found, hc⟩ := Option.bind_eq_some_iff.1 ht
    exact (Clause.standsIn_of_find? found).titular hc
  · intro text hm
    obtain ⟨first, noNumber⟩ := modifier_classify_eq_malformed_iff.1 hm
    exact ⟨first.signLed, noNumber⟩

/-- Only a malformed modifier is told to the one who asked, without its sign. -/
theorem exists_modifier_of_play {σ : Type} [Roller σ] {s : Session σ} {r : Request} {text : String}
    (h : (s.play r).value.1 = .error (.invalidModifier text)) :
    ∃ word, r.modifier = some (.malformed word) ∧ afterSign word = text := by
  obtain objection | ⟨-, limit, -, other⟩ := Session.refused_of_play h
  · exact (objection?_eq_invalidModifier_iff.1 objection).2.2
  · cases other

/-- **A request that was read is well formed**, and so is what is told about its modifier. -/
theorem classify_wellFormed (input : String) :
    (classify input).value.WellFormed ∧
    (∀ word : String, (classify input).value.modifier = some (.malformed word) ↔
      IsFirstSignLed (normalizedWords (extractTitle input.toList).2) word.toList ∧
        ∀ n, ¬IsSigned word.toList n) ∧
    ∀ {σ : Type} [Roller σ] (s : Session σ) (text : String),
      (s.play (classify input).value).value.1 = .error (.invalidModifier text) →
      text ≠ "" ∧
      ∃ word, (classify input).value.modifier = some (.malformed word) ∧
        startingFrom 1 word.toList = .ok text.toList ∧
        (∃ sign, (sign = '+' ∨ sign = '-') ∧ word.toList = sign :: text.toList) ∧
        IsFirstSignLed (normalizedWords (extractTitle input.toList).2) word.toList := by
  refine ⟨wellFormed_classify input, fun _ => modifier_classify_eq_malformed_iff,
    fun s text refused => ?_⟩
  obtain ⟨word, hm, rfl⟩ := exists_modifier_of_play refused
  obtain ⟨first, -⟩ := modifier_classify_eq_malformed_iff.1 hm
  obtain ⟨sign, rest, hs, some, hw⟩ := isSignLed_iff_exists.1 first.signLed
  have left : afterSign word = String.ofList rest := by
    rw [← afterSign_ofList hs, ← hw, String.ofList_toList]
  have letters : (afterSign word).toList = rest := by rw [left, String.toList_ofList]
  refine ⟨?_, word, hm, ?_, ⟨sign, hs, ?_⟩, first⟩
  · intro empty
    simp [empty, Eq.comm, some] at letters
  · rw [hw, letters]
    exact startingFrom_one hs rest
  · rw [hw, letters]

/-- A lone sign comes first, then a sign with a letter of two bytes, and then a number. -/
theorem classify_wellFormed_accented :
    let input := "D20 + for:\" Größe \" +É -2"
    let r := (classify input).value
    let s : Session Steps := .start none (.startingAt 1 1)
    r.WellFormed ∧ r.title = some "Größe" ∧ r.modifier = some (.malformed "+é") ∧
      (s.play r).value.1 = .error (.invalidModifier "é") ∧ "é" ≠ "" ∧
      startingFrom 1 "+é".toList = .ok "é".toList ∧
      IsFirstSignLed (normalizedWords (extractTitle input.toList).2) "+é".toList := by
  intro input r s
  obtain ⟨wellFormed, -, told⟩ := classify_wellFormed input
  have title : r.title = some "Größe" := by decide +kernel
  have modifier : r.modifier = some (.malformed "+é") := by decide +kernel
  have refused : (s.play r).value.1 = .error (.invalidModifier "é") := by
    have objection : r.objection? = some (.invalidModifier "é") := by decide +kernel
    rw [Session.play_of_objection s objection]
    rfl
  obtain ⟨some, word, hm, cut, -, first⟩ := told s "é" refused
  obtain rfl := Modifier.malformed.inj (Option.some.inj (hm.symm.trans modifier))
  exact ⟨wellFormed, title, modifier, refused, some, cut, first⟩

end Request

end ChatDice
