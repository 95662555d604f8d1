import ChatDice.Proofs.Request.Grammar
import ChatDice.Proofs.Request.Leftmost
import ChatDice.Proofs.Request.Retitled

/-!
# Requests in two parts

An input without a title clause can be read in parts, as long as it is cut at a blank.

**Theorem (`classify_parts`).** The request of the whole is that of the first part merged with that
of the second. So a word that says nothing can be put in or left out anywhere, and of the words
that are meant as modifiers only the first one counts.

A clause in one part stands in the whole as well, so neither part has one. Both parts are then read
word by word, and the words of the whole are those of the parts.
-/

namespace ChatDice

/-! ## Clauses in a part -/

namespace Clause

variable {clause : Clause} {a b : List Char}

theorem StandsIn.append_right (h : clause.StandsIn a) (b : List Char) :
    StandsIn { clause with after := clause.after ++ b } (a ++ b) :=
  standsIn_of_parts (by simp [h.parts]) h.keyword h.isWordChar h.text

theorem StandsIn.append_left (h : clause.StandsIn b) (a : List Char) :
    StandsIn { clause with before := a ++ clause.before } (a ++ b) where
  parts := by simp [h.parts]
  keyword := h.keyword
  word := h.word
  text := h.text

end Clause

/-- A title clause stands in an input. -/
def HasClause (input : String) : Prop := ∃ clause : Clause, clause.StandsIn input.toList

theorem not_hasClause_iff {input : String} :
    ¬HasClause input ↔ Clause.find? input.toList = none := by
  rw [Clause.find?_eq_none_iff, HasClause, not_exists]

variable {a b : String} {c : Char}

theorem not_hasClause_left (h : ¬HasClause (a.push c ++ b)) : ¬HasClause a := by
  rintro ⟨clause, stands⟩
  have whole := stands.append_right (c :: b.toList)
  exact h ⟨_, by simpa using whole⟩

theorem not_hasClause_right (h : ¬HasClause (a.push c ++ b)) : ¬HasClause b := by
  rintro ⟨clause, stands⟩
  have whole := stands.append_left (a.push c).toList
  exact h ⟨_, by simpa using whole⟩

namespace Request

/-! ## Words that count -/

/-- A word says something: it is a token, or it is meant as a modifier. -/
def speaks (word : List Char) : Bool := (Token.read? word).isSome || looksLikeModifier word

/-- The modifier that a word is, if it is meant as one. -/
def meant (word : List Char) : Modifier :=
  match Text.signed? word with
  | some n => .value n
  | none => .malformed (String.ofList word)

theorem addWord_of_not_speaks {word : List Char} (h : speaks word = false) (r : Request) :
    r.addWord word = r := by
  obtain ⟨noToken, noModifier⟩ := Bool.or_eq_false_iff.1 h
  rw [Option.isSome_eq_false_iff, Option.isNone_iff_eq_none] at noToken
  rw [addWord, noToken]
  simp [noModifier]

/-- **Words that say nothing do not count.** -/
theorem foldl_addWord_filter (r : Request) (words : List (List Char)) :
    (words.filter speaks).foldl addWord r = words.foldl addWord r := by
  induction words generalizing r with
  | nil => rfl
  | cons word rest ih =>
    by_cases hs : speaks word = true
    · rw [List.filter_cons_of_pos hs, List.foldl_cons, List.foldl_cons, ih]
    · rw [List.filter_cons_of_neg hs, List.foldl_cons, ih,
        addWord_of_not_speaks (Bool.eq_false_iff.2 hs)]

theorem looksLikeModifier_of_isSigned {word : List Char} {n : Int64} (h : IsSigned word n) :
    looksLikeModifier word = true := by
  have row : ∀ {digits : List Char} {k : Nat}, IsNumber digits k →
      looksLikeModifier ('+' :: digits) = true ∧ looksLikeModifier ('-' :: digits) = true := by
    intro digits k hk
    obtain ⟨d, rest, rfl⟩ := List.exists_cons_of_ne_nil hk.ne_nil
    exact ⟨rfl, rfl⟩
  cases h with
  | plus hk => exact (row hk).1
  | minus hk => exact (row hk).2

theorem modifier_addWord_of_looksLikeModifier {word : List Char}
    (h : looksLikeModifier word = true) : (addWord {} word).modifier = some (meant word) := by
  unfold looksLikeModifier at h
  split at h
  · next sign c rest =>
    have hs : sign = '+' ∨ sign = '-' := by simpa using h
    rw [addWord, Token.read?_sign hs, meant]
    cases Text.signed? (sign :: c :: rest) with
    | some n => rfl
    | none => simp [looksLikeModifier, hs, addModifier]
  · cases h

theorem modifier_addWord_of_not_looksLikeModifier {word : List Char}
    (h : looksLikeModifier word = false) : (addWord {} word).modifier = none := by
  unfold addWord
  split
  · next token ht =>
    cases Token.read?_eq_some_iff.1 ht with
    | modifier hn =>
      rw [looksLikeModifier_of_isSigned hn] at h
      cases h
    | _ => rfl
  · simp [h]

theorem modifier_foldl_addWord (words : List (List Char)) :
    (words.foldl addWord {}).modifier = (words.find? looksLikeModifier).map meant := by
  induction words with
  | nil => rfl
  | cons word rest ih =>
    rw [List.foldl_cons, foldl_addWord_eq_merge]
    show (addWord {} word).modifier.or (rest.foldl addWord {}).modifier = _
    cases hw : looksLikeModifier word with
    | true =>
      rw [modifier_addWord_of_looksLikeModifier hw, List.find?_cons_of_pos hw]
      rfl
    | false =>
      rw [modifier_addWord_of_not_looksLikeModifier hw, ih, List.find?_cons_of_neg (by simp [hw])]
      rfl

/-! ## Inputs without a clause -/

theorem value_classify_of_not_hasClause {input : String} (h : ¬HasClause input) :
    (classify input).value = (normalizedWords input.toList).foldl addWord {} := by
  rw [value_classify, extractTitle, not_hasClause_iff.1 h]

theorem title_foldl_addWord (words : List (List Char)) : (words.foldl addWord {}).title = none :=
  congrArg title (foldl_addWord_retitled {} none words)

theorem normalizedWords_append_blank (a : String) {c : Char} (h : Text.isBlank c = true)
    (b : String) : normalizedWords (a.push c ++ b).toList =
      normalizedWords a.toList ++ normalizedWords b.toList := by
  rw [String.toList_append, String.toList_push, List.append_assoc]
  simp only [normalizedWords, List.singleton_append, Text.words_append_blank _ h, List.map_append]

/-- **An input without a clause is read in parts.** -/
theorem classify_parts :
    (∀ (a b : String) (c : Char), Text.isBlank c = true → ¬HasClause (a.push c ++ b) →
      (classify (a.push c ++ b)).value = (classify a).value.merge (classify b).value ∧
        (classify (a.push c ++ b)).value.title = none) ∧
    (∀ x y : String, ¬HasClause x → ¬HasClause y →
      (normalizedWords x.toList).filter speaks = (normalizedWords y.toList).filter speaks →
      (classify x).value = (classify y).value) ∧
    ∀ x : String, ¬HasClause x →
      (classify x).value.modifier =
        ((normalizedWords x.toList).find? looksLikeModifier).map meant := by
  refine ⟨fun a b c hc whole => ?_, fun x y hx hy same => ?_, fun x hx => ?_⟩
  · have value := value_classify_of_not_hasClause whole
    refine ⟨?_, ?_⟩
    · rw [value, normalizedWords_append_blank a hc b, List.foldl_append, foldl_addWord_eq_merge,
        value_classify_of_not_hasClause (not_hasClause_left whole),
        value_classify_of_not_hasClause (not_hasClause_right whole)]
    · rw [value, title_foldl_addWord]
  · rw [value_classify_of_not_hasClause hx, value_classify_of_not_hasClause hy,
      ← foldl_addWord_filter, same, foldl_addWord_filter]
  · rw [value_classify_of_not_hasClause hx, modifier_foldl_addWord]

/-- The first of two modifiers counts, although it is no number, and a word between does not. -/
theorem classify_parts_luck :
    ¬HasClause ("d6 +x".push ' ' ++ "luck -2") ∧
    (classify ("d6 +x".push ' ' ++ "luck -2")).value =
      (classify "d6 +x").value.merge (classify "luck -2").value ∧
    (classify ("d6 +x".push ' ' ++ "luck -2")).value.modifier = some (.malformed "+x") := by
  have noClause : ¬HasClause ("d6 +x".push ' ' ++ "luck -2") :=
    not_hasClause_iff.2 (by decide +kernel)
  refine ⟨noClause, (classify_parts.1 "d6 +x" "luck -2" ' ' (by decide) noClause).1, ?_⟩
  rw [classify_parts.2.2 _ noClause]
  decide +kernel

end Request

end ChatDice
