import ChatDice.Proofs.Request.Scan

/-!
# The leftmost clause

A clause stands in a text where the text is made of its parts: something before it, the keyword, the
rest of the word, a colon, a text in quotes and something after it.

**Theorem (`leftmost_clause_found`).** Of the clauses that stand in a text, the one with the least
text before it is found, and none is found only if none stands there. The title is the text in
quotes without the blanks at its ends, what is left has a space in the place of the clause, and its
words are those before the clause and those after it. Looking for the clause by its bytes finds the
same and cuts the text at boundaries only.

At each place at most one clause starts (`StandsIn.startingAt?_eq`): the word goes on as long as it
can, and the text in quotes ends at the first quote. So a clause is known by what is before it.
-/

namespace ChatDice

open Text (isWordChar words trim)

namespace Clause

/-! ## Clauses in a text -/

/-- The text is made of the parts of the clause. -/
structure StandsIn (clause : Clause) (cs : List Char) : Prop where
  parts : cs = clause.before ++ (clause.keyword ++ (clause.word ++
    ':' :: '"' :: (clause.text ++ '"' :: clause.after)))
  keyword : Keyword clause.keyword
  /-- The word is the longest run of word characters behind the keyword. -/
  word : (clause.word ++ ':' :: '"' :: (clause.text ++ '"' :: clause.after)).takeWhile isWordChar =
    clause.word
  text : Quotable clause.text

/-- The clause stands in the text, and none stands further to the left. -/
structure Leftmost (clause : Clause) (cs : List Char) : Prop where
  standsIn : clause.StandsIn cs
  le : ∀ other : Clause, other.StandsIn cs → clause.before.length ≤ other.before.length

theorem quotable_takeWhile (cs : List Char) : Quotable (cs.takeWhile isTextChar) where
  noQuote h := absurd (List.all_eq_true.1 List.all_takeWhile _ h) (by decide)
  noColon h := absurd (List.all_eq_true.1 List.all_takeWhile _ h) (by decide)

theorem quotable_of_quotedAt? {cs text after : List Char} (h : quotedAt? cs = some (text, after)) :
    Quotable text := by
  unfold quotedAt? at h
  split at h
  · split at h
    · obtain ⟨rfl, -⟩ := Prod.mk.inj (Option.some.inj h)
      exact quotable_takeWhile _
    · cases h
  · cases h

variable {cs : List Char} {clause : Clause}

theorem StandsIn.isWordChar (h : clause.StandsIn cs) : ∀ c ∈ clause.word, isWordChar c = true := by
  intro c hc
  rw [← h.word] at hc
  exact List.all_eq_true.1 List.all_takeWhile c hc

/-- A clause stands where its parts do. A word before a colon is as long as it can be. -/
theorem standsIn_of_parts (parts : cs = clause.before ++ (clause.keyword ++ (clause.word ++
      ':' :: '"' :: (clause.text ++ '"' :: clause.after)))) (keyword : Keyword clause.keyword)
    (word : ∀ c ∈ clause.word, Text.isWordChar c = true) (text : Quotable clause.text) :
    clause.StandsIn cs where
  parts := parts
  keyword := keyword
  word := by
    have colon : ¬Text.isWordChar ':' = true := by simp [Text.isWordChar_colon]
    rw [List.takeWhile_append_of_pos word, List.takeWhile_cons_of_neg colon, List.append_nil]
  text := text

theorem StandsIn.startingAt?_eq (h : clause.StandsIn cs) (here : clause.before = []) :
    startingAt? cs = some clause := by
  rw [h.parts, here, List.nil_append,
    startingAt?_keyword h.keyword h.isWordChar h.text clause.after, ← here]

theorem standsIn_of_startingAt? (h : startingAt? cs = some clause) : clause.StandsIn cs := by
  obtain ⟨here, parts⟩ := parts_of_startingAt? h
  unfold startingAt? at h
  split at h
  · next f o r rest =>
    split at h
    · next keyword =>
      obtain ⟨⟨text, after⟩, hq, rfl⟩ := Option.map_eq_some_iff.1 h
      refine standsIn_of_parts (by simpa using parts) ?_
        (List.all_eq_true.1 List.all_takeWhile) (quotable_of_quotedAt? hq)
      simpa [isKeyword, Keyword, and_assoc] using keyword
    · cases h
  · cases h

theorem standsIn_of_find? (h : find? cs = some clause) : clause.StandsIn cs := by
  induction cs generalizing clause with
  | nil => cases h
  | cons c rest ih =>
    rw [find?] at h
    split at h
    · next found hs =>
      obtain rfl := Option.some.inj h
      exact standsIn_of_startingAt? hs
    · obtain ⟨inner, hi, rfl⟩ := Option.map_eq_some_iff.1 h
      obtain ⟨parts, keyword, word, text⟩ := ih hi
      exact ⟨congrArg (c :: ·) parts, keyword, word, text⟩

/-- **If a clause stands in a text, it is found or one to the left of it is.** -/
theorem StandsIn.exists_find? (h : clause.StandsIn cs) :
    ∃ found, find? cs = some found ∧ found.before.length ≤ clause.before.length ∧
      (clause.before.length ≤ found.before.length → found = clause) := by
  induction hb : clause.before generalizing clause cs with
  | nil =>
    have here := find?_of_startingAt? (h.startingAt?_eq hb)
    exact ⟨clause, here, Nat.le_of_eq (by rw [hb]), fun _ => rfl⟩
  | cons c before ih =>
    obtain ⟨parts, keyword, word, text⟩ := h
    rw [hb, List.cons_append] at parts
    rw [parts, find?]
    cases hs : startingAt? (c :: _) with
    -- What starts here is to the left of the clause.
    | some found =>
      obtain ⟨here, -⟩ := parts_of_startingAt? hs
      refine ⟨found, rfl, by simp [here], fun le => ?_⟩
      rw [here] at le
      exact absurd le (Nat.not_succ_le_zero _)
    | none =>
      have inner : StandsIn { clause with before } _ := ⟨rfl, keyword, word, text⟩
      obtain ⟨found, hf, le, same⟩ := ih inner rfl
      refine ⟨{ found with before := c :: found.before }, ?_, Nat.succ_le_succ le, fun ge => ?_⟩
      · exact congrArg (Option.map _) hf
      · rw [same (Nat.le_of_succ_le_succ ge), ← hb]

theorem find?_eq_some_iff : find? cs = some clause ↔ clause.Leftmost cs := by
  constructor
  · intro h
    refine ⟨standsIn_of_find? h, fun other standsIn => ?_⟩
    obtain ⟨found, hf, le, -⟩ := standsIn.exists_find?
    obtain rfl := Option.some.inj (h.symm.trans hf)
    exact le
  · intro h
    obtain ⟨found, hf, -, same⟩ := h.standsIn.exists_find?
    rw [hf, same (h.le found (standsIn_of_find? hf))]

theorem find?_eq_none_iff : find? cs = none ↔ ∀ clause : Clause, ¬clause.StandsIn cs := by
  constructor
  · intro h clause standsIn
    obtain ⟨found, hf, -⟩ := standsIn.exists_find?
    rw [h] at hf
    cases hf
  · intro h
    cases hf : find? cs with
    | none => rfl
    | some found => exact absurd (standsIn_of_find? hf) (h found)

/-! ## What is taken out -/

theorem title?_eq (clause : Clause) :
    clause.title? =
      if trim clause.text = [] then none else some (String.ofList (trim clause.text)) := by
  unfold title?
  split
  · next empty => rw [if_pos empty]
  · next some => rw [if_neg some]

theorem words_remainder (clause : Clause) :
    words clause.remainder = words clause.before ++ words clause.after :=
  Text.words_append_blank clause.before (by decide) clause.after

/-- **The leftmost clause is found and taken out**, and nothing is cut inside a character. -/
theorem leftmost_clause_found (cs : List Char) :
    (find? cs = none ↔ ∀ clause : Clause, ¬clause.StandsIn cs) ∧
    (∀ clause : Clause, find? cs = some clause ↔ clause.Leftmost cs) ∧
    ((∀ clause : Clause, ¬clause.StandsIn cs) → extractTitle cs = (none, cs)) ∧
    (∀ clause : Clause, clause.Leftmost cs →
      (extractTitle cs).1 =
          (if trim clause.text = [] then none else some (String.ofList (trim clause.text))) ∧
        (extractTitle cs).2 = clause.before ++ ' ' :: clause.after ∧
        words (extractTitle cs).2 = words clause.before ++ words clause.after) ∧
    Scan.find cs = .ok ((find? cs).map Scan.located) ∧
    Scan.cutOut cs = .ok (extractTitle cs) := by
  refine ⟨find?_eq_none_iff, fun clause => find?_eq_some_iff, fun nowhere => ?_,
    fun clause leftmost => ?_, Scan.find_eq cs, Scan.cutOut_eq cs⟩
  · rw [extractTitle, find?_eq_none_iff.2 nowhere]
  · rw [extractTitle, find?_eq_some_iff.2 leftmost]
    exact ⟨clause.title?_eq, rfl, clause.words_remainder⟩

/-- Two places fail before the clause: one for a space, and one for a colon between the quotes. The
word of the clause holds the keyword once more, and characters of two bytes stand in it and in the
title. -/
theorem leftmost_clause_found_accented :
    let cs := "for d6 for:\"a:b\" Forfor_é:\" Größe \"x".toList
    let clause : Clause :=
      { before := "for d6 for:\"a:b\" ".toList, keyword := "For".toList, word := "for_é".toList,
        text := " Größe ".toList, after := "x".toList }
    clause.Leftmost cs ∧ extractTitle cs = (some "Größe", "for d6 for:\"a:b\"  x".toList) ∧
      words (extractTitle cs).2 = ["for".toList, "d6".toList, "for:\"a:b\"".toList, "x".toList] ∧
      Scan.find cs = .ok (some { start := 17, stop := 38, text := " Größe ".toList }) ∧
      Scan.cutOut cs = .ok (extractTitle cs) := by
  intro cs clause
  obtain ⟨-, found, -, taken, scanned, cut⟩ := leftmost_clause_found cs
  have here : find? cs = some clause := by decide +kernel
  have leftmost : clause.Leftmost cs := (found clause).1 here
  obtain ⟨title, rest, split⟩ := taken clause leftmost
  refine ⟨leftmost, Prod.ext (title.trans ?_) (rest.trans ?_), split.trans ?_, scanned.trans ?_,
    cut⟩
  · decide +kernel
  · decide +kernel
  · decide +kernel
  · rw [here]
    exact congrArg Except.ok (by decide +kernel)

end Clause

end ChatDice
