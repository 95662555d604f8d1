import ChatDice.Proofs.Request.Leftmost

/-!
# Text behind an input

An input can be continued after its title clause, with quotes, colons and clauses as well as with
words.

**Theorem (`clause_stays`).** The clause that is found in a text stays the one that is found when
more text follows. It takes the same bytes, the title is the same, and what follows is left as it
is.

The places before the clause are those where continuing the text could make a difference: a text in
quotes that had no end might get one. But what decides about such a place lies before the text of
the clause (`startingAt?_eq_none_of_append`), and so before what is added. A text without a clause
gets one only if there is a quote in what is added (`find?_append_of_noQuote`).
-/

namespace ChatDice

namespace Clause

variable {a b : List Char} {clause : Clause}

/-- **No place before a clause starts one when more text follows.** -/
theorem startingAt?_eq_none_before (found : find? a = some clause) (b : List Char)
    {p : List Char} (hp : p ≠ []) (suffix : p <:+ clause.before) :
    startingAt? (p ++ (clause.keyword ++ (clause.word ++
      ':' :: '"' :: (clause.text ++ '"' :: (clause.after ++ b))))) = none := by
  have stands := standsIn_of_find? found
  have fails := startingAt?_eq_none_of_find? (stands.parts ▸ found) rfl p hp suffix
  have quoted : quotedAt? (':' :: '"' :: (clause.text ++ '"' :: clause.after)) ≠ none := by
    rw [quotedAt?_text stands.text]
    exact Option.some_ne_none _
  exact startingAt?_eq_none_of_append hp stands.keyword stands.isWordChar quoted fails _

theorem find?_append_of_find? (found : find? a = some clause) (b : List Char) :
    find? (a ++ b) = some { clause with after := clause.after ++ b } := by
  have stands := standsIn_of_find? found
  have whole : a ++ b = clause.before ++ (clause.keyword ++ (clause.word ++
      ':' :: '"' :: (clause.text ++ '"' :: (clause.after ++ b)))) := by
    refine (congrArg (· ++ b) stands.parts).trans ?_
    simp
  rw [whole, find?_append_of_forall fun p hp => startingAt?_eq_none_before found b hp,
    find?_of_startingAt? (startingAt?_keyword stands.keyword stands.isWordChar stands.text _),
    Option.map_some, List.append_nil]

/-- A clause ends with a quote, so it stands in the part of the text that has quotes. -/
theorem StandsIn.of_append (h : clause.StandsIn (a ++ b)) (noQuote : '"' ∉ b) :
    ∃ shorter : Clause, shorter.StandsIn a := by
  have parts : a ++ b = (clause.before ++ (clause.keyword ++ (clause.word ++
      ':' :: '"' :: clause.text))) ++ '"' :: clause.after := by
    rw [h.parts]
    simp
  rcases List.append_eq_append_iff.1 parts with ⟨_, -, hb⟩ | ⟨rest, ha, hrest⟩
  · exact absurd (hb ▸ List.mem_append_right _ List.mem_cons_self) noQuote
  · cases rest with
    | nil =>
      rw [List.nil_append] at hrest
      exact absurd (hrest ▸ List.mem_cons_self) noQuote
    | cons c after =>
      obtain ⟨rfl, -⟩ := List.cons.inj hrest
      refine ⟨{ clause with after }, standsIn_of_parts ?_ h.keyword h.isWordChar h.text⟩
      rw [ha]
      simp

/-- **A text without quotes adds no clause.** -/
theorem find?_append_of_noQuote (a : List Char) (noQuote : '"' ∉ b) :
    find? (a ++ b) = (find? a).map fun clause => { clause with after := clause.after ++ b } := by
  cases ha : find? a with
  | some clause => exact find?_append_of_find? ha b
  | none =>
    rw [find?_eq_none_iff] at ha
    refine find?_eq_none_iff.2 fun clause h => ?_
    obtain ⟨shorter, stands⟩ := h.of_append noQuote
    exact ha shorter stands

theorem extractTitle_append_of_find? (found : find? a = some clause) (b : List Char) :
    extractTitle (a ++ b) = ((extractTitle a).1, (extractTitle a).2 ++ b) := by
  rw [extractTitle, extractTitle, found, find?_append_of_find? found b]
  simp [title?, remainder]

theorem extractTitle_append_of_noQuote (a : List Char) (noQuote : '"' ∉ b) :
    extractTitle (a ++ b) = ((extractTitle a).1, (extractTitle a).2 ++ b) := by
  cases ha : find? a with
  | some clause => exact extractTitle_append_of_find? ha b
  | none => rw [extractTitle, extractTitle, find?_append_of_noQuote a noQuote, ha, Option.map_none]

/-- **A clause stays when more text follows.** -/
theorem clause_stays (found : find? a = some clause) (b : List Char) :
    find? (a ++ b) = some { clause with after := clause.after ++ b } ∧
    Scan.find (a ++ b) = Scan.find a ∧
    extractTitle (a ++ b) = ((extractTitle a).1, (extractTitle a).2 ++ b) ∧
    ∀ x y, a = x ++ y → x.length < clause.before.length → startingAt? (y ++ b) = none := by
  have more := find?_append_of_find? found b
  refine ⟨more, ?_, extractTitle_append_of_find? found b, fun x y ha left => ?_⟩
  · rw [Scan.find_eq, Scan.find_eq, more, found]
    rfl
  · have parts := (standsIn_of_find? found).parts
    rw [ha] at parts
    -- The place is before the clause, so what starts there starts with an end of what is before.
    rcases List.append_eq_append_iff.1 parts with ⟨p, hp, hy⟩ | ⟨p, hp, -⟩
    · have some : p ≠ [] := by
        rintro rfl
        rw [hp, List.append_nil] at left
        exact Nat.lt_irrefl _ left
      have fails := startingAt?_eq_none_before found b some (hp ▸ List.suffix_append x p)
      rw [hy]
      simpa using fails
    · rw [hp, List.length_append] at left
      omega

/-- The text in quotes that starts before the clause has no end, and the quote that follows does not
give it one. -/
theorem clause_stays_unterminated :
    let a := "d6 for:\"a FORé:\"Luck\"".toList
    let b := " b\" for:\"two\"".toList
    let clause : Clause :=
      { before := "d6 for:\"a ".toList, keyword := "FOR".toList, word := "é".toList,
        text := "Luck".toList, after := [] }
    find? a = some clause ∧ find? (a ++ b) = some { clause with after := b } ∧
      Scan.find (a ++ b) = Scan.find a ∧
      extractTitle (a ++ b) = (some "Luck", "d6 for:\"a  ".toList ++ b) ∧
      startingAt? ("for:\"a FORé:\"Luck\"".toList ++ b) = none := by
  intro a b clause
  have found : find? a = some clause := by decide +kernel
  obtain ⟨more, bytes, taken, fails⟩ := clause_stays found b
  have extracted : extractTitle a = (some "Luck", "d6 for:\"a  ".toList) := by decide +kernel
  rw [extracted] at taken
  exact ⟨found, more, bytes, taken, fails "d6 ".toList _ (by decide) (by decide)⟩

end Clause

end ChatDice
