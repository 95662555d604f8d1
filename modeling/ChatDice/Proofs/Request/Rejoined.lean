import ChatDice.Proofs.Request.Correspondence
import ChatDice.Proofs.Text.Blanks

/-!
# Inputs in words

An input can be given as a row of words, which are put together with single spaces before they are
read. A title may be spread over several of them.

**Theorem (`classifyWords_words`).** The words of an input, given one by one, are the same request
as the input, but that each run of blanks in the title has become a single space. The clauses of the
two texts correspond: each clause of the input becomes one of the other text, no two become the
same, there are no others, and the first one becomes the first.

The keyword, its word, the colon and the quotes hold no blank, so a clause can be cut out of the
text that is put together just where it can be cut out of the input (`corresponds_rejoined`), and
the words around it are the same.
-/

namespace ChatDice

/-! ## Texts that are put together -/

namespace Text

variable {c : Char} {cs x y : List Char}

theorem rejoined_append_cons (x : List Char) (h : isBlank c = false) (y : List Char) :
    singleSpaced (trim (x ++ c :: y)) =
      singleSpaced (x.dropWhile isBlank) ++ c :: singleSpaced (trimEnd y) := by
  rw [trim_eq_trimEnd, dropWhile_append_cons x h, trimEnd_append_cons _ h,
    singleSpaced_append_cons _ h]

theorem exists_of_rejoined (hc : isBlank c = false) (h : singleSpaced (trim cs) = x ++ c :: y) :
    ∃ x' y', cs = x' ++ c :: y' ∧ singleSpaced (x'.dropWhile isBlank) = x ∧
      singleSpaced (trimEnd y') = y := by
  obtain ⟨x₁, y₁, trimmed, hx, hy⟩ := exists_of_singleSpaced hc h
  obtain ⟨y', dropped, rfl⟩ := exists_of_trimEnd trimmed
  obtain ⟨x', same, rfl⟩ := exists_of_dropWhile dropped
  exact ⟨x', y', same, hx, hy⟩

theorem ending_append_cons (x : List Char) (h : isBlank c = false) (y : List Char) :
    singleSpaced (trimEnd (x ++ c :: y)) = singleSpaced x ++ c :: singleSpaced (trimEnd y) := by
  rw [trimEnd_append_cons x h, singleSpaced_append_cons x h]

theorem exists_of_ending (hc : isBlank c = false)
    (h : singleSpaced (trimEnd cs) = x ++ c :: y) :
    ∃ x' y', cs = x' ++ c :: y' ∧ singleSpaced x' = x ∧ singleSpaced (trimEnd y') = y := by
  obtain ⟨x', y₁, trimmed, hx, hy⟩ := exists_of_singleSpaced hc h
  obtain ⟨y', same, rfl⟩ := exists_of_trimEnd trimmed
  exact ⟨x', y', same, hx, hy⟩

theorem ending_append {word : List Char} (h : ∀ c ∈ word, isBlank c = false) (y : List Char) :
    singleSpaced (trimEnd (word ++ y)) = word ++ singleSpaced (trimEnd y) := by
  induction word with
  | nil => rfl
  | cons c word ih =>
    have rest := ih fun d hd => h d (List.mem_cons_of_mem _ hd)
    have first := ending_append_cons [] (h c List.mem_cons_self) (word ++ y)
    rw [rest] at first
    exact first

theorem exists_of_ending_append {word : List Char} (hw : ∀ c ∈ word, isBlank c = false)
    (h : singleSpaced (trimEnd cs) = word ++ y) :
    ∃ y', cs = word ++ y' ∧ singleSpaced (trimEnd y') = y := by
  induction word generalizing cs with
  | nil => exact ⟨cs, rfl, h⟩
  | cons c word ih =>
    obtain ⟨x', y₁, same, hx, hy⟩ := exists_of_ending (x := []) (hw c List.mem_cons_self) h
    obtain rfl := singleSpaced_eq_nil_iff.1 hx
    obtain ⟨y', rfl, rest⟩ := ih (fun d hd => hw d (List.mem_cons_of_mem _ hd)) hy
    exact ⟨y', same, rest⟩

end Text

/-! ## Clauses in such texts -/

namespace Clause

open Text

variable {cs : List Char} {clause : Clause}

/-- The clause in the text that is put together from the words. -/
def rejoined (clause : Clause) : Clause :=
  { clause with
    before := singleSpaced (clause.before.dropWhile isBlank)
    text := singleSpaced clause.text
    after := singleSpaced (trimEnd clause.after) }

/-- What stands between the place of a clause and its text is a stretch without blanks. -/
theorem StandsIn.opening_eq_cons (h : clause.StandsIn cs) :
    ∃ c rest, clause.opening = c :: rest ∧ isBlank c = false ∧ ∀ d ∈ rest, isBlank d = false := by
  obtain ⟨f, o, r, hk, -⟩ := h.keyword.exists_eq
  have marks : ∀ c ∈ [':', '"'], isBlank c = false := by
    simp only [List.forall_mem_cons]
    exact ⟨by decide, by decide, nofun⟩
  have noBlank : ∀ c ∈ clause.opening, isBlank c = false := by
    intro c hc
    rcases List.mem_append.1 hc with keyword | hc
    · exact isBlank_of_isWordChar (h.keyword.isWordChar c keyword)
    · rcases List.mem_append.1 hc with word | mark
      · exact isBlank_of_isWordChar (h.isWordChar c word)
      · exact marks c mark
  have split : clause.opening = f :: ([o, r] ++ (clause.word ++ [':', '"'])) := by
    rw [opening, hk]
    rfl
  rw [split] at noBlank
  exact ⟨f, _, split, noBlank f List.mem_cons_self, fun d hd =>
    noBlank d (List.mem_cons_of_mem _ hd)⟩

theorem quotable_singleSpaced {text : List Char} :
    Quotable (singleSpaced text) ↔ Quotable text := by
  have quote : isBlank '"' = false := by decide
  have colon : isBlank ':' = false := by decide
  constructor
  · exact fun h => ⟨fun hq => h.noQuote ((mem_singleSpaced quote).2 hq),
      fun hc => h.noColon ((mem_singleSpaced colon).2 hc)⟩
  · exact fun h => ⟨fun hq => h.noQuote ((mem_singleSpaced quote).1 hq),
      fun hc => h.noColon ((mem_singleSpaced colon).1 hc)⟩

theorem standsIn_of_eq_append_opening (parts : cs = clause.before ++ (clause.opening ++
      (clause.text ++ '"' :: clause.after))) (keyword : Keyword clause.keyword)
    (word : ∀ c ∈ clause.word, Text.isWordChar c = true) (text : Quotable clause.text) :
    clause.StandsIn cs :=
  standsIn_of_parts (by simpa [opening] using parts) keyword word text

theorem StandsIn.rejoined (h : clause.StandsIn cs) :
    clause.rejoined.StandsIn (singleSpaced (trim cs)) := by
  refine standsIn_of_eq_append_opening ?_ h.keyword h.isWordChar (quotable_singleSpaced.2 h.text)
  -- The text is cut where the opening starts and at the quote that ends the clause.
  obtain ⟨c, rest, split, hc, hrest⟩ := h.opening_eq_cons
  rw [h.eq_append_opening, show clause.rejoined.opening = clause.opening from rfl, split]
  simp only [List.cons_append]
  rw [rejoined_append_cons _ hc, ending_append hrest, ending_append_cons _ (by decide)]
  rfl

theorem exists_of_standsIn_rejoined (h : clause.StandsIn (singleSpaced (trim cs))) :
    ∃ source : Clause, source.StandsIn cs ∧ source.rejoined = clause := by
  have parts := h.eq_append_opening
  obtain ⟨c, rest, split, hc, hrest⟩ := h.opening_eq_cons
  rw [split, List.cons_append] at parts
  -- Each cut of the changed text comes from a cut of the text.
  obtain ⟨before, behind, hcs, hbefore, hbehind⟩ := exists_of_rejoined hc parts
  obtain ⟨quoted, rfl, hquoted⟩ := exists_of_ending_append hrest hbehind
  obtain ⟨text, after, rfl, htext, hafter⟩ := exists_of_ending (by decide) hquoted
  refine ⟨{ clause with before, text, after }, ?_, ?_⟩
  · refine standsIn_of_eq_append_opening ?_ h.keyword h.isWordChar
      (quotable_singleSpaced.1 (htext ▸ h.text))
    show cs = before ++ (clause.opening ++ (text ++ '"' :: after))
    rw [hcs, split, List.cons_append]
  · simp only [rejoined, hbefore, htext, hafter]

/-- **The clauses of a text and those of its words put together.** -/
theorem corresponds_rejoined (cs : List Char) :
    Corresponds rejoined cs (singleSpaced (trim cs)) where
  standsIn _ := StandsIn.rejoined
  exists_eq _ := exists_of_standsIn_rejoined
  length_lt a b ha hb left := by
    obtain ⟨c, rest, hc, hbefore⟩ := ha.exists_of_length_lt hb left
    -- The character at the place of the first clause is no blank, so it stays between the places.
    have cut := isBlank_of_isWordChar hc
    show (singleSpaced (a.before.dropWhile isBlank)).length <
      (singleSpaced (b.before.dropWhile isBlank)).length
    rw [hbefore, dropWhile_append_cons _ cut, singleSpaced_append_cons _ cut, List.length_append,
      List.length_cons]
    omega

theorem title?_rejoined (clause : Clause) :
    clause.rejoined.title? =
      clause.title?.map fun title => String.ofList (singleSpaced title.toList) := by
  rw [title?_eq, title?_eq, rejoined, trim_singleSpaced]
  by_cases none : trim clause.text = []
  · rw [none]
    rfl
  · rw [if_neg none, if_neg (mt singleSpaced_eq_nil_iff.1 none), Option.map_some,
      String.toList_ofList]

end Clause

namespace Request

open Text

/-- The words of an input, one by one. -/
def fragments (input : String) : List String := (words input.toList).map String.ofList

/-- The words of an input with single spaces between them. -/
def rejoined (input : String) : String := " ".intercalate (fragments input)

theorem toList_rejoined (input : String) :
    (rejoined input).toList = singleSpaced (trim input.toList) := by
  have space : " ".toList = [' '] := rfl
  have same : (fragments input).map String.toList = words input.toList := by
    simp [fragments, List.map_map, Function.comp_def]
  rw [rejoined, String.toList_intercalate, space, same, intercalate_words]

theorem corresponds_toList_rejoined (input : String) :
    Clause.Corresponds Clause.rejoined input.toList (rejoined input).toList := by
  rw [toList_rejoined]
  exact Clause.corresponds_rejoined input.toList

theorem normalizedWords_rejoined (input : String) :
    normalizedWords (rejoined input).toList = normalizedWords input.toList := by
  rw [normalizedWords, toList_rejoined, words_singleSpaced, words_trim]
  rfl

theorem normalizedWords_remainder_rejoined (clause : Clause) :
    normalizedWords clause.rejoined.remainder = normalizedWords clause.remainder := by
  have around : words clause.rejoined.remainder = words clause.remainder := by
    rw [Clause.words_remainder, Clause.words_remainder, Clause.rejoined]
    simp only [words_singleSpaced, words_dropWhile, words_trimEnd]
  rw [normalizedWords, around]
  rfl

/-- **The words of an input are the same request.** -/
theorem classifyWords_words (input : String) :
    (classifyWords (fragments input)).value =
        { (classify input).value with
          title := (classify input).value.title.map fun title =>
            String.ofList (singleSpaced title.toList) } ∧
      Clause.Corresponds Clause.rejoined input.toList (rejoined input).toList ∧
      (∀ a b : Clause, a.StandsIn input.toList → b.StandsIn input.toList →
        a.rejoined = b.rejoined → a = b) ∧
      Clause.find? (rejoined input).toList = (Clause.find? input.toList).map Clause.rejoined := by
  have corresponds := corresponds_toList_rejoined input
  refine ⟨?_, corresponds, fun a b ha hb => corresponds.eq_of_eq ha hb, corresponds.find?_eq_map⟩
  show (classify (rejoined input)).value = _
  rw [classify_of_corresponds corresponds (normalizedWords_rejoined input)
    normalizedWords_remainder_rejoined, title_classify, Option.map_bind]
  simp only [Clause.title?_rejoined]
  rfl

/-- A title that is spread over three words. -/
example : (classifyWords ["d20", "for:\"Luck", "of", "Nine\"adv"]).value =
    { dice := [⟨1, ⟨20, by decide⟩, none⟩], advantage := true, title := some "Luck of Nine" } := by
  decide +kernel

end Request

end ChatDice
