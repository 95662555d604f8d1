import ChatDice.Proofs.Request.Correspondence
import ChatDice.Proofs.Text.Blanks
import ChatDice.Proofs.Text.Letters

/-!
# Capital letters

An input can be written in capital or in small letters.

**Theorem (`classify_sameLetters`).** Two inputs that differ in nothing but the case of ASCII
letters are the same request but for the title. Either none of them has a title, or the two titles
stand at the same place and are the same but for the case of ASCII letters, in which each is as its
own input has it.

Both inputs are compared with the one in small letters. Its clauses correspond to those of either
(`corresponds_lowered`), because the keyword may be in either case and the rest of the word in any,
and its words have the same lower case form.
-/

namespace ChatDice

open Text

namespace Clause

variable {cs : List Char} {a b clause : Clause}

/-- The clause with its ASCII letters in lower case. -/
def lowered (clause : Clause) : Clause where
  before := clause.before.map Char.toLower
  keyword := clause.keyword.map Char.toLower
  word := clause.word.map Char.toLower
  text := clause.text.map Char.toLower
  after := clause.after.map Char.toLower

theorem keyword_map_toLower {k : List Char} : Keyword (k.map Char.toLower) ↔ Keyword k := by
  simp [Keyword, Function.comp_def]

theorem quotable_map_toLower {text : List Char} :
    Quotable (text.map Char.toLower) ↔ Quotable text := by
  constructor
  · exact fun h => ⟨fun hq => h.noQuote (List.mem_map.2 ⟨_, hq, rfl⟩),
      fun hc => h.noColon (List.mem_map.2 ⟨_, hc, rfl⟩)⟩
  · intro h
    refine ⟨fun hq => ?_, fun hc => ?_⟩
    · obtain ⟨c, hc, quote⟩ := List.mem_map.1 hq
      exact h.noQuote (toLower_eq_quote.1 quote ▸ hc)
    · obtain ⟨c, hc, colon⟩ := List.mem_map.1 hc
      exact h.noColon (toLower_eq_colon.1 colon ▸ hc)

theorem StandsIn.lowered (h : clause.StandsIn cs) :
    clause.lowered.StandsIn (cs.map Char.toLower) := by
  refine standsIn_of_parts ?_ (keyword_map_toLower.2 h.keyword) ?_ (quotable_map_toLower.2 h.text)
  · refine (congrArg (List.map Char.toLower) h.parts).trans ?_
    simp [Clause.lowered]
  · intro c hc
    obtain ⟨d, hd, rfl⟩ := List.mem_map.1 hc
    exact (isWordChar_toLower d).trans (h.isWordChar d hd)

theorem exists_of_standsIn_lowered (h : clause.StandsIn (cs.map Char.toLower)) :
    ∃ source : Clause, source.StandsIn cs ∧ source.lowered = clause := by
  obtain ⟨before, l₁, rfl, hb, h₁⟩ := List.map_eq_append_iff.1 h.parts
  obtain ⟨keyword, l₂, rfl, hk, h₂⟩ := List.map_eq_append_iff.1 h₁
  obtain ⟨word, l₃, rfl, hw, h₃⟩ := List.map_eq_append_iff.1 h₂
  obtain ⟨colon, l₄, rfl, hcolon, h₄⟩ := List.map_eq_cons_iff.1 h₃
  obtain ⟨quote, l₅, rfl, hquote, h₅⟩ := List.map_eq_cons_iff.1 h₄
  obtain ⟨text, l₆, rfl, ht, h₆⟩ := List.map_eq_append_iff.1 h₅
  obtain ⟨closing, after, rfl, hclosing, ha⟩ := List.map_eq_cons_iff.1 h₆
  obtain rfl := toLower_eq_colon.1 hcolon
  obtain rfl := toLower_eq_quote.1 hquote
  obtain rfl := toLower_eq_quote.1 hclosing
  have wordChars : ∀ c ∈ word, isWordChar c = true := fun c hc =>
    (isWordChar_toLower c).symm.trans (h.isWordChar _ (hw ▸ List.mem_map_of_mem hc))
  refine ⟨{ before, keyword, word, text, after }, standsIn_of_parts rfl ?_ wordChars ?_, ?_⟩
  · exact keyword_map_toLower.1 (hk ▸ h.keyword)
  · exact quotable_map_toLower.1 (ht ▸ h.text)
  · simp only [Clause.lowered, hb, hk, hw, ht, ha]

/-- **The clauses of a text and those of its small letters.** -/
theorem corresponds_lowered (cs : List Char) : Corresponds lowered cs (cs.map Char.toLower) where
  standsIn _ := StandsIn.lowered
  exists_eq _ := exists_of_standsIn_lowered
  length_lt a b _ _ left := by simpa [lowered] using left

theorem remainder_lowered (clause : Clause) :
    clause.lowered.remainder = clause.remainder.map Char.toLower := by
  have space : ' '.toLower = ' ' := rfl
  simp [remainder, lowered, space]

end Clause

/-! ## Titles of inputs in either case -/

/-- The titles of two inputs: there are none, or they stand at the same place and are the same but
for the case of ASCII letters. -/
inductive TitlesAlike (a b : String) : Option String → Option String → Prop
  | none : TitlesAlike a b none none
  | some {before title after before' title' after' : String}
      (first : a = before ++ title ++ after) (second : b = before' ++ title' ++ after')
      (place : before.length = before'.length) (alike : SameLetters title.toList title'.toList) :
      TitlesAlike a b (some title) (some title')

namespace Clause

variable {a b : String} {c d : Clause} {cs : List Char}

theorem StandsIn.exists_eq_trim (h : c.StandsIn cs) :
    ∃ after, cs = c.before ++ (c.opening ++ c.text.takeWhile isBlank) ++ trim c.text ++ after := by
  obtain ⟨blanks, hb⟩ := exists_eq_trim_append c.text
  refine ⟨blanks ++ '"' :: c.after, ?_⟩
  rw [h.eq_append_opening]
  conv => lhs; rw [hb]
  simp

theorem titlesAlike (hc : c.StandsIn a.toList) (hd : d.StandsIn b.toList)
    (same : c.lowered = d.lowered) : TitlesAlike a b c.title? d.title? := by
  obtain ⟨before, keyword, word, text, -⟩ := Clause.mk.inj same
  have title : (trim c.text).map Char.toLower = (trim d.text).map Char.toLower := by
    rw [← trim_map_toLower, text, trim_map_toLower]
  rw [title?_eq, title?_eq]
  by_cases none : trim c.text = []
  · have none' : trim d.text = [] := by
      rw [none] at title
      exact List.map_eq_nil_iff.1 title.symm
    rw [if_pos none, if_pos none']
    exact .none
  · have some : trim d.text ≠ [] := by
      rintro none'
      rw [none'] at title
      exact none (List.map_eq_nil_iff.1 title)
    rw [if_neg none, if_neg some]
    obtain ⟨after, ha⟩ := hc.exists_eq_trim
    obtain ⟨after', hb⟩ := hd.exists_eq_trim
    -- Both titles stand behind as many characters: those before the clause and its opening, and
    -- the blanks that are taken away.
    have blanks : (c.text.takeWhile isBlank).map Char.toLower =
        (d.text.takeWhile isBlank).map Char.toLower := by
      rw [← takeWhile_map_toLower isBlank_toLower, text, takeWhile_map_toLower isBlank_toLower]
    have place : (c.before ++ (c.opening ++ c.text.takeWhile isBlank)).map Char.toLower =
        (d.before ++ (d.opening ++ d.text.takeWhile isBlank)).map Char.toLower := by
      simp only [opening, List.map_append, before, keyword, word, blanks]
    have written {s : String} {p t q : List Char} (h : s.toList = p ++ t ++ q) :
        s = String.ofList p ++ String.ofList t ++ String.ofList q := by
      rw [← String.toList_inj, h]
      simp
    refine .some (written ha) (written hb) ?_ ?_
    · simpa using congrArg List.length place
    · simpa [SameLetters] using title

end Clause

namespace Request

variable {a b : String}

theorem normalizedWords_map_toLower (cs : List Char) :
    normalizedWords (cs.map Char.toLower) = normalizedWords cs := by
  rw [normalizedWords, words_map_toLower, List.map_map, normalizedWords]
  exact List.map_congr_left fun word _ => lower_map_toLower word

theorem classify_lowered (input : String) :
    (classify (String.ofList (input.toList.map Char.toLower))).value =
      (classify input).value.retitled
        ((Clause.find? input.toList).bind fun clause => clause.lowered.title?) := by
  refine classify_of_corresponds ?_ ?_ fun clause => ?_
  · rw [String.toList_ofList]
    exact Clause.corresponds_lowered input.toList
  · rw [String.toList_ofList, normalizedWords_map_toLower]
  · rw [Clause.remainder_lowered, normalizedWords_map_toLower]

theorem titlesAlike_classify (same : SameLetters a.toList b.toList) :
    TitlesAlike a b (classify a).value.title (classify b).value.title := by
  have found := (Clause.corresponds_lowered a.toList).find?_eq_map
  rw [show a.toList.map Char.toLower = b.toList.map Char.toLower from same,
    (Clause.corresponds_lowered b.toList).find?_eq_map] at found
  rw [title_classify, title_classify]
  cases ha : Clause.find? a.toList with
  | none =>
    rw [ha, Option.map_none, Option.map_eq_none_iff] at found
    rw [found]
    exact .none
  | some c =>
    rw [ha, Option.map_some] at found
    obtain ⟨d, hb, lowered⟩ := Option.map_eq_some_iff.1 found
    rw [hb]
    exact Clause.titlesAlike (Clause.standsIn_of_find? ha) (Clause.standsIn_of_find? hb)
      lowered.symm

/-- Requests that are the same under other titles are the same but for their own. -/
theorem eq_retitled_of_retitled_eq {r s : Request} {title title' : Option String}
    (h : s.retitled title = r.retitled title') : s = r.retitled s.title := by
  calc s = (s.retitled title).retitled s.title := rfl
    _ = (r.retitled title').retitled s.title := by rw [h]
    _ = r.retitled s.title := rfl

/-- **A request can be written in capital letters.** -/
theorem classify_sameLetters (same : SameLetters a.toList b.toList) :
    let r := (classify a).value
    let s := (classify b).value
    s = { r with title := s.title } ∧ TitlesAlike a b r.title s.title := by
  intro r s
  refine ⟨?_, titlesAlike_classify same⟩
  have small := classify_lowered a
  rw [show a.toList.map Char.toLower = b.toList.map Char.toLower from same,
    classify_lowered b] at small
  exact eq_retitled_of_retitled_eq small

/-- A capital sigma ends a word after a letter in either case, and the titles differ. -/
theorem classify_sameLetters_sigma :
    let a := "2D20 ADV +AΣ ForÉ:\" Dark ΣTAR\""
    let b := "2d20 aDv +aΣ fORÉ:\" dARK Σtar\""
    let r := (classify a).value
    let s := (classify b).value
    SameLetters a.toList b.toList ∧ s = { r with title := s.title } ∧
      TitlesAlike a b r.title s.title ∧ r.title = some "Dark ΣTAR" ∧ s.title = some "dARK Σtar" ∧
      s.modifier = some (.malformed "+aς") := by
  intro a b r s
  have same : SameLetters a.toList b.toList := by decide +kernel
  have alike := classify_sameLetters same
  have title : r.title = some "Dark ΣTAR" := by decide +kernel
  have title' : s.title = some "dARK Σtar" := by decide +kernel
  have modifier : s.modifier = some (.malformed "+aς") := by decide +kernel
  exact ⟨same, alike.1, alike.2, title, title', modifier⟩

end Request

end ChatDice
