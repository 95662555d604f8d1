import ChatDice.Request.Title

/-!
# Where a title clause starts

The leftmost clause of a text is found by trying one place after the other. A place before the
clause fails for reasons that lie before the text in quotes.

**Theorem (`startingAt?_eq_none_of_append`).** If no clause starts at some place before a clause,
none starts there when something else follows the opening quote.

A clause that starts before the other one either ends before it or runs into its keyword. There it
can go on in two ways. As the rest of a word it goes on to the colon and the quote of the other
clause, and ends where that ends; so it is a clause at any rate. As a text in quotes it goes on to
the colon, and a text in quotes has none.
-/

namespace ChatDice

open Text (isWordChar isWordChar_colon isWordChar_quote isAlphanumeric_of_isAlphanum)

namespace Clause

/-! ## The parts of a clause -/

/-- The letters `for`, in either case. -/
def Keyword (cs : List Char) : Prop := cs.map Char.toLower = ['f', 'o', 'r']

instance (cs : List Char) : Decidable (Keyword cs) :=
  inferInstanceAs (Decidable (cs.map Char.toLower = ['f', 'o', 'r']))

theorem Keyword.exists_eq {cs : List Char} (h : Keyword cs) :
    ∃ f o r, cs = [f, o, r] ∧ f.toLower = 'f' ∧ o.toLower = 'o' ∧ r.toLower = 'r' := by
  obtain ⟨f, rest, rfl, hf, h⟩ := List.map_eq_cons_iff.1 h
  obtain ⟨o, rest, rfl, ho, h⟩ := List.map_eq_cons_iff.1 h
  obtain ⟨r, rest, rfl, hr, h⟩ := List.map_eq_cons_iff.1 h
  obtain rfl : rest = [] := List.map_eq_nil_iff.1 h
  exact ⟨f, o, r, rfl, hf, ho, hr⟩

theorem isWordChar_of_toLower {c : Char} (h : c.toLower.isLower = true) : isWordChar c = true := by
  have letter : c.isAlphanum = true := by
    show (c.isUpper || c.isLower || c.isDigit) = true
    unfold Char.toLower at h
    split at h
    · next capital =>
      have upper : c.isUpper = true := decide_eq_true capital
      rw [upper, Bool.true_or, Bool.true_or]
    · rw [h, Bool.or_true, Bool.true_or]
  simp [isWordChar, isAlphanumeric_of_isAlphanum letter]

theorem Keyword.isWordChar {cs : List Char} (h : Keyword cs) :
    ∀ c ∈ cs, isWordChar c = true := by
  intro c hc
  apply isWordChar_of_toLower
  have lower : c.toLower ∈ ['f', 'o', 'r'] := h ▸ List.mem_map_of_mem hc
  simp only [List.mem_cons, List.not_mem_nil, or_false] at lower
  rcases lower with hf | ho | hr
  · rw [hf]
    rfl
  · rw [ho]
    rfl
  · rw [hr]
    rfl

theorem isTextChar_iff {c : Char} : isTextChar c = true ↔ c ≠ '"' ∧ c ≠ ':' := by
  simp [isTextChar]

theorem isTextChar_of_isWordChar {c : Char} (h : Text.isWordChar c = true) :
    isTextChar c = true := by
  rw [isTextChar_iff]
  constructor
  · rintro rfl
    rw [isWordChar_quote] at h
    cases h
  · rintro rfl
    rw [isWordChar_colon] at h
    cases h

/-- A text that can stand in quotes. -/
structure Quotable (text : List Char) : Prop where
  noQuote : '"' ∉ text
  noColon : ':' ∉ text

instance (text : List Char) : Decidable (Quotable text) :=
  decidable_of_iff ('"' ∉ text ∧ ':' ∉ text)
    ⟨fun h => ⟨h.1, h.2⟩, fun h => ⟨h.noQuote, h.noColon⟩⟩

theorem Quotable.isTextChar {text : List Char} (h : Quotable text) :
    ∀ c ∈ text, isTextChar c = true := by
  intro c hc
  rw [isTextChar_iff]
  constructor
  · rintro rfl
    exact h.noQuote hc
  · rintro rfl
    exact h.noColon hc

theorem quotedAt?_text {t : List Char} (quotable : Quotable t) (after : List Char) :
    quotedAt? (':' :: '"' :: (t ++ '"' :: after)) = some (t, after) := by
  have text : ∀ c ∈ t, isTextChar c = true := quotable.isTextChar
  have quote : ¬isTextChar '"' = true := by decide
  have taken : (t ++ '"' :: after).takeWhile isTextChar = t := by
    rw [List.takeWhile_append_of_pos text, List.takeWhile_cons_of_neg quote, List.append_nil]
  have left : (t ++ '"' :: after).dropWhile isTextChar = '"' :: after := by
    rw [List.dropWhile_append_of_pos text, List.dropWhile_cons_of_neg quote]
  simp only [quotedAt?, taken, left]

theorem startingAt?_keyword {k w t : List Char} (hk : Keyword k)
    (hw : ∀ c ∈ w, Text.isWordChar c = true) (quotable : Quotable t) (after : List Char) :
    startingAt? (k ++ (w ++ ':' :: '"' :: (t ++ '"' :: after))) =
      some { before := [], keyword := k, word := w, text := t, after } := by
  obtain ⟨f, o, r, rfl, hf, ho, hr⟩ := hk.exists_eq
  have keyword : isKeyword f o r = true := by simp [isKeyword, hf, ho, hr]
  have colon : ¬Text.isWordChar ':' = true := by simp [isWordChar_colon]
  show startingAt? (f :: o :: r :: (w ++ ':' :: '"' :: (t ++ '"' :: after))) = _
  rw [startingAt?, if_pos keyword, List.takeWhile_append_of_pos hw, List.dropWhile_append_of_pos hw,
    List.takeWhile_cons_of_neg colon, List.dropWhile_cons_of_neg colon, quotedAt?_text quotable,
    List.append_nil]
  rfl

/-! ## Places before a clause -/

/-- A text in quotes has no end just if it stops at something other than a quote. -/
theorem quotedAt?_eq_none_iff (rest : List Char) :
    quotedAt? (':' :: '"' :: rest) = none ↔ (rest.dropWhile isTextChar).head? ≠ some '"' := by
  cases h : rest.dropWhile isTextChar with
  | nil => simp [quotedAt?, h]
  | cons c tail =>
    by_cases hc : c = '"'
    · subst hc
      simp [quotedAt?, h]
    · simp [quotedAt?, h, hc]

theorem quotedAt?_of_not_opens {c d : Char} (h : ¬(c = ':' ∧ d = '"')) (rest : List Char) :
    quotedAt? (c :: d :: rest) = none := by
  unfold quotedAt?
  split
  · next same =>
    obtain ⟨hc, same⟩ := List.cons.inj same
    exact absurd ⟨hc, (List.cons.inj same).1⟩ h
  · rfl

/-- A text in quotes that runs into a word stops at the colon after it, if it has not stopped. -/
theorem head?_dropWhile_append {w : List Char} (hw : ∀ c ∈ w, Text.isWordChar c = true)
    (l y : List Char) :
    ((l ++ (w ++ ':' :: y)).dropWhile isTextChar).head? =
      (l.dropWhile isTextChar ++ [':']).head? := by
  have text : ∀ c ∈ w, isTextChar c = true := fun c hc => isTextChar_of_isWordChar (hw c hc)
  have colon : ¬isTextChar ':' = true := by decide
  rw [List.dropWhile_append]
  cases h : l.dropWhile isTextChar with
  | nil =>
    rw [if_pos List.isEmpty_nil, List.dropWhile_append_of_pos text,
      List.dropWhile_cons_of_neg colon]
    rfl
  | cons c rest =>
    rw [if_neg (by simp)]
    rfl

/-- A text in quotes that has no end before a word has none after it. -/
theorem quotedAt?_eq_none_of_append {l w y : List Char} (hl : l ≠ []) (hw₀ : w ≠ [])
    (hw : ∀ c ∈ w, Text.isWordChar c = true) (h : quotedAt? (l ++ (w ++ ':' :: y)) = none)
    (z : List Char) : quotedAt? (l ++ (w ++ ':' :: z)) = none := by
  match l, hl with
  -- The quote would be the first character of the word.
  | [c], _ =>
    obtain ⟨d, rest, rfl⟩ := List.exists_cons_of_ne_nil hw₀
    refine quotedAt?_of_not_opens ?_ _
    rintro ⟨-, rfl⟩
    have quote := hw '"' List.mem_cons_self
    rw [isWordChar_quote] at quote
    cases quote
  | c :: d :: l, _ =>
    by_cases opens : c = ':' ∧ d = '"'
    · obtain ⟨rfl, rfl⟩ := opens
      simp only [List.cons_append] at h ⊢
      rw [quotedAt?_eq_none_iff, head?_dropWhile_append hw] at h ⊢
      exact h
    · exact quotedAt?_of_not_opens opens _

theorem startingAt?_eq_none_iff {f o r : Char} {rest : List Char} :
    startingAt? (f :: o :: r :: rest) = none ↔
      (isKeyword f o r = true → quotedAt? (rest.dropWhile Text.isWordChar) = none) := by
  rw [startingAt?]
  by_cases h : isKeyword f o r = true
  · rw [if_pos h, Option.map_eq_none_iff]
    exact ⟨fun none _ => none, fun none => none h⟩
  · rw [if_neg h]
    exact iff_of_true rfl fun h' => absurd h' h

/-- **What fails before a clause fails before its text.** -/
theorem startingAt?_eq_none_of_append {b k w y : List Char} (hb : b ≠ []) (hk : Keyword k)
    (hw : ∀ c ∈ w, Text.isWordChar c = true) (hy : quotedAt? (':' :: '"' :: y) ≠ none)
    (h : startingAt? (b ++ (k ++ (w ++ ':' :: '"' :: y))) = none) (z : List Char) :
    startingAt? (b ++ (k ++ (w ++ ':' :: '"' :: z))) = none := by
  have run : ∀ c ∈ k ++ w, Text.isWordChar c = true := fun c hc =>
    (List.mem_append.1 hc).elim (hk.isWordChar c) (hw c)
  have some : k ++ w ≠ [] := by
    obtain ⟨f, o, r, rfl, -⟩ := hk.exists_eq
    exact List.cons_ne_nil _ _
  have colon : ¬Text.isWordChar ':' = true := by simp [isWordChar_colon]
  rw [← List.append_assoc k] at h ⊢
  -- An `f` is no letter of the keyword but its first, so no keyword starts one or two places
  -- before another.
  match b, hb with
  | [x], _ =>
    obtain ⟨f, o, r, rfl, hf, -⟩ := hk.exists_eq
    refine startingAt?_eq_none_iff.2 fun keyword => ?_
    simp [isKeyword, hf] at keyword
  | [x, x'], _ =>
    obtain ⟨f, o, r, rfl, hf, -⟩ := hk.exists_eq
    refine startingAt?_eq_none_iff.2 fun keyword => ?_
    simp [isKeyword, hf] at keyword
  | x :: x' :: x'' :: b, _ =>
    simp only [List.cons_append] at h ⊢
    rw [startingAt?_eq_none_iff] at h ⊢
    intro keyword
    have fails := h keyword
    rw [List.dropWhile_append] at fails ⊢
    cases hd : b.dropWhile Text.isWordChar with
    | nil =>
      -- The word goes on to the colon of the clause, which opens a text in quotes.
      rw [hd, if_pos List.isEmpty_nil, List.dropWhile_append_of_pos run,
        List.dropWhile_cons_of_neg colon] at fails
      exact absurd fails hy
    | cons c rest =>
      rw [hd, if_neg (by simp)] at fails
      rw [if_neg (by simp)]
      exact quotedAt?_eq_none_of_append (List.cons_ne_nil _ _) some run fails _

/-! ## The first place that does not fail -/

theorem find?_of_startingAt? {cs : List Char} {clause : Clause}
    (h : startingAt? cs = some clause) : find? cs = some clause := by
  cases cs with
  | nil => cases h
  | cons c rest => rw [find?, h]

theorem find?_append_of_forall {p : List Char} {x : List Char}
    (h : ∀ b, b ≠ [] → b <:+ p → startingAt? (b ++ x) = none) :
    find? (p ++ x) = (find? x).map fun clause => { clause with before := p ++ clause.before } := by
  induction p with
  | nil => exact Option.map_id'.symm
  | cons c p ih =>
    have fails : startingAt? (c :: (p ++ x)) = none := h _ (List.cons_ne_nil c p) List.suffix_rfl
    rw [List.cons_append, find?, fails,
      ih fun b hb suffix => h b hb (suffix.trans (List.suffix_cons c p)), Option.map_map]
    rfl

theorem startingAt?_eq_none_of_find? {p x : List Char} {clause : Clause}
    (found : find? (p ++ x) = some clause) (place : clause.before = p) :
    ∀ b, b ≠ [] → b <:+ p → startingAt? (b ++ x) = none := by
  induction p generalizing clause with
  | nil =>
    intro b hb suffix
    exact absurd (List.suffix_nil.1 suffix) hb
  | cons c p ih =>
    rw [List.cons_append, find?] at found
    split at found
    · next first hs =>
      obtain rfl := Option.some.inj found
      obtain ⟨empty, -⟩ := parts_of_startingAt? hs
      rw [empty] at place
      cases place
    · next fails =>
      obtain ⟨inner, hi, rfl⟩ := Option.map_eq_some_iff.1 found
      obtain ⟨-, inside⟩ := List.cons.inj place
      intro b hb suffix
      rcases List.suffix_cons_iff.1 suffix with rfl | shorter
      · exact fails
      · exact ih hi inside b hb shorter

end Clause

end ChatDice
