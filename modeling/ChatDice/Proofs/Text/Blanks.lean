import ChatDice.Text.Alphanumeric
import ChatDice.Text.Blank

/-!
# Blanks at the ends and between words

The words of a text say nothing about the blanks around them: how many there are at the ends, and
how many, and which, stand between two words.

**Theorem (`intercalate_words`).** The words of a text, put together with single spaces, are the
text without the blanks at its ends and with a single space in place of each run of blanks.

Neither change touches a character that is no blank. So a text and the changed text can be cut at
the same characters, and a cut goes with a cut: a law about `x ++ c :: y` says what becomes of a cut
text (`trimEnd_append_cons`, `singleSpaced_append_cons`), and its converse where a cut of the
changed text comes from (`exists_of_trimEnd`, `exists_of_singleSpaced`).
-/

namespace ChatDice.Text

variable {c : Char} {cs x y : List Char}

theorem isBlank_of_isWordChar (h : isWordChar c = true) : isBlank c = false := by
  have apart : ∀ r ∈ blankRanges.ranges, ∀ k < r.2 + 1 - r.1,
      holds alphanumericRanges.ranges (r.1 + k) = false ∧ r.1 + k ≠ '_'.toNat := by
    decide +kernel
  rw [Bool.eq_false_iff]
  intro blank
  obtain ⟨r, hr, first, last⟩ := (blankRanges.contains_iff c).1 blank
  obtain ⟨noLetter, noLine⟩ := apart r hr (c.toNat - r.1) (by omega)
  rw [Nat.add_sub_cancel' first] at noLetter noLine
  rcases Bool.or_eq_true_iff.1 h with letter | line
  · exact Bool.false_ne_true (noLetter.symm.trans letter)
  · exact noLine (congrArg Char.toNat (beq_iff_eq.1 line))

/-! ## Blanks at the ends -/

/-- A text without the blanks at its end. -/
def trimEnd (cs : List Char) : List Char := (cs.reverse.dropWhile isBlank).reverse

theorem trim_eq_trimEnd (cs : List Char) : trim cs = trimEnd (cs.dropWhile isBlank) := rfl

theorem dropWhile_of_blank (h : ∀ c ∈ cs, isBlank c = true) : cs.dropWhile isBlank = [] := by
  rw [← List.append_nil cs, List.dropWhile_append_of_pos h, List.dropWhile_nil]

theorem dropWhile_append_cons (x : List Char) (h : isBlank c = false) (y : List Char) :
    (x ++ c :: y).dropWhile isBlank = x.dropWhile isBlank ++ c :: y := by
  induction x with
  | nil => exact List.dropWhile_cons_of_neg (by simp [h])
  | cons d x ih =>
    by_cases hd : isBlank d = true
    · rw [List.cons_append, List.dropWhile_cons_of_pos hd, List.dropWhile_cons_of_pos hd, ih]
    · rw [List.cons_append, List.dropWhile_cons_of_neg hd, List.dropWhile_cons_of_neg hd,
        List.cons_append]

theorem exists_of_dropWhile (h : cs.dropWhile isBlank = x ++ c :: y) :
    ∃ x', cs = x' ++ c :: y ∧ x'.dropWhile isBlank = x := by
  induction cs with
  | nil => exact absurd h.symm (by simp)
  | cons d cs ih =>
    by_cases hd : isBlank d = true
    · rw [List.dropWhile_cons_of_pos hd] at h
      obtain ⟨x', rfl, hx⟩ := ih h
      exact ⟨d :: x', rfl, (List.dropWhile_cons_of_pos hd).trans hx⟩
    · rw [List.dropWhile_cons_of_neg hd] at h
      refine ⟨x, h, ?_⟩
      cases x with
      | nil => rfl
      | cons e x =>
        obtain ⟨rfl, -⟩ := List.cons.inj h
        exact List.dropWhile_cons_of_neg hd

theorem trimEnd_append_cons (x : List Char) (h : isBlank c = false) (y : List Char) :
    trimEnd (x ++ c :: y) = x ++ c :: trimEnd y := by
  have back : (x ++ c :: y).reverse = y.reverse ++ c :: x.reverse := by simp
  rw [trimEnd, back, dropWhile_append_cons _ h]
  simp [trimEnd]

theorem exists_of_trimEnd (h : trimEnd cs = x ++ c :: y) :
    ∃ y', cs = x ++ c :: y' ∧ trimEnd y' = y := by
  have back : cs.reverse.dropWhile isBlank = y.reverse ++ c :: x.reverse := by
    rw [← List.reverse_inj, ← trimEnd, h]
    simp
  obtain ⟨y', hy, rest⟩ := exists_of_dropWhile back
  refine ⟨y'.reverse, ?_, ?_⟩
  · rw [← List.reverse_inj, hy]
    simp
  · rw [trimEnd, List.reverse_reverse, rest, List.reverse_reverse]

/-- A text ends as it does without the blanks at its end, and then has those. -/
theorem exists_eq_trimEnd_append (cs : List Char) :
    ∃ blanks, (∀ c ∈ blanks, isBlank c = true) ∧ cs = trimEnd cs ++ blanks := by
  refine ⟨(cs.reverse.takeWhile isBlank).reverse, fun c hc => ?_, ?_⟩
  · exact List.all_eq_true.1 List.all_takeWhile c (List.mem_reverse.1 hc)
  · rw [trimEnd, ← List.reverse_append, List.takeWhile_append_dropWhile, List.reverse_reverse]

/-- A trimmed text is a part of the text, and the blanks before it are those at the start. -/
theorem exists_eq_trim_append (cs : List Char) :
    ∃ blanks, cs = cs.takeWhile isBlank ++ (trim cs ++ blanks) := by
  obtain ⟨blanks, -, hb⟩ := exists_eq_trimEnd_append (cs.dropWhile isBlank)
  refine ⟨blanks, ?_⟩
  rw [trim_eq_trimEnd, ← hb, List.takeWhile_append_dropWhile]

theorem head?_dropWhile (cs : List Char) : (cs.dropWhile isBlank).head?.any isBlank = false := by
  have head := List.head?_dropWhile_not isBlank cs
  cases h : (cs.dropWhile isBlank).head? with
  | none => rfl
  | some c =>
    rw [h] at head
    exact head

theorem getLast?_trimEnd (cs : List Char) : (trimEnd cs).getLast?.any isBlank = false := by
  rw [trimEnd, List.getLast?_reverse]
  exact head?_dropWhile cs.reverse

theorem head?_trim (cs : List Char) : (trim cs).head?.any isBlank = false := by
  have head := head?_dropWhile cs
  obtain ⟨blanks, -, hb⟩ := exists_eq_trimEnd_append (cs.dropWhile isBlank)
  rw [trim_eq_trimEnd]
  cases ht : trimEnd (cs.dropWhile isBlank) with
  | nil => rfl
  | cons c rest =>
    rw [hb, ht] at head
    exact head

/-! ## Blanks between words -/

/-- What a character becomes before the rest of a text: the last blank of a run becomes a space, and
the others go. -/
def spaced (c : Char) (rest : List Char) : List Char :=
  if isBlank c then if rest.head?.any isBlank then [] else [' '] else [c]

/-- The text with a single space in place of each run of blanks. -/
def singleSpaced : List Char → List Char
  | [] => []
  | c :: rest => spaced c rest ++ singleSpaced rest

theorem spaced_of_blank {d : Char} (h : isBlank c = true) (hd : isBlank d = true)
    (rest : List Char) : spaced c (d :: rest) = [] := by
  simp [spaced, h, hd]

theorem spaced_of_last (h : isBlank c = true) {rest : List Char}
    (hr : rest.head?.any isBlank = false) : spaced c rest = [' '] := by
  simp [spaced, h, hr]

theorem spaced_of_not_blank (h : isBlank c = false) (rest : List Char) : spaced c rest = [c] := by
  simp [spaced, h]

theorem singleSpaced_cons (h : isBlank c = false) (rest : List Char) :
    singleSpaced (c :: rest) = c :: singleSpaced rest := by
  rw [singleSpaced, spaced_of_not_blank h]
  rfl

theorem singleSpaced_append_cons (x : List Char) (h : isBlank c = false) (y : List Char) :
    singleSpaced (x ++ c :: y) = singleSpaced x ++ c :: singleSpaced y := by
  induction x with
  | nil => exact singleSpaced_cons h y
  | cons d x ih =>
    have same : spaced d (x ++ c :: y) = spaced d x := by
      cases x with
      | nil => simp [spaced, h]
      | cons e x => rfl
    rw [List.cons_append, singleSpaced, singleSpaced, same, ih, List.append_assoc]

theorem singleSpaced_eq_nil_iff : singleSpaced cs = [] ↔ cs = [] := by
  refine ⟨fun empty => ?_, congrArg singleSpaced⟩
  induction cs with
  | nil => rfl
  | cons c rest ih =>
    obtain ⟨gone, others⟩ := List.append_eq_nil_iff.1 empty
    -- A blank goes before another one only, and then the last one of them is left.
    obtain rfl := ih others
    unfold spaced at gone
    split at gone <;> simp at gone

theorem exists_of_singleSpaced (hc : isBlank c = false) (h : singleSpaced cs = x ++ c :: y) :
    ∃ x' y', cs = x' ++ c :: y' ∧ singleSpaced x' = x ∧ singleSpaced y' = y := by
  induction cs generalizing x with
  | nil => exact absurd h.symm (by simp [singleSpaced])
  | cons d cs ih =>
    cases hd : isBlank d with
    | false =>
      rw [singleSpaced_cons hd] at h
      cases x with
      | nil =>
        obtain ⟨rfl, rest⟩ := List.cons.inj h
        exact ⟨[], cs, rfl, rfl, rest⟩
      | cons e x =>
        obtain ⟨rfl, rest⟩ := List.cons.inj h
        obtain ⟨x', y', rfl, hx, hy⟩ := ih rest
        exact ⟨d :: x', y', rfl, by rw [singleSpaced_cons hd, hx], hy⟩
    | true =>
      -- What a blank becomes depends on the next character, which is the same before the cut.
      have next : ∀ x' y', cs = x' ++ c :: y' → spaced d cs = spaced d x' := by
        rintro x' y' rfl
        cases x' with
        | nil => simp [spaced, hc]
        | cons e x' => rfl
      cases hn : cs.head?.any isBlank with
      | true =>
        have gone : spaced d cs = [] := by simp [spaced, hd, hn]
        rw [singleSpaced, gone, List.nil_append] at h
        obtain ⟨x', y', same, hx, hy⟩ := ih h
        refine ⟨d :: x', y', congrArg (d :: ·) same, ?_, hy⟩
        rw [singleSpaced, ← next x' y' same, gone, List.nil_append, hx]
      | false =>
        have space := spaced_of_last hd hn
        rw [singleSpaced, space] at h
        cases x with
        | nil =>
          obtain ⟨rfl, -⟩ := List.cons.inj h
          exact absurd hc (by decide)
        | cons e x =>
          obtain ⟨rfl, rest⟩ := List.cons.inj h
          obtain ⟨x', y', same, hx, hy⟩ := ih rest
          refine ⟨d :: x', y', congrArg (d :: ·) same, ?_, hy⟩
          rw [singleSpaced, ← next x' y' same, space, hx]
          rfl

theorem mem_singleSpaced (h : isBlank c = false) : c ∈ singleSpaced cs ↔ c ∈ cs := by
  constructor
  · intro hc
    obtain ⟨x, y, hs⟩ := List.append_of_mem hc
    obtain ⟨x', y', rfl, -⟩ := exists_of_singleSpaced h hs
    exact List.mem_append_right _ List.mem_cons_self
  · intro hc
    obtain ⟨x, y, rfl⟩ := List.append_of_mem hc
    rw [singleSpaced_append_cons x h]
    exact List.mem_append_right _ List.mem_cons_self

theorem blank_of_mem_singleSpaced (h : ∀ d ∈ cs, isBlank d = true) (hc : c ∈ singleSpaced cs) :
    isBlank c = true := by
  cases hb : isBlank c with
  | true => rfl
  | false => exact hb.symm.trans (h c ((mem_singleSpaced hb).1 hc))

theorem dropWhile_singleSpaced (cs : List Char) :
    (singleSpaced cs).dropWhile isBlank = singleSpaced (cs.dropWhile isBlank) := by
  induction cs with
  | nil => rfl
  | cons c rest ih =>
    cases hc : isBlank c with
    | false =>
      have stop : ¬isBlank c = true := by simp [hc]
      rw [singleSpaced_cons hc, List.dropWhile_cons_of_neg stop, List.dropWhile_cons_of_neg stop,
        singleSpaced_cons hc]
    | true =>
      have blanks : ∀ d ∈ spaced c rest, isBlank d = true := by
        intro d hd
        unfold spaced at hd
        rw [if_pos hc] at hd
        split at hd
        · cases hd
        · rw [List.mem_singleton.1 hd]
          decide
      rw [singleSpaced, List.dropWhile_append_of_pos blanks, List.dropWhile_cons_of_pos hc, ih]

theorem trimEnd_of_blank (h : ∀ c ∈ cs, isBlank c = true) : trimEnd cs = [] := by
  have all := dropWhile_of_blank fun c hc => h c (List.mem_reverse.1 hc)
  rw [trimEnd, all, List.reverse_nil]

theorem trimEnd_singleSpaced (cs : List Char) :
    trimEnd (singleSpaced cs) = singleSpaced (trimEnd cs) := by
  obtain ⟨blanks, hb, hcs⟩ := exists_eq_trimEnd_append cs
  have gone : trimEnd (singleSpaced blanks) = [] :=
    trimEnd_of_blank fun _ => blank_of_mem_singleSpaced hb
  have last := getLast?_trimEnd cs
  rcases List.eq_nil_or_concat (trimEnd cs) with none | ⟨x, c, some⟩
  · rw [none, List.nil_append] at hcs
    rw [none, hcs, gone]
    rfl
  · rw [some, List.concat_eq_append, List.getLast?_concat, Option.any_some] at last
    rw [some, List.concat_eq_append] at hcs ⊢
    rw [hcs, List.append_assoc, List.singleton_append, singleSpaced_append_cons x last,
      singleSpaced_append_cons x last, trimEnd_append_cons _ last, gone]
    rfl

/-- **It is the same to trim a text before or after.** -/
theorem trim_singleSpaced (cs : List Char) : trim (singleSpaced cs) = singleSpaced (trim cs) := by
  rw [trim_eq_trimEnd, trim_eq_trimEnd, dropWhile_singleSpaced, trimEnd_singleSpaced]

/-! ## Words -/

theorem words_dropWhile (cs : List Char) : words (cs.dropWhile isBlank) = words cs := by
  induction cs with
  | nil => rfl
  | cons c rest ih =>
    by_cases hc : isBlank c = true
    · rw [List.dropWhile_cons_of_pos hc, words_cons_blank hc, ih]
    · rw [List.dropWhile_cons_of_neg hc]

theorem words_append_of_blank (cs : List Char) {blanks : List Char}
    (h : ∀ c ∈ blanks, isBlank c = true) : words (cs ++ blanks) = words cs := by
  cases blanks with
  | nil => rw [List.append_nil]
  | cons c rest =>
    have all := dropWhile_of_blank fun d hd => h d (List.mem_cons_of_mem _ hd)
    rw [words_append_blank cs (h c List.mem_cons_self), ← words_dropWhile rest, all, words_nil,
      List.append_nil]

theorem words_trimEnd (cs : List Char) : words (trimEnd cs) = words cs := by
  obtain ⟨blanks, hb, hcs⟩ := exists_eq_trimEnd_append cs
  conv => rhs; rw [hcs, words_append_of_blank _ hb]

theorem words_trim (cs : List Char) : words (trim cs) = words cs := by
  rw [trim_eq_trimEnd, words_trimEnd, words_dropWhile]

theorem endsWord_singleSpaced (cs : List Char) : endsWord (singleSpaced cs) = endsWord cs := by
  induction cs with
  | nil => rfl
  | cons c rest ih =>
    cases hc : isBlank c with
    | false => rw [singleSpaced_cons hc]; rfl
    | true =>
      show endsWord (spaced c rest ++ singleSpaced rest) = isBlank c
      rw [hc]
      cases hr : rest.head?.any isBlank with
      | false =>
        rw [spaced_of_last hc hr]
        rfl
      | true =>
        cases rest with
        | nil => cases hr
        | cons d rest =>
          rw [spaced_of_blank hc hr, List.nil_append, ih]
          exact hr

/-- **The words stay.** -/
theorem words_singleSpaced (cs : List Char) : words (singleSpaced cs) = words cs := by
  induction cs with
  | nil => rfl
  | cons c rest ih =>
    cases hc : isBlank c with
    | true =>
      have blanks : words (spaced c rest ++ singleSpaced rest) = words (singleSpaced rest) := by
        unfold spaced
        rw [if_pos hc]
        split
        · rfl
        · exact words_cons_blank (by decide) _
      rw [singleSpaced, blanks, ih, words_cons_blank hc]
    | false =>
      rw [singleSpaced_cons hc]
      -- A word ends at the same place in both texts.
      cases hr : endsWord rest with
      | true =>
        rw [words_cons_of_endsWord hc ((endsWord_singleSpaced rest).trans hr),
          words_cons_of_endsWord hc hr, ih]
      | false =>
        rw [words_cons_of_not_endsWord hc ((endsWord_singleSpaced rest).trans hr),
          words_cons_of_not_endsWord hc hr, ih]

theorem words_ne_nil_of_getLast? (h : cs ≠ []) (last : cs.getLast?.any isBlank = false) :
    words cs ≠ [] := by
  induction cs with
  | nil => exact absurd rfl h
  | cons c rest ih =>
    cases hc : isBlank c with
    | false => exact words_ne_nil hc rest
    | true =>
      rw [words_cons_blank hc]
      cases rest with
      | nil =>
        rw [List.getLast?_singleton, Option.any_some, hc] at last
        cases last
      | cons d rest => exact ih (List.cons_ne_nil d rest) last

theorem intercalate_extendFirst (c : Char) {ws : List (List Char)} (h : ws ≠ []) :
    [' '].intercalate (extendFirst c ws) = c :: [' '].intercalate ws := by
  match ws, h with
  | [w], _ => rfl
  | w :: v :: ws, _ =>
    rw [extendFirst, List.intercalate_cons_cons, List.intercalate_cons_cons]
    rfl

/-- The words of a text that does not end with a blank, and a space for the blanks before them. -/
theorem singleSpaced_eq_intercalate (last : cs.getLast?.any isBlank = false) :
    singleSpaced cs =
      (if cs.head?.any isBlank then [' '] else []) ++ [' '].intercalate (words cs) := by
  induction cs with
  | nil => rfl
  | cons c rest ih =>
    cases rest with
    | nil =>
      have hc : isBlank c = false := last
      rw [singleSpaced_cons hc, words_cons_of_endsWord hc rfl]
      simp [hc, singleSpaced]
    | cons d rest =>
      -- Words follow, so that a blank here goes into the space before the first of them.
      have some := words_ne_nil_of_getLast? (List.cons_ne_nil d rest) last
      have ih := ih last
      cases hc : isBlank c with
      | true =>
        rw [words_cons_blank hc, singleSpaced, ih]
        cases hd : isBlank d <;> simp [spaced, hc, hd]
      | false =>
        rw [singleSpaced_cons hc, ih]
        cases hd : isBlank d with
        | true =>
          obtain ⟨w, ws, hw⟩ := List.exists_cons_of_ne_nil some
          rw [words_cons_of_endsWord hc (show endsWord (d :: rest) = true from hd), hw,
            List.intercalate_cons_cons]
          simp [hc, hd]
        | false =>
          rw [words_cons_of_not_endsWord hc (show endsWord (d :: rest) = false from hd),
            intercalate_extendFirst c some]
          simp [hc, hd]

/-- **Words with single spaces between them.** -/
theorem intercalate_words (cs : List Char) :
    [' '].intercalate (words cs) = singleSpaced (trim cs) := by
  have last : (trim cs).getLast?.any isBlank = false := getLast?_trimEnd _
  rw [singleSpaced_eq_intercalate last, head?_trim, words_trim]
  rfl

end ChatDice.Text
