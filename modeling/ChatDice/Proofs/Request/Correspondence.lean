import ChatDice.Proofs.Request.Leftmost
import ChatDice.Proofs.Request.Retitled

/-!
# Corresponding clauses

Some changes of an input keep what counts about its title clauses. Such a change takes every clause
of the one text to a clause of the other, reaches every clause of the other, and keeps their order.

**Theorem (`Corresponds.find?_eq_map`).** The clause that is found in the changed text is the change
of the one that is found in the text; and none is found in the one just if none is in the other.

**Theorem (`classify_of_corresponds`).** If the words around the clauses stay the same as well, the
request changes in nothing but its title.

A clause is known by its place (`StandsIn.eq_of_length_eq`), so a change that keeps the order takes
no two clauses to the same one (`Corresponds.eq_of_eq`), and the leftmost one to the leftmost one.
-/

namespace ChatDice

namespace Clause

variable {f : Clause → Clause} {cs ds : List Char} {a b clause : Clause}

/-! ## Places -/

/-- A clause up to its text: the keyword, the rest of the word, a colon and a quote. -/
def opening (clause : Clause) : List Char := clause.keyword ++ (clause.word ++ [':', '"'])

theorem StandsIn.eq_append_opening (h : clause.StandsIn cs) :
    cs = clause.before ++ (clause.opening ++ (clause.text ++ '"' :: clause.after)) := by
  simpa [opening] using h.parts

/-- At each place there is at most one clause. -/
theorem StandsIn.eq_of_length_eq (ha : a.StandsIn cs) (hb : b.StandsIn cs)
    (same : a.before.length = b.before.length) : a = b := by
  obtain ⟨before, here⟩ := List.append_inj (ha.parts.symm.trans hb.parts) same
  have started := startingAt?_keyword ha.keyword ha.isWordChar ha.text a.after
  rw [here, startingAt?_keyword hb.keyword hb.isWordChar hb.text b.after] at started
  obtain ⟨-, keyword, word, text, after⟩ := Clause.mk.inj (Option.some.inj started)
  cases a
  cases b
  rw [Clause.mk.injEq]
  exact ⟨before, keyword.symm, word.symm, text.symm, after.symm⟩

/-- Of two clauses, the place of the one on the right is behind a letter of the one on the left. -/
theorem StandsIn.exists_of_length_lt (ha : a.StandsIn cs) (hb : b.StandsIn cs)
    (left : a.before.length < b.before.length) :
    ∃ c rest, Text.isWordChar c = true ∧ b.before = a.before ++ c :: rest := by
  rcases List.append_eq_append_iff.1 (ha.parts.symm.trans hb.parts) with ⟨p, hp, rest⟩ | ⟨p, hp, -⟩
  · obtain ⟨f, o, r, hk, -⟩ := ha.keyword.exists_eq
    cases p with
    | nil =>
      rw [hp, List.append_nil] at left
      exact absurd left (Nat.lt_irrefl _)
    | cons c p =>
      rw [hk] at rest
      obtain ⟨rfl, -⟩ := List.cons.inj rest
      exact ⟨_, p, ha.keyword.isWordChar _ (hk ▸ List.mem_cons_self), hp⟩
  · rw [hp, List.length_append] at left
    omega

/-! ## Changes that keep clauses -/

/-- The change takes the clauses of one text to those of another and keeps their order. -/
structure Corresponds (f : Clause → Clause) (cs ds : List Char) : Prop where
  standsIn : ∀ clause : Clause, clause.StandsIn cs → (f clause).StandsIn ds
  exists_eq : ∀ clause : Clause, clause.StandsIn ds → ∃ source : Clause,
    source.StandsIn cs ∧ f source = clause
  length_lt : ∀ a b : Clause, a.StandsIn cs → b.StandsIn cs →
    a.before.length < b.before.length → (f a).before.length < (f b).before.length

namespace Corresponds

theorem eq_of_eq (h : Corresponds f cs ds) (ha : a.StandsIn cs) (hb : b.StandsIn cs)
    (same : f a = f b) : a = b := by
  rcases Nat.lt_trichotomy a.before.length b.before.length with lt | eq | gt
  · have lt := h.length_lt a b ha hb lt
    rw [same] at lt
    exact absurd lt (Nat.lt_irrefl _)
  · exact ha.eq_of_length_eq hb eq
  · have gt := h.length_lt b a hb ha gt
    rw [same] at gt
    exact absurd gt (Nat.lt_irrefl _)

/-- **The first clause stays the first.** -/
theorem find?_eq_map (h : Corresponds f cs ds) : find? ds = (find? cs).map f := by
  cases hc : find? cs with
  | none =>
    rw [find?_eq_none_iff] at hc
    refine find?_eq_none_iff.2 fun clause stands => ?_
    obtain ⟨source, hs, -⟩ := h.exists_eq clause stands
    exact hc source hs
  | some clause =>
    obtain ⟨stands, least⟩ := find?_eq_some_iff.1 hc
    refine find?_eq_some_iff.2 ⟨h.standsIn clause stands, fun other ho => ?_⟩
    obtain ⟨source, hs, rfl⟩ := h.exists_eq other ho
    rcases Nat.lt_or_eq_of_le (least source hs) with lt | eq
    · exact Nat.le_of_lt (h.length_lt clause source stands hs lt)
    · exact Nat.le_of_eq (congrArg (fun c => (f c).before.length) (stands.eq_of_length_eq hs eq))

end Corresponds

end Clause

namespace Request

variable {f : Clause → Clause} {a b : String}

theorem title_classify (input : String) :
    (classify input).value.title = (Clause.find? input.toList).bind Clause.title? := by
  have title (title : Option String) (words : List (List Char)) :
      (words.foldl addWord { title }).title = title :=
    congrArg Request.title (foldl_addWord_retitled {} title words)
  rw [value_classify, title, extractTitle]
  cases Clause.find? input.toList <;> rfl

/-- **The request of a changed text.** The title is that of the changed clause. -/
theorem classify_of_corresponds (h : Clause.Corresponds f a.toList b.toList)
    (words : normalizedWords b.toList = normalizedWords a.toList)
    (around : ∀ clause : Clause,
      normalizedWords (f clause).remainder = normalizedWords clause.remainder) :
    (classify b).value = (classify a).value.retitled
      ((Clause.find? a.toList).bind fun clause => (f clause).title?) := by
  rw [value_classify, value_classify, extractTitle, extractTitle, h.find?_eq_map]
  cases Clause.find? a.toList with
  | none =>
    show (normalizedWords b.toList).foldl addWord _ = _
    rw [words, ← foldl_addWord_retitled]
    rfl
  | some clause =>
    show (normalizedWords (f clause).remainder).foldl addWord _ = _
    rw [around, ← foldl_addWord_retitled]
    rfl

end Request

end ChatDice
