/-!
# Tables of code points

A set of characters is kept as the ascending list of the ranges that it consists of. Main statement:
`contains_iff` — a character is in the set just if one of the ranges holds it.
-/

namespace ChatDice.Text

/-- Whether no range is empty, the first begins at `start` or later, and each begins beyond the one
before. -/
def ascends (start : Nat) : List (Nat × Nat) → Bool
  | [] => true
  | (first, last) :: rest => start ≤ first && first ≤ last && ascends (last + 1) rest

/-- Whether some range holds the code point `n`; the search ends at the first range beyond `n`. -/
def holds : List (Nat × Nat) → Nat → Bool
  | [], _ => false
  | (first, last) :: rest, n => first ≤ n && (n ≤ last || holds rest n)

/-- A table of code points: ranges in ascending order, first and last one included. -/
structure Ranges where
  ranges : List (Nat × Nat)
  ascending : ascends 0 ranges = true

variable {start : Nat} {ranges : List (Nat × Nat)}

theorem le_of_mem_of_ascends (h : ascends start ranges = true) : ∀ r ∈ ranges, start ≤ r.1 := by
  induction ranges generalizing start with
  | nil => simp
  | cons r rest ih =>
    simp only [ascends, Bool.and_eq_true, decide_eq_true_eq] at h
    intro s hs
    rcases List.mem_cons.1 hs with rfl | hs
    · exact h.1.1
    · have := ih h.2 s hs
      omega

theorem holds_iff (h : ascends start ranges = true) (n : Nat) :
    holds ranges n = true ↔ ∃ r ∈ ranges, r.1 ≤ n ∧ n ≤ r.2 := by
  induction ranges generalizing start with
  | nil => simp [holds]
  | cons r rest ih =>
    simp only [ascends, Bool.and_eq_true, decide_eq_true_eq] at h
    simp only [holds, Bool.and_eq_true, Bool.or_eq_true, decide_eq_true_eq, ih h.2,
      List.mem_cons, exists_eq_or_imp]
    constructor
    · rintro ⟨h₁, h₂ | h₂⟩
      · exact .inl ⟨h₁, h₂⟩
      · exact .inr h₂
    · rintro (⟨h₁, h₂⟩ | ⟨s, hs, h₁, h₂⟩)
      · exact ⟨h₁, .inl h₂⟩
      · -- The search does not end before a later range, which begins beyond this one.
        have := le_of_mem_of_ascends h.2 s hs
        exact ⟨by omega, .inr ⟨s, hs, h₁, h₂⟩⟩

namespace Ranges

def contains (table : Ranges) (c : Char) : Bool := holds table.ranges c.toNat

theorem contains_iff (table : Ranges) (c : Char) :
    table.contains c = true ↔ ∃ r ∈ table.ranges, r.1 ≤ c.toNat ∧ c.toNat ≤ r.2 :=
  holds_iff table.ascending c.toNat

end Ranges

end ChatDice.Text
