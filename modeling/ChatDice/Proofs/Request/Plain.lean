import ChatDice.Proofs.Request.Clause
import ChatDice.Request.Classify

/-!
# Plain words

Every word that says something in a request can be written with digits, signs and small letters
other than `f`. Such a word is plain: it is a single word, it is its own lower case form, and no
title clause starts in it.

**Theorem (`extractTitle_append`).** From a text without `f` nothing is taken out: if more follows,
the title is that of what follows.
-/

namespace ChatDice

/-! ## Plain characters -/

namespace Text

/-- Whether `c` is a digit, a sign or a small letter other than `f`. -/
def isPlain (c : Char) : Bool := c.isDigit || c == '+' || c == '-' || (c.isLower && c != 'f')

theorem toNat_lt_of_isPlain {c : Char} (h : isPlain c = true) : c.toNat < 128 := by
  simp only [isPlain, Bool.or_eq_true, Bool.and_eq_true, beq_iff_eq] at h
  rcases h with ((h | rfl) | rfl) | ⟨h, -⟩
  · exact Nat.lt_of_le_of_lt (Char.isDigit_iff_toNat.1 h).2 (by decide)
  · decide
  · decide
  · have upper : c.val ≤ 'z'.val := of_decide_eq_true (Bool.and_eq_true_iff.1 h).2
    exact Nat.lt_of_le_of_lt (UInt32.le_iff_toNat_le.1 upper) (by decide)

theorem isPlain_of_isDigit {c : Char} (h : c.isDigit = true) : isPlain c = true := by
  simp [isPlain, h]

/-- A plain character is no blank and its own small letter, and no title clause starts with it. -/
theorem of_isPlain {c : Char} (h : isPlain c = true) :
    isBlank c = false ∧ c.toLower = c ∧ c ≠ 'f' := by
  have all : ∀ n < 128, isPlain (Char.ofNat n) = true → isBlank (Char.ofNat n) = false ∧
      (Char.ofNat n).toLower = Char.ofNat n ∧ Char.ofNat n ≠ 'f' := by
    decide +kernel
  have := all c.toNat (toNat_lt_of_isPlain h)
  rw [Char.ofNat_toNat] at this
  exact this h

/-! ## Plain words -/

/-- A word of plain characters. -/
structure Plain (word : List Char) : Prop where
  ne_nil : word ≠ []
  isPlain : ∀ c ∈ word, isPlain c = true

instance (word : List Char) : Decidable (Plain word) :=
  decidable_of_iff (word ≠ [] ∧ word.all Text.isPlain = true)
    ⟨fun h => ⟨h.1, List.all_eq_true.1 h.2⟩, fun h => ⟨h.ne_nil, List.all_eq_true.2 h.isPlain⟩⟩

theorem Plain.append {word rest : List Char} (h : Plain word)
    (hr : ∀ c ∈ rest, Text.isPlain c = true) : Plain (word ++ rest) where
  ne_nil := List.append_ne_nil_of_left_ne_nil h.ne_nil _
  isPlain c hc := (List.mem_append.1 hc).elim (h.isPlain c) (hr c)

theorem words_of_noBlank {word : List Char} (hne : word ≠ [])
    (h : ∀ c ∈ word, isBlank c = false) : words word = [word] := by
  induction word with
  | nil => contradiction
  | cons c rest ih =>
    have hc := h c List.mem_cons_self
    cases rest with
    | nil => exact words_cons_of_endsWord hc rfl
    | cons d rest =>
      have hd := h d (List.mem_cons_of_mem _ List.mem_cons_self)
      rw [words_cons_of_not_endsWord hc (show endsWord (d :: rest) = false from hd),
        ih (List.cons_ne_nil _ _) fun e he => h e (List.mem_cons_of_mem _ he)]
      rfl

theorem Plain.words {word : List Char} (h : Plain word) : words word = [word] :=
  words_of_noBlank h.ne_nil fun c hc => (of_isPlain (h.isPlain c hc)).1

theorem Plain.lower {word : List Char} (h : Plain word) : lower word = word := by
  have same : word.map Char.toLower = word.map id :=
    List.map_congr_left fun c hc => (of_isPlain (h.isPlain c hc)).2.1
  rw [lower_of_ascii fun c hc => toNat_lt_of_isPlain (h.isPlain c hc), same, List.map_id]

theorem Plain.toLower_ne {word : List Char} (h : Plain word) : ∀ c ∈ word, c.toLower ≠ 'f' := by
  intro c hc
  obtain ⟨-, lower, ne⟩ := of_isPlain (h.isPlain c hc)
  rwa [lower]

end Text

/-! ## Texts without a title clause -/

namespace Clause

theorem startingAt?_cons {c : Char} (h : c.toLower ≠ 'f') (rest : List Char) :
    startingAt? (c :: rest) = none := by
  unfold startingAt?
  split
  · next f o r rest hcs =>
    obtain ⟨rfl, -⟩ := List.cons.inj hcs
    rw [if_neg]
    simp [isKeyword, h]
  · rfl

theorem find?_append {a : List Char} (h : ∀ c ∈ a, c.toLower ≠ 'f') (b : List Char) :
    find? (a ++ b) = (find? b).map fun clause => { clause with before := a ++ clause.before } := by
  refine find?_append_of_forall fun place hne suffix => ?_
  obtain ⟨c, rest, rfl⟩ := List.exists_cons_of_ne_nil hne
  rw [List.cons_append]
  exact startingAt?_cons (h c (suffix.subset List.mem_cons_self)) _

end Clause

/-- **A text without `f` stays as it is.** -/
theorem extractTitle_append {a : List Char} (h : ∀ c ∈ a, c.toLower ≠ 'f') (b : List Char) :
    extractTitle (a ++ b) = ((extractTitle b).1, a ++ (extractTitle b).2) := by
  rw [extractTitle, Clause.find?_append h, extractTitle]
  cases Clause.find? b with
  | none => rfl
  | some clause => simp [Clause.remainder, Clause.title?]

theorem extractTitle_space (cs : List Char) :
    extractTitle (' ' :: cs) = ((extractTitle cs).1, ' ' :: (extractTitle cs).2) := by
  have space : ∀ c ∈ [' '], c.toLower ≠ 'f' := by
    intro c hc
    rw [List.mem_singleton.1 hc]
    decide
  exact extractTitle_append space cs

theorem extractTitle_of_noTitle {cs : List Char} (h : ∀ c ∈ cs, c.toLower ≠ 'f') :
    extractTitle cs = (none, cs) := by
  have := extractTitle_append h []
  rwa [List.append_nil, show extractTitle [] = (none, []) from rfl, List.append_nil] at this

end ChatDice
