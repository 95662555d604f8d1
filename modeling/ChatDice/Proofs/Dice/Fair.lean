import ChatDice.Dice.Cursed
import ChatDice.Proofs.Dice.Sides
import Mathlib.Algebra.BigOperators.Group.Finset.Basic
import Mathlib.Algebra.Order.Floor.Div
import Mathlib.Data.FinEnum
import Mathlib.Data.Stream.Init
import Mathlib.Order.Interval.Finset.Nat

/-!
# Fair dice

A die is rolled with random words of 32 bits. A word that would favour some side is passed over, and
the next one is tried.

**Theorem (`dice_fair`).** Every word that a die accepts gives a side of it, and each side is given
by the same number of words: two to the power of the leading zeros of the number of sides. A roll
with words that zeros follow ends, and uses the words up to the first that is accepted. The cursed
die shows each value with a number of words in proportion to the faces that have it.

The product of a word with the number of sides has the side in its upper half and is accepted by its
lower half. So the words for a side are those whose product lies in an interval that starts at a
multiple of 2³² and is as long as the number of sides, moved up until its highest bit is at the top
(`mem_wordsFor_iff`). Products are as far apart as there are sides. So wherever the interval starts,
two to the power of the bits by which the number was moved lie in it (`mul_between_iff`).
-/

namespace ChatDice

/-! ## Accepted words -/

/-- Moved up by its leading zeros, a number has its highest bit at the top of 32 bits. -/
theorem shifted_bounds {n : UInt32} (h : 0 < n) :
    2 ^ 31 ≤ n.toNat * 2 ^ leadingZeros n ∧ n.toNat * 2 ^ leadingZeros n < 2 ^ 32 := by
  have some : n.toNat ≠ 0 := Nat.ne_of_gt (UInt32.lt_iff_toNat_lt.1 h)
  have small : n.toNat.log2 < 32 := (Nat.log2_lt some).2 n.toNat_lt
  have low : 2 ^ n.toNat.log2 ≤ n.toNat := Nat.log2_self_le some
  have high : n.toNat < 2 ^ (n.toNat.log2 + 1) := Nat.lt_log2_self
  have top : 2 ^ n.toNat.log2 * 2 ^ leadingZeros n = 2 ^ 31 := by
    rw [← Nat.pow_add, leadingZeros]
    congr 1
    omega
  constructor
  · calc 2 ^ 31 = 2 ^ n.toNat.log2 * 2 ^ leadingZeros n := top.symm
      _ ≤ n.toNat * 2 ^ leadingZeros n := Nat.mul_le_mul_right _ low
  · calc n.toNat * 2 ^ leadingZeros n
      _ < 2 ^ (n.toNat.log2 + 1) * 2 ^ leadingZeros n :=
        Nat.mul_lt_mul_of_pos_right high (Nat.two_pow_pos _)
      _ = 2 ^ 31 * 2 := by rw [Nat.pow_succ, Nat.mul_right_comm, top]

theorem leadingZeros_eq_clz {n : UInt32} (h : 0 < n) :
    leadingZeros n = n.toBitVec.clz.toNat := by
  have some : n.toNat ≠ 0 := Nat.ne_of_gt (UInt32.lt_iff_toNat_lt.1 h)
  have word : n.toBitVec ≠ 0#32 := by
    intro zero
    exact some (congrArg BitVec.toNat zero)
  have low := BitVec.two_pow_sub_clz_le_toNat_of_ne_zero (by decide) word
  have high := BitVec.toNat_lt_two_pow_sub_clz (x := n.toBitVec)
  have few : n.toBitVec.clz.toNat < 32 := BitVec.clz_lt_iff_ne_zero.2 word
  have highest : n.toNat.log2 = 31 - n.toBitVec.clz.toNat := by
    rw [Nat.log2_eq_iff some]
    refine ⟨low, ?_⟩
    rwa [show 31 - n.toBitVec.clz.toNat + 1 = 32 - n.toBitVec.clz.toNat by omega]
  rw [leadingZeros]
  omega

theorem accepts_iff {n : UInt32} (h : 0 < n) (v : UInt32) :
    accepts n v = true ↔ v.toNat * n.toNat % 2 ^ 32 < n.toNat * 2 ^ leadingZeros n := by
  have low := (shifted_bounds h).1
  rw [accepts, decide_eq_true_eq, zone, Nat.shiftLeft_eq]
  show _ % 2 ^ 32 ≤ _ ↔ _
  omega

/-- A word is accepted by its product and a bound of 32 bits each: neither the shift nor the
subtraction leaves their range. -/
theorem accepts_iff_mul_le {n : UInt32} (h : 0 < n) (v : UInt32) :
    accepts n v = true ↔ v * n ≤ (n <<< UInt32.ofNat (leadingZeros n)) - 1 := by
  obtain ⟨low, high⟩ := shifted_bounds h
  have few : leadingZeros n < 32 := by
    rw [leadingZeros]
    omega
  have shift : (n <<< UInt32.ofNat (leadingZeros n)).toNat = n.toNat * 2 ^ leadingZeros n := by
    rw [UInt32.toNat_shiftLeft, UInt32.toNat_ofNat_of_lt' (Nat.lt_trans few (by decide)),
      Nat.mod_eq_of_lt few, Nat.shiftLeft_eq, Nat.mod_eq_of_lt high]
  have one : 1 ≤ n <<< UInt32.ofNat (leadingZeros n) := by
    rw [UInt32.le_iff_toNat_le, shift]
    exact Nat.le_trans (by decide) low
  rw [UInt32.le_iff_toNat_le, UInt32.toNat_sub_of_le _ _ one, UInt32.toNat_mul, shift, accepts,
    decide_eq_true_eq, zone, Nat.shiftLeft_eq]
  rfl

/-! ## Words for a side -/

/-- The accepted words that give the value. -/
def Die.wordsFor (die : Die) (value : UInt32) : Finset UInt32 :=
  Finset.univ.filter fun v => accepts die.sides v = true ∧ face die.sides v = value

theorem mem_wordsFor_iff {die : Die} {value : UInt32} (h : die.Shows value) (v : UInt32) :
    v ∈ die.wordsFor value ↔
      (value.toNat - 1) * 2 ^ 32 ≤ die.sides.toNat * v.toNat ∧
        die.sides.toNat * v.toNat <
          (value.toNat - 1) * 2 ^ 32 + die.sides.toNat * 2 ^ leadingZeros die.sides := by
  have side : face die.sides v = value ↔ v.toNat * die.sides.toNat / 2 ^ 32 = value.toNat - 1 := by
    rw [← UInt32.toNat_inj, toNat_face die.sides_pos]
    have first := h.1
    show 1 + _ / 2 ^ 32 = _ ↔ _
    omega
  have top := (shifted_bounds die.sides_pos).2
  rw [Die.wordsFor, Finset.mem_filter, accepts_iff die.sides_pos, side,
    Nat.mul_comm die.sides.toNat v.toNat]
  simp only [Finset.mem_univ, true_and]
  omega

/-- In an interval as long as `w` steps of `n` there are `w` multiples of `n`, wherever it starts.
-/
theorem mul_between_iff {n : Nat} (h : 0 < n) (start w v : Nat) :
    start ≤ n * v ∧ n * v < start + n * w ↔ v ∈ Finset.Ico (start ⌈/⌉ n) (start ⌈/⌉ n + w) := by
  have stop : (start + n * w) ⌈/⌉ n = start ⌈/⌉ n + w := by
    rw [Nat.ceilDiv_eq_add_pred_div, Nat.ceilDiv_eq_add_pred_div, ← Nat.add_mul_div_left _ _ h]
    congr 1
    omega
  rw [Finset.mem_Ico, ceilDiv_le_iff_le_mul h, ← stop, ← Nat.not_le, ← Nat.not_le,
    ceilDiv_le_iff_le_mul h]

/-- The words for a side follow one another. -/
theorem image_wordsFor {die : Die} {value : UInt32} (h : die.Shows value) :
    (die.wordsFor value).image UInt32.toNat =
      Finset.Ico (((value.toNat - 1) * 2 ^ 32) ⌈/⌉ die.sides.toNat)
        (((value.toNat - 1) * 2 ^ 32) ⌈/⌉ die.sides.toNat + 2 ^ leadingZeros die.sides) := by
  have some : 0 < die.sides.toNat := UInt32.lt_iff_toNat_lt.1 die.sides_pos
  have top := (shifted_bounds die.sides_pos).2
  ext k
  rw [Finset.mem_image, ← mul_between_iff some]
  constructor
  · rintro ⟨v, hv, rfl⟩
    exact (mem_wordsFor_iff h v).1 hv
  · intro product
    -- The interval ends before the product of all words would.
    have small : k < 2 ^ 32 := by
      apply Nat.lt_of_mul_lt_mul_left (a := die.sides.toNat)
      calc die.sides.toNat * k
        _ < (value.toNat - 1 + 1) * 2 ^ 32 := by omega
        _ = value.toNat * 2 ^ 32 := by rw [Nat.sub_add_cancel h.1]
        _ ≤ die.sides.toNat * 2 ^ 32 := Nat.mul_le_mul_right _ h.2
    have word : (UInt32.ofNat k).toNat = k := UInt32.toNat_ofNat_of_lt' small
    refine ⟨UInt32.ofNat k, ?_, word⟩
    rw [mem_wordsFor_iff h, word]
    exact product

/-- **Each side of a die is given by the same number of words.** -/
theorem card_wordsFor {die : Die} {value : UInt32} (h : die.Shows value) :
    (die.wordsFor value).card = 2 ^ leadingZeros die.sides := by
  have injective : Function.Injective UInt32.toNat := fun _ _ => UInt32.toNat_inj.1
  rw [← Finset.card_image_of_injective _ injective, image_wordsFor h, Nat.card_Ico,
    Nat.add_sub_cancel_left]

/-- Whatever is made of the side, as many words lead to a result as there are sides that do, times
the words for one side. -/
theorem card_filter_face (die : Die) (p : UInt32 → Prop) [DecidablePred p] :
    (Finset.univ.filter fun v => accepts die.sides v = true ∧ p (face die.sides v)).card =
      (Finset.univ.filter fun side => die.Shows side ∧ p side).card *
        2 ^ leadingZeros die.sides := by
  rw [Finset.card_eq_sum_card_fiberwise (f := face die.sides)
    (t := Finset.univ.filter fun side => die.Shows side ∧ p side)]
  · apply Finset.sum_const_nat
    intro side hside
    obtain ⟨shows, hp⟩ := (Finset.mem_filter.1 hside).2
    have words : (Finset.univ.filter fun v =>
        accepts die.sides v = true ∧ p (face die.sides v)).filter (face die.sides · = side) =
          die.wordsFor side := by
      ext v
      simp only [Die.wordsFor, Finset.mem_filter, Finset.mem_univ, true_and]
      constructor
      · intro h
        exact ⟨h.1.1, h.2⟩
      · intro h
        exact ⟨⟨h.1, h.2 ▸ hp⟩, h.2⟩
    rw [words, card_wordsFor shows]
  · intro v hv
    obtain ⟨-, hp⟩ := (Finset.mem_filter.1 hv).2
    refine Finset.mem_filter.2 ⟨Finset.mem_univ _, ⟨?_, ?_⟩, hp⟩
    · exact face_pos die.sides_pos v
    · exact face_le die.sides_pos v

/-! ## Words for a cursed face -/

/-- The accepted words with which the cursed die shows the value. -/
def cursedWordsFor (value : UInt32) : Finset UInt32 :=
  Finset.univ.filter fun v =>
    accepts Die.d6.sides v = true ∧ (rollCursed (RandomWords.mk [v])).1 = value

theorem roll_of_accepts {die : Die} {v : UInt32} (h : accepts die.sides v = true)
    (rest : List UInt32) :
    Roller.roll die (RandomWords.mk (v :: rest)) = (face die.sides v, ⟨rest⟩) := by
  show ((firstFace die.sides (v :: rest)).1, RandomWords.mk (firstFace die.sides (v :: rest)).2) = _
  rw [firstFace, if_pos h]

/-- The sides of the common die pick the faces of the cursed one in order. -/
theorem card_filter_cursedFace (value : UInt32) :
    (Finset.univ.filter fun side => Die.d6.Shows side ∧ cursedFace side = value).card =
      cursedFaces.count value := by
  have sides : (Finset.univ.filter fun side => Die.d6.Shows side ∧ cursedFace side = value) =
      (([1, 2, 3, 4, 5, 6] : List UInt32).filter (cursedFace · == value)).toFinset := by
    ext side
    have six : Die.d6.sides.toNat = 6 := rfl
    simp [Die.Shows, six, ← UInt32.toNat_inj]
    omega
  have faces : cursedFaces = ([1, 2, 3, 4, 5, 6] : List UInt32).map cursedFace := by decide
  rw [sides, List.toFinset_card_of_nodup (List.Nodup.filter _ (by decide)), faces, List.count,
    List.countP_map, List.countP_eq_length_filter]
  rfl

theorem card_cursedWordsFor (value : UInt32) :
    (cursedWordsFor value).card = cursedFaces.count value * 2 ^ leadingZeros Die.d6.sides := by
  have words : cursedWordsFor value = Finset.univ.filter fun v =>
      accepts Die.d6.sides v = true ∧ cursedFace (face Die.d6.sides v) = value := by
    apply Finset.filter_congr
    intro v _
    apply and_congr_right
    intro accepted
    rw [rollCursed, roll_of_accepts accepted]
  rw [words, card_filter_face Die.d6 (cursedFace · = value), card_filter_cursedFace]

/-! ## Rolls -/

/-- The random words of a source one after the other, and the zeros that follow them. -/
def RandomWords.stream (s : RandomWords) : Stream' UInt32 := s.words ++ₛ Stream'.const 0

/-- A die is rolled with words without end: words are passed over up to one that is accepted. The
roll ends with so many words used and gives the value. -/
inductive Drawn (die : Die) : Stream' UInt32 → Nat → UInt32 → Prop
  | accepted {words : Stream' UInt32} : accepts die.sides words.head = true →
    Drawn die words 1 (face die.sides words.head)
  | passed {words : Stream' UInt32} {used : Nat} {value : UInt32} :
    accepts die.sides words.head = false → Drawn die words.tail used value →
    Drawn die words (used + 1) value

/-- The word at a place is the first that the die accepts. -/
structure IsFirstAccepted (die : Die) (words : Stream' UInt32) (k : Nat) : Prop where
  accepted : accepts die.sides (words.get k) = true
  passed : ∀ i < k, accepts die.sides (words.get i) = false

/-- **A roll that ends uses the words up to the first that is accepted.** -/
theorem drawn_iff {die : Die} {words : Stream' UInt32} {used : Nat} {value : UInt32} :
    Drawn die words used value ↔
      ∃ k, IsFirstAccepted die words k ∧ used = k + 1 ∧ value = face die.sides (words.get k) := by
  constructor
  · intro h
    induction h with
    | accepted h => exact ⟨0, ⟨h, by simp⟩, rfl, rfl⟩
    | passed h _ ih =>
      obtain ⟨k, first, rfl, rfl⟩ := ih
      refine ⟨k + 1, ⟨first.accepted, ?_⟩, rfl, rfl⟩
      intro i hi
      cases i with
      | zero => exact h
      | succ i => exact first.passed i (Nat.lt_of_succ_lt_succ hi)
  · rintro ⟨k, first, rfl, rfl⟩
    induction k generalizing words with
    | zero => exact .accepted first.accepted
    | succ k ih =>
      apply Drawn.passed (first.passed 0 (Nat.succ_pos k))
      apply ih
      exact ⟨first.accepted, fun i hi => first.passed (i + 1) (Nat.succ_lt_succ hi)⟩

/-- **With zeros behind its words a roll ends.** -/
theorem exists_drawn_firstFace (die : Die) (words : List UInt32) :
    ∃ used, Drawn die (words ++ₛ Stream'.const 0) used (firstFace die.sides words).1 ∧
      (firstFace die.sides words).2 = words.drop used := by
  induction words with
  | nil =>
    have zero : Drawn die (Stream'.const 0) 1 (face die.sides 0) := .accepted (accepts_zero _)
    rw [face_zero] at zero
    exact ⟨1, zero, rfl⟩
  | cons v rest ih =>
    rw [firstFace, Stream'.cons_append_stream]
    by_cases h : accepts die.sides v = true
    · rw [if_pos h]
      exact ⟨1, .accepted h, rfl⟩
    · rw [if_neg h]
      obtain ⟨used, drawn, left⟩ := ih
      exact ⟨used + 1, .passed (by simpa using h) drawn, left⟩

/-- **Dice are fair**, and the cursed die is so between its faces. -/
theorem dice_fair :
    (∀ (die : Die) (v : UInt32), accepts die.sides v = true → die.Shows (face die.sides v)) ∧
    (∀ (die : Die) (value : UInt32), die.Shows value →
      (die.wordsFor value).card = 2 ^ die.sides.toBitVec.clz.toNat) ∧
    (∀ (die : Die) (s : RandomWords), ∃ k, IsFirstAccepted die s.stream k ∧
      Drawn die s.stream (k + 1) (Roller.roll die s).1 ∧
      (Roller.roll die s).1 = face die.sides (s.stream.get k) ∧
      (Roller.roll die s).2.words = s.words.drop (k + 1)) ∧
    ∀ value : UInt32, (cursedWordsFor value).card =
      cursedFaces.count value * 2 ^ Die.d6.sides.toBitVec.clz.toNat := by
  refine ⟨fun die v _ => ?_, fun die value shows => ?_, fun die s => ?_, fun value => ?_⟩
  · exact ⟨face_pos die.sides_pos v, face_le die.sides_pos v⟩
  · rw [card_wordsFor shows, leadingZeros_eq_clz die.sides_pos]
  · obtain ⟨used, drawn, left⟩ := exists_drawn_firstFace die s.words
    obtain ⟨k, first, rfl, value⟩ := drawn_iff.1 drawn
    exact ⟨k, first, drawn, value, left⟩
  · rw [card_cursedWordsFor, leadingZeros_eq_clz Die.d6.sides_pos]

/-- A die of three sides passes a word over: its product with three is one more than the bound. -/
theorem dice_fair_three :
    let die : Die := ⟨3, by decide⟩
    let s : RandomWords := ⟨[0x40000000, 0x80000000, 7]⟩
    accepts die.sides 0x80000000 = true ∧ die.Shows (face die.sides 0x80000000) ∧
      die.Shows 2 ∧ (die.wordsFor 2).card = 2 ^ 30 ∧
      IsFirstAccepted die s.stream 1 ∧ Drawn die s.stream 2 2 ∧
      Roller.roll die s = (2, ⟨[7]⟩) ∧
      (cursedWordsFor 0).card = 2 ^ 29 ∧ (cursedWordsFor 1).card = 3 * 2 ^ 29 := by
  intro die s
  obtain ⟨shows, words, rolls, cursed⟩ := dice_fair
  have accepted : accepts die.sides 0x80000000 = true := by decide
  have two : die.Shows 2 := by decide
  have zeros : die.sides.toBitVec.clz.toNat = 30 := by decide +kernel
  have zeros' : Die.d6.sides.toBitVec.clz.toNat = 29 := by decide +kernel
  obtain ⟨k, first, drawn, value, left⟩ := rolls die s
  have one : k = 1 := by
    rcases k with _ | _ | k
    · exact absurd first.accepted (by decide)
    · rfl
    · exact absurd (first.passed 1 (by omega)) (by decide)
  subst one
  have side : face die.sides (s.stream.get 1) = 2 := by decide
  rw [side] at value
  rw [value] at drawn
  refine ⟨accepted, shows die _ accepted, two, ?_, first, drawn, Prod.ext value ?_, ?_, ?_⟩
  · rw [words die 2 two, zeros]
  · exact congrArg RandomWords.mk left
  · rw [cursed, zeros']
    rfl
  · rw [cursed, zeros']
    rfl

end ChatDice
