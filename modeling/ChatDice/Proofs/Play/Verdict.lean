import ChatDice.Proofs.Play.Budget

/-!
# Verdicts

How a request ends is settled before any die shows its value: by the request and the limit.

**Theorem (`verdict_play`).** Two sessions with the same limit, whatever their sources and whatever
was played in them before, end a request alike: with the first verdict that applies to it. If one of
the verdicts that come before the dice applies, no die is asked for, the source stays where it is
and nothing is counted.

Any of the verdicts may apply to one request, so each is said by itself (`Verdict.Applies`) and the
order in which they are looked for is a rank (`Verdict.rank`). No two verdicts of one rank apply, so
that a request has one first verdict (`Verdict.IsFirst.eq`), and what is left to show is that
playing a request ends with it.
-/

namespace ChatDice

variable {σ τ : Type}

/-! ## Words without their first byte -/

/-- The text is what is left of the word behind its first byte, or empty if the word has no first
byte or its first character goes on after it. -/
def BehindFirstByte (word text : String) : Prop :=
  (∃ first, first.utf8ByteSize = 1 ∧ word = first ++ text) ∨
    text = "" ∧ ¬∃ first rest, first.utf8ByteSize = 1 ∧ word = first ++ rest

theorem exists_singleton_of_utf8ByteSize {first : String} (h : first.utf8ByteSize = 1) :
    ∃ c : Char, c.utf8Size = 1 ∧ first = String.singleton c := by
  rcases hf : first.toList with _ | ⟨c, rest⟩
  · rw [String.toList_eq_nil_iff.1 hf] at h
    cases h
  · have parts : first = String.singleton c ++ String.ofList rest := by
      rw [← String.toList_inj, hf]
      simp
    rw [parts, String.utf8ByteSize_append, String.utf8ByteSize_singleton] at h
    have some := c.utf8Size_pos
    have none : String.ofList rest = "" := String.utf8ByteSize_eq_zero_iff.1 (by omega)
    rw [none, String.append_empty] at parts
    exact ⟨c, by omega, parts⟩

/-- What stands behind the sign of a word is what stands behind its first byte. -/
theorem behindFirstByte_afterSign (word : String) : BehindFirstByte word (afterSign word) := by
  unfold afterSign
  split
  · next hw =>
    refine .inr ⟨rfl, ?_⟩
    rintro ⟨first, rest, one, rfl⟩
    obtain ⟨c, -, rfl⟩ := exists_singleton_of_utf8ByteSize one
    simp at hw
  · next c rest hw =>
    by_cases one : c.utf8Size = 1
    · rw [if_pos one]
      refine .inl ⟨String.singleton c, by rw [String.utf8ByteSize_singleton, one], ?_⟩
      rw [← String.toList_inj, hw]
      simp
    · rw [if_neg one]
      -- A first byte that is a text would be the first character.
      refine .inr ⟨rfl, ?_⟩
      rintro ⟨first, others, single, rfl⟩
      obtain ⟨d, hd, rfl⟩ := exists_singleton_of_utf8ByteSize single
      simp only [String.toList_append, String.toList_singleton, List.singleton_append,
        List.cons.injEq] at hw
      exact one (hw.1 ▸ hd)

theorem BehindFirstByte.eq {word a b : String} (ha : BehindFirstByte word a)
    (hb : BehindFirstByte word b) : a = b := by
  rcases ha with ⟨first, one, rfl⟩ | ⟨rfl, stuck⟩
  · rcases hb with ⟨first', one', same⟩ | ⟨-, stuck⟩
    · obtain ⟨c, -, rfl⟩ := exists_singleton_of_utf8ByteSize one
      obtain ⟨d, -, rfl⟩ := exists_singleton_of_utf8ByteSize one'
      rw [← String.toList_inj] at same
      simp only [String.toList_append, String.toList_singleton, List.singleton_append,
        List.cons.injEq] at same
      exact String.toList_inj.1 same.2
    · exact absurd ⟨first, a, one, rfl⟩ stuck
  · rcases hb with ⟨first, one, rfl⟩ | ⟨rfl, -⟩
    · exact absurd ⟨first, b, one, rfl⟩ stuck
    · rfl

/-! ## Verdicts that apply -/

/-- How a request ends, apart from what the dice show. -/
inductive Verdict
  | refused (why : Refusal)
  | help
  | rolled
deriving DecidableEq

namespace Verdict

/-- The verdict that an answer or a refusal gives. -/
def ofAnswer : Except Refusal Answer → Verdict
  | .error why => refused why
  | .ok .help => help
  | .ok (.rolled _) => rolled

/-- There is reason for the verdict on a request under a limit, whether or not there is for others.
-/
inductive Applies (r : Request) (limit : Option Nat) : Verdict → Prop
  | conflict : r.advantage = true → r.disadvantage = true →
      Applies r limit (refused .conflictingAdvantage)
  | nothing : r.cursed = false → r.dice = [] → Applies r limit (refused .missingRoll)
  | malformed {word text} : r.modifier = some (.malformed word) → BehindFirstByte word text →
      Applies r limit (refused (.invalidModifier text))
  | help : r.help = true → Applies r limit help
  | beyond {m} : limit = some m → m < r.needed → Applies r limit (refused (.tooManyRolls m))
  | rolled : Applies r limit rolled

/-- The place of a verdict in the order in which reasons are looked for. The verdicts before the
fourth place come before the dice. -/
def rank : Verdict → Nat
  | refused .conflictingAdvantage => 0
  | refused .missingRoll => 1
  | refused (.invalidModifier _) => 2
  | help => 3
  | refused (.tooManyRolls _) => 4
  | rolled => 5

/-- The verdict is the first that applies. -/
structure IsFirst (r : Request) (limit : Option Nat) (v : Verdict) : Prop where
  applies : v.Applies r limit
  least : ∀ w : Verdict, w.Applies r limit → v.rank ≤ w.rank

variable {r : Request} {limit : Option Nat} {v w : Verdict}

theorem Applies.eq (hv : v.Applies r limit) (hw : w.Applies r limit) (same : v.rank = w.rank) :
    v = w := by
  -- Equal ranks leave the diagonal. Only two of its verdicts carry something that could differ.
  cases hv with
  | malformed hm text =>
    cases hw with
    | malformed hm' text' =>
      obtain rfl := Modifier.malformed.inj (Option.some.inj (hm.symm.trans hm'))
      rw [text.eq text']
    | _ => cases same
  | beyond hm =>
    cases hw with
    | beyond hm' => rw [Option.some.inj (hm.symm.trans hm')]
    | _ => cases same
  | _ => cases hw <;> first | rfl | cases same

theorem IsFirst.eq (hv : v.IsFirst r limit) (hw : w.IsFirst r limit) : v = w :=
  hv.applies.eq hw.applies (Nat.le_antisymm (hv.least w hw.applies) (hw.least v hv.applies))

/-- Only the manual, the limit and the roll are left for a request without a fault of its own. -/
theorem Applies.three_le_rank (hv : v.Applies r limit) (valid : r.objection? = none) :
    3 ≤ v.rank := by
  unfold Request.objection? at valid
  cases hv with
  | conflict ha hd => simp [ha, hd] at valid
  | nothing hc hd =>
    rw [hc, hd] at valid
    split at valid <;> cases valid
  | malformed hm =>
    rw [hm] at valid
    split at valid
    · cases valid
    · split at valid <;> cases valid
  | help | beyond | rolled => simp [rank]

theorem isFirst_of_objection? {why : Refusal} (h : r.objection? = some why) :
    (refused why).IsFirst r limit := by
  unfold Request.objection? at h
  -- Faults are looked for in the order of their ranks: one that was passed does not apply.
  split at h
  · next both =>
    obtain rfl := Option.some.inj h
    obtain ⟨ha, hd⟩ := Bool.and_eq_true_iff.1 both
    exact ⟨.conflict ha hd, fun w _ => Nat.zero_le _⟩
  · next noConflict =>
    split at h
    · next nothing =>
      obtain rfl := Option.some.inj h
      simp only [Bool.and_eq_true, Bool.not_eq_true', List.isEmpty_iff] at nothing
      refine ⟨.nothing nothing.1 nothing.2, fun w hw => ?_⟩
      cases hw with
      | conflict ha hd => simp [ha, hd] at noConflict
      | _ => exact Nat.le_add_left 1 _
    · next something =>
      split at h
      · next word hm =>
        obtain rfl := Option.some.inj h
        refine ⟨.malformed hm (behindFirstByte_afterSign word), fun w hw => ?_⟩
        cases hw with
        | conflict ha hd => simp [ha, hd] at noConflict
        | nothing hc hd => simp [hc, hd] at something
        | _ => exact Nat.le_add_left 2 _
      · cases h

theorem isFirst_help (valid : r.objection? = none) (hh : r.help = true) : help.IsFirst r limit :=
  ⟨.help hh, fun _ hw => hw.three_le_rank valid⟩

theorem Applies.of_valid (hv : v.Applies r limit) (valid : r.objection? = none)
    (noHelp : r.help = false) :
    v = .rolled ∨ ∃ m, limit = some m ∧ m < r.needed ∧ v = .refused (.tooManyRolls m) := by
  have late := hv.three_le_rank valid
  cases hv with
  | rolled => exact .inl rfl
  | beyond hm more => exact .inr ⟨_, hm, more, rfl⟩
  | help hh =>
    rw [noHelp] at hh
    cases hh
  | _ => simp [rank] at late

theorem isFirst_rolled (valid : r.objection? = none) (noHelp : r.help = false)
    (within : ∀ m ∈ limit, r.needed ≤ m) : rolled.IsFirst r limit := by
  refine ⟨.rolled, fun w hw => ?_⟩
  obtain rfl | ⟨m, hm, more, -⟩ := hw.of_valid valid noHelp
  · exact Nat.le_refl _
  · exact absurd (within m hm) (Nat.not_le.2 more)

theorem isFirst_beyond {m : Nat} (valid : r.objection? = none) (noHelp : r.help = false)
    (hm : limit = some m) (more : m < r.needed) :
    (refused (.tooManyRolls m)).IsFirst r limit := by
  refine ⟨.beyond hm more, fun w hw => ?_⟩
  obtain rfl | ⟨m', -, -, rfl⟩ := hw.of_valid valid noHelp
  · exact Nat.le_succ 4
  · exact Nat.le_refl 4

end Verdict

/-! ## The verdict on a request -/

namespace Session

variable [Roller σ] [Roller τ]

/-- Before the dice a request leaves everything as it finds it. -/
theorem value_play_of_applies {r : Request} {limit : Option Nat} {v : Verdict}
    (hv : v.Applies r limit) (early : v.rank < 4) (s : Session σ) :
    (s.play r).value.2 = s.restarted := by
  rw [value_play]
  cases ho : r.objection? with
  | some why => rfl
  | none =>
    have late := hv.three_le_rank ho
    cases hv with
    | help hh => rw [if_pos hh]
    | _ => simp [Verdict.rank] at early late

/-- **A request ends with the first verdict that applies.** -/
theorem isFirst_play (s : Session σ) (r : Request) (small : ∀ m ∈ s.maxRolls, m < maxCount) :
    (Verdict.ofAnswer (s.play r).value.1).IsFirst r s.maxRolls := by
  cases ho : r.objection? with
  | some why =>
    rw [play_of_objection s ho]
    exact Verdict.isFirst_of_objection? ho
  | none =>
    cases hh : r.help with
    | true =>
      rw [play_of_help s ho hh]
      exact Verdict.isFirst_help ho hh
    | false =>
      by_cases within : ∀ m ∈ s.maxRolls, r.needed ≤ m
      · have rolled : (s.play r).value.1 = .ok (.rolled (r.outcomeFrom s.source)) := by
          cases hm : s.maxRolls with
          | none => exact (play_of_advance ho hh (advance_of_none (s := s.restarted) hm _)).1
          | some m => exact (play_of_le hm ho hh (within m hm)).1
        rw [rolled]
        exact Verdict.isFirst_rolled ho hh within
      · simp only [not_forall, Nat.not_le] at within
        obtain ⟨m, hm, more⟩ := within
        rw [(play_of_lt hm (small m hm) ho hh more).1]
        exact Verdict.isFirst_beyond ho hh hm more

/-- **The verdict is settled without the dice.** -/
theorem verdict_play (s : Session σ) (t : Session τ) (r : Request) (same : s.maxRolls = t.maxRolls)
    (small : ∀ m ∈ s.maxRolls, m < maxCount) :
    Verdict.ofAnswer (s.play r).value.1 = Verdict.ofAnswer (t.play r).value.1 ∧
    (∀ v, Verdict.ofAnswer (s.play r).value.1 = v ↔ v.IsFirst r s.maxRolls) ∧
    ∀ v : Verdict, v.Applies r s.maxRolls → v.rank < 4 →
      s.asked r = [] ∧ (s.play r).value.2.source = s.source ∧ (s.play r).value.2.rolls = 0 := by
  have first := s.isFirst_play r small
  have first' := t.isFirst_play r (same ▸ small)
  rw [← same] at first'
  refine ⟨first.eq first', fun v => ⟨?_, first.eq⟩, fun v hv early => ?_⟩
  · rintro rfl
    exact first
  · rw [asked, value_play_of_applies hv early, value_play_of_applies hv early]
    exact ⟨rfl, rfl, rfl⟩

/-- A modifier that starts with a letter of two bytes is refused, although the manual is asked for
and far more dice than the limit allows. -/
theorem verdict_play_malformed :
    let s : Session Steps := start (some 5) (.startingAt 1 1)
    let t : Session Cycle := start (some 5) ⟨[0]⟩
    let r : Request :=
      { dice := [⟨4000000000, .d6, none⟩], modifier := some (.malformed "éx"), help := true }
    let v : Verdict := .refused (.invalidModifier "")
    s.maxRolls = t.maxRolls ∧ (∀ m ∈ s.maxRolls, m < maxCount) ∧
      Verdict.ofAnswer (s.play r).value.1 = v ∧ Verdict.ofAnswer (t.play r).value.1 = v ∧
      v.IsFirst r s.maxRolls ∧
      s.asked r = [] ∧ (s.play r).value.2.source = s.source ∧ (s.play r).value.2.rolls = 0 := by
  intro s t r v
  have same : s.maxRolls = t.maxRolls := rfl
  have small : ∀ m ∈ s.maxRolls, m < maxCount := by
    rintro _ ⟨⟩
    decide
  have refused : Verdict.ofAnswer (s.play r).value.1 = v := by decide +kernel
  obtain ⟨alike, first, early⟩ := verdict_play s t r same small
  have isFirst : v.IsFirst r s.maxRolls := (first v).1 refused
  exact ⟨same, small, refused, alike ▸ refused, isFirst, early v isFirst.applies (by decide)⟩

end Session

end ChatDice
