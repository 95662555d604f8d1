import ChatDice.Proofs.Dice.Sides
import ChatDice.Proofs.Play.Count

/-!
# The shape of an outcome

What totals, transcripts and the log rely on in an outcome: how many trials it has and of which
kind, and which throws and draws they consist of.

**Theorem (`shaped_of_play`).** Every outcome has the shape that its request asks for, its draws are
sides of their dice if the source gives nothing else, and the count of the session is the number of
its draws.

An outcome is what the request takes from the source, and each of its trials is taken at some place
of the source (`Request.exists_trialFrom`). So each part of the shape is shown for a trial that is
taken from any source.
-/

namespace ChatDice

variable {σ : Type} [Roller σ]

/-! ## Shapes -/

/-- Every draw of a throw is a side of its die, and the sum of the draws lies accordingly. -/
def Trial.OnDie : Trial → Prop
  | cursed _ => True
  | dice throws => ∀ t ∈ throws, (∀ value ∈ t.draws, t.spec.die.Shows value) ∧
      (t.spec.count.toNat : Int) ≤ t.sum.toInt ∧
      t.sum.toInt ≤
        min ((t.spec.count.toNat * t.spec.die.sides.toNat : Nat) : Int) Int64.maxValue.toInt

/-- The outcome is of the shape that the request asks for. -/
structure Outcome.Shaped (o : Outcome) (r : Request) : Prop where
  trials : o.trials.length = if r.advantage != r.disadvantage then 2 else 1
  advantage : o.advantage = .advantage ↔ r.advantage = true ∧ r.disadvantage = false
  disadvantage : o.advantage = .disadvantage ↔ r.advantage = false ∧ r.disadvantage = true
  fits : ∀ t ∈ o.trials, t.Fits r
  faces : ∀ value, .cursed value ∈ o.trials → value ∈ cursedFaces
  title : o.title = r.title
  modifier : r.modifier = o.modifier.map .value

/-! ## Trials taken from a source -/

theorem Spec.shows_of_mem_throws {specs : List Spec} {s : σ} (h : Roller.OnDie s) {t : Throw}
    (ht : t ∈ throws specs s) : ∀ value ∈ t.draws, t.spec.die.Shows value := by
  induction specs generalizing s with
  | nil => cases ht
  | cons spec rest ih =>
    rcases List.mem_cons.1 ht with rfl | ht
    · intro value hv
      obtain ⟨die, hd, shows⟩ := h.exists_shows spec.row value hv
      rwa [List.eq_of_mem_replicate hd] at shows
    · exact ih (h.rollAll spec.row) ht

namespace Request

theorem onDie_trialFrom (r : Request) {s : σ} (h : Roller.OnDie s) : (r.trialFrom s).OnDie := by
  unfold trialFrom
  by_cases hc : r.cursed = true
  · rw [if_pos hc]
    trivial
  · rw [if_neg hc]
    intro t ht
    have shows := Spec.shows_of_mem_throws h ht
    exact ⟨shows, t.sum_bounds (Spec.length_draws_of_mem_throws ht) shows⟩

theorem mem_cursedFaces_of_trialFrom {r : Request} {s : σ} {value : UInt32}
    (h : .cursed value = r.trialFrom s) : value ∈ cursedFaces := by
  unfold trialFrom at h
  split at h
  · cases h
    exact cursedFace_mem _
  · cases h

theorem length_draws_trialFrom (r : Request) (s : σ) :
    (r.trialFrom s).draws.length = r.rows.flatten.length := by
  unfold trialFrom rows
  by_cases hc : r.cursed = true
  · rw [if_pos hc, if_pos hc]
    rfl
  · rw [if_neg hc, if_neg hc]
    show ((Spec.throws r.dice s).flatMap Throw.draws).length = _
    rw [Spec.flatMap_draws_throws, Roller.length_rollAll]

theorem drawCount_outcomeFrom (r : Request) (s : σ) :
    (r.outcomeFrom s).drawCount = r.course.flatten.length := by
  have draws : (r.outcomeFrom s).draws = (r.trialFrom s).draws ++
      (r.laterFrom (Roller.rollAll r.rows.flatten s).2).flatMap Trial.draws := rfl
  rw [Outcome.drawCount, draws, List.length_append, length_draws_trialFrom, course,
    List.flatten_append, List.length_append, laterFrom]
  by_cases hr : r.mode.replays = true
  · rw [if_pos hr, if_pos hr, List.flatMap_singleton, length_draws_trialFrom]
  · rw [if_neg hr, if_neg hr]
    rfl

theorem modifier_eq_map {r : Request} (h : r.objection? = none) :
    r.modifier = r.modifierValue?.map .value := by
  unfold modifierValue?
  cases hm : r.modifier with
  | none => rfl
  | some m =>
    cases m with
    | value n => rfl
    | malformed word =>
      rw [objection?, hm] at h
      split at h
      · cases h
      · split at h <;> cases h

theorem shaped_outcomeFrom {r : Request} (valid : r.objection? = none) (s : σ) :
    (r.outcomeFrom s).Shaped r where
  trials := by
    show (r.laterFrom _).length + 1 = _
    rw [laterFrom, mode, Advantage.replays_ofFlags]
    split <;> rfl
  advantage := by
    show Advantage.ofFlags r.advantage r.disadvantage = _ ↔ _
    cases r.advantage <;> cases r.disadvantage <;> decide
  disadvantage := by
    show Advantage.ofFlags r.advantage r.disadvantage = _ ↔ _
    cases r.advantage <;> cases r.disadvantage <;> decide
  fits := r.fits_outcomeFrom s
  faces value hv := by
    obtain ⟨dice, hd⟩ := exists_trialFrom hv
    exact mem_cursedFaces_of_trialFrom hd
  title := rfl
  modifier := modifier_eq_map valid

end Request

/-! ## Outcomes of a session -/

namespace Session

/-- **Every outcome has the shape that its request asks for.** -/
theorem shaped_of_play {s : Session σ} {r : Request} {o : Outcome}
    (h : (s.play r).value.1 = .ok (.rolled o)) :
    o.Shaped r ∧ (Roller.OnDie s.source → ∀ t ∈ o.trials, t.OnDie) ∧
      (s.play r).value.2.rolls = min o.drawCount maxCount := by
  have valid := objection?_of_play h
  have ends := s.ends_play r
  generalize (s.play r).value = p at h ends
  cases ends with
  | objected | manual | refused => cases h
  | rolled _ _ ha =>
    cases h
    refine ⟨Request.shaped_outcomeFrom valid s.source, fun onDie t ht => ?_, ?_⟩
    · obtain ⟨dice, rfl⟩ := Request.exists_trialFrom ht
      exact r.onDie_trialFrom (onDie.rollAll dice)
    · have counted : s.restarted.rolls = 0 := rfl
      rw [r.drawCount_outcomeFrom, rolls_advance ha (Nat.zero_le _), counted, Nat.zero_add]

/-- `2d6 d20-1 dis +4` with a counter: two throws and three draws in each trial, and six dice are
counted. -/
theorem shaped_of_play_with_disadvantage :
    let s : Session Steps := start (some 10) (.startingAt 5 1)
    let pair : Spec := ⟨2, .d6, none⟩
    let single : Spec := ⟨1, { sides := 20 }, some (-1)⟩
    let r : Request :=
      { dice := [pair, single], disadvantage := true, modifier := some (.value 4) }
    let o : Outcome :=
      { title := none, advantage := .disadvantage, modifier := some 4,
        first := .dice [⟨pair, [5, 6]⟩, ⟨single, [7]⟩],
        later := [.dice [⟨pair, [2, 3]⟩, ⟨single, [10]⟩]] }
    (s.play r).value.1 = .ok (.rolled o) ∧ Roller.OnDie s.source ∧
      o.Shaped r ∧ (∀ t ∈ o.trials, t.OnDie) ∧ (s.play r).value.2.rolls = 6 := by
  intro s pair single r o
  have played : (s.play r).value.1 = .ok (.rolled o) := by decide +kernel
  obtain ⟨shaped, onDie, rolls⟩ := shaped_of_play played
  have six : min o.drawCount maxCount = 6 := by decide
  exact ⟨played, Steps.onDie _, shaped, onDie (Steps.onDie _), rolls.trans six⟩

end Session

end ChatDice
