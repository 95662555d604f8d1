import ChatDice.Proofs.Play.Course

/-!
# Requests one after the other

What is left of a request for those that come after it in a session is the place of the source, and
the draws that an answer shows are the next results of the source from that place on.

**Theorem (`playAll_at`).** Whatever came before, a request is answered like the first request of a
new session with the same limit whose source is where the earlier requests left it. If the answer is
an outcome, its draws, read trial by trial, expression by expression and draw by draw, are the next
results of that source, each rolled with the die of its own expression, and the replay goes on where
the first trial stopped.

The count is set back with each request and the limit never changes, so that the session a request
finds differs from a new one in nothing. That the draws are in order is shown for one trial and
carried over the replay.
-/

namespace ChatDice

variable {σ : Type} [Roller σ]

/-! ## Draws taken from a source -/

/-- The dice that the draws of a throw are rolled with, one by one. -/
def Throw.dice (t : Throw) : List Die := t.draws.map fun _ => t.spec.die

namespace Trial

/-- The draws of the trial are the next results of the source `s`, each rolled with the die of its
own expression, and leave the source at `t`. A draw from the cursed die is the face that the result
of a common die picks. -/
def TakenFrom (s t : σ) : Trial → Prop
  | cursed value => ∃ result, Roller.roll Die.d6 s = (result, t) ∧ value = cursedFace result
  | dice throws =>
    Roller.rollAll (throws.flatMap Throw.dice) s = (throws.flatMap Throw.draws, t)

/-- The trials are taken from the source one after the other, each where the one before it stopped.
-/
def AllTakenFrom (s t : σ) : List Trial → Prop
  | [] => s = t
  | trial :: rest => ∃ u, trial.TakenFrom s u ∧ AllTakenFrom u t rest

/-- The trial is of the kind that the request asks for: a draw from the cursed die, or a throw for
each of its dice expressions, in order and with as many draws as the expression says. -/
def Fits (r : Request) : Trial → Prop
  | cursed _ => r.cursed = true
  | dice throws => r.cursed = false ∧ throws.map Throw.spec = r.dice ∧
      ∀ t ∈ throws, t.draws.length = t.spec.count.toNat

end Trial

namespace Spec

theorem map_spec_throws (specs : List Spec) (s : σ) : (throws specs s).map Throw.spec = specs := by
  induction specs generalizing s with
  | nil => rfl
  | cons spec rest ih => rw [throws, List.map_cons, ih]

theorem length_draws_of_mem_throws {specs : List Spec} {s : σ} {t : Throw}
    (h : t ∈ throws specs s) : t.draws.length = t.spec.count.toNat := by
  induction specs generalizing s with
  | nil => cases h
  | cons spec rest ih =>
    rcases List.mem_cons.1 h with rfl | h
    · rw [Roller.length_rollAll, length_row]
    · exact ih h

theorem flatMap_draws_throws (specs : List Spec) (s : σ) :
    (throws specs s).flatMap Throw.draws = (Roller.rollAll (specs.map row).flatten s).1 := by
  induction specs generalizing s with
  | nil => rfl
  | cons spec rest ih =>
    rw [throws, List.flatMap_cons, ih, List.map_cons, List.flatten_cons, Roller.rollAll_append]

theorem flatMap_dice_throws (specs : List Spec) (s : σ) :
    (throws specs s).flatMap Throw.dice = (specs.map row).flatten := by
  induction specs generalizing s with
  | nil => rfl
  | cons spec rest ih =>
    rw [throws, List.flatMap_cons, ih, List.map_cons, List.flatten_cons, Throw.dice,
      List.map_const', Roller.length_rollAll, length_row]
    rfl

end Spec

/-! ## The draws of an outcome -/

namespace Request

theorem takenFrom_trialFrom (r : Request) (s : σ) :
    (r.trialFrom s).TakenFrom s (Roller.rollAll r.rows.flatten s).2 := by
  unfold trialFrom rows
  by_cases hc : r.cursed = true
  · rw [if_pos hc, if_pos hc]
    exact ⟨_, rfl, rfl⟩
  · rw [if_neg hc, if_neg hc]
    show Roller.rollAll _ s = _
    rw [Spec.flatMap_dice_throws, Spec.flatMap_draws_throws]

theorem fits_trialFrom (r : Request) (s : σ) : (r.trialFrom s).Fits r := by
  unfold trialFrom
  by_cases hc : r.cursed = true
  · rw [if_pos hc]
    exact hc
  · rw [if_neg hc]
    exact ⟨by simpa using hc, Spec.map_spec_throws _ s,
      fun t ht => Spec.length_draws_of_mem_throws ht⟩

/-- **An outcome shows the next results of the source.** -/
theorem takenFrom_outcomeFrom (r : Request) (s : σ) :
    Trial.AllTakenFrom s (Roller.rollAll r.course.flatten s).2 (r.outcomeFrom s).trials := by
  refine ⟨_, r.takenFrom_trialFrom s, ?_⟩
  show Trial.AllTakenFrom _ _ (r.laterFrom _)
  rw [course, List.flatten_append, Roller.rollAll_append, laterFrom]
  by_cases hr : r.mode.replays = true
  · rw [if_pos hr, if_pos hr]
    exact ⟨_, r.takenFrom_trialFrom _, rfl⟩
  · rw [if_neg hr, if_neg hr]
    rfl

/-- Every trial of an outcome is the one that the request takes from the source at some place. -/
theorem exists_trialFrom {r : Request} {s : σ} {t : Trial} (h : t ∈ (r.outcomeFrom s).trials) :
    ∃ dice, t = r.trialFrom (Roller.rollAll dice s).2 := by
  rcases List.mem_cons.1 h with rfl | later
  · exact ⟨[], rfl⟩
  · change t ∈ r.laterFrom _ at later
    rw [laterFrom] at later
    split at later
    · exact ⟨r.rows.flatten, List.mem_singleton.1 later⟩
    · cases later

theorem fits_outcomeFrom (r : Request) (s : σ) : ∀ t ∈ (r.outcomeFrom s).trials, t.Fits r := by
  intro t ht
  obtain ⟨dice, rfl⟩ := exists_trialFrom ht
  exact r.fits_trialFrom _

end Request

/-! ## Whole sessions -/

namespace Session

/-- An outcome is the one that the request takes from the source, and all its dice are rolled. -/
theorem outcome_of_play {s : Session σ} {r : Request} {o : Outcome}
    (h : (s.play r).value.1 = .ok (.rolled o)) :
    o = r.outcomeFrom s.source ∧
      (s.play r).value.2.source = (Roller.rollAll r.course.flatten s.source).2 := by
  have ends := s.ends_play r
  generalize (s.play r).value = p at h ends
  cases ends with
  | objected | manual | refused => cases h
  | rolled _ _ ha =>
    cases h
    exact ⟨rfl, source_advance (s := s.restarted) ha⟩

/-- Plays requests one after the other and gives their answers. -/
def playAll (s : Session σ) : List Request → Logged (List (Except Refusal Answer) × Session σ)
  | [] => return ([], s)
  | r :: rest => do
    let (answer, s) ← s.play r
    let (answers, s) ← s.playAll rest
    return (answer :: answers, s)

/-- The answers to requests that are played one after the other. -/
def answers (s : Session σ) (rs : List Request) : List (Except Refusal Answer) :=
  (s.playAll rs).value.1

/-- The session after requests that are played one after the other. -/
def after (s : Session σ) (rs : List Request) : Session σ := (s.playAll rs).value.2

theorem answers_cons (s : Session σ) (r : Request) (rest : List Request) :
    s.answers (r :: rest) = (s.play r).value.1 :: (s.play r).value.2.answers rest := by
  simp only [answers, playAll, Logged.value_bind, Logged.value_pure]

theorem after_cons (s : Session σ) (r : Request) (rest : List Request) :
    s.after (r :: rest) = (s.play r).value.2.after rest := by
  simp only [after, playAll, Logged.value_bind, Logged.value_pure]

theorem after_append (s : Session σ) (a b : List Request) :
    s.after (a ++ b) = (s.after a).after b := by
  induction a generalizing s with
  | nil => rfl
  | cons r a ih => rw [List.cons_append, after_cons, after_cons, ih]

theorem length_answers (s : Session σ) (rs : List Request) :
    (s.answers rs).length = rs.length := by
  induction rs generalizing s with
  | nil => rfl
  | cons r rest ih => rw [answers_cons, List.length_cons, List.length_cons, ih]

theorem answers_append (s : Session σ) (a b : List Request) :
    s.answers (a ++ b) = s.answers a ++ (s.after a).answers b := by
  induction a generalizing s with
  | nil => rfl
  | cons r a ih => rw [List.cons_append, answers_cons, answers_cons, after_cons, ih]; rfl

theorem maxRolls_after (s : Session σ) (rs : List Request) :
    (s.after rs).maxRolls = s.maxRolls := by
  induction rs generalizing s with
  | nil => rfl
  | cons r rest ih => rw [after_cons, ih, maxRolls_play]

/-- A session plays a request like a new one with its limit and its source. -/
theorem play_start (s : Session σ) (r : Request) : (start s.maxRolls s.source).play r = s.play r :=
  rfl

/-- **Requests leave nothing but the place of the source.** -/
theorem playAll_at (s : Session σ) (earlier later : List Request) (r : Request) :
    (s.answers (earlier ++ r :: later)).length = earlier.length + (later.length + 1) ∧
    (s.answers (earlier ++ r :: later))[earlier.length]? =
      some ((start s.maxRolls (s.after earlier).source).play r).value.1 ∧
    (s.after (earlier ++ [r])).source =
      ((start s.maxRolls (s.after earlier).source).play r).value.2.source ∧
    ∀ o, (s.answers (earlier ++ r :: later))[earlier.length]? = some (.ok (.rolled o)) →
      Trial.AllTakenFrom (s.after earlier).source (s.after (earlier ++ [r])).source o.trials ∧
        ∀ t ∈ o.trials, t.Fits r := by
  have answer : (s.answers (earlier ++ r :: later))[earlier.length]? =
      some ((s.after earlier).play r).value.1 := by
    rw [answers_append, List.getElem?_append_right (Nat.le_of_eq (s.length_answers earlier)),
      length_answers, Nat.sub_self, answers_cons]
    rfl
  have source : (s.after (earlier ++ [r])).source =
      ((s.after earlier).play r).value.2.source := by
    rw [after_append, after_cons]
    rfl
  rw [← maxRolls_after s earlier, play_start]
  refine ⟨?_, answer, source, fun o ho => ?_⟩
  · rw [length_answers, List.length_append, List.length_cons]
  · rw [answer, Option.some.injEq] at ho
    obtain ⟨rfl, rolled⟩ := outcome_of_play ho
    rw [source, rolled]
    exact ⟨r.takenFrom_outcomeFrom _, r.fits_outcomeFrom _⟩

/-- `2d6 9d6` is refused under a limit of five after two dice were rolled; the two trials of
`d6 adv` show the third result and the fourth. -/
theorem playAll_at_after_refusal :
    Trial.AllTakenFrom ({ passed := 2, step := 1 } : Steps) { passed := 4, step := 1 }
      [.dice [⟨⟨1, .d6, none⟩, [3]⟩], .dice [⟨⟨1, .d6, none⟩, [4]⟩]] :=
  ((playAll_at (start (some 5) (Steps.startingAt 1 1))
      [{ dice := [⟨2, .d6, none⟩, ⟨9, .d6, none⟩] }] []
      { dice := [⟨1, .d6, none⟩], advantage := true }).2.2.2
    { title := none, advantage := .advantage, first := .dice [⟨⟨1, .d6, none⟩, [3]⟩],
      later := [.dice [⟨⟨1, .d6, none⟩, [4]⟩]], modifier := none } rfl).1

end Session

end ChatDice
