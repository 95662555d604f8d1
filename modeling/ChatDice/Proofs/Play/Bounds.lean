import ChatDice.Proofs.Dice.Monotone
import ChatDice.Proofs.Play.Budget
import ChatDice.Proofs.Play.Shape

/-!
# The least and the greatest roll

Two sources that leave nothing to chance: one shows the first side of every die, the other the last.

**Theorem (`total_monotone`).** A total goes up with each draw and each modifier, whatever is
clamped on the way. So if the draws of a roll are sides of their dice, its total lies between those
that the same request has with the two sources.

Whether a request is rolled depends on how many dice it asks for and not on what they show
(`rolled_of_rolled`), so a request that is rolled is rolled with these sources too. Its outcome with
either of them has the shape of any other, and each draw is an end of its die.
-/

namespace ChatDice

/-! ## The ends of dice -/

/-- A source that always shows the first side of a die, or always the last. -/
inductive Extreme
  | lowest
  | highest
deriving DecidableEq

namespace Extreme

/-- The side that is shown. -/
def side : Extreme → Die → UInt32
  | lowest, _ => 1
  | highest, die => die.sides

instance : Roller Extreme where
  roll die e := (e.side die, e)

theorem rollAll_eq (e : Extreme) (dice : List Die) :
    Roller.rollAll dice e = (dice.map e.side, e) := by
  induction dice with
  | nil => rfl
  | cons die dice ih =>
    rw [Roller.rollAll_cons, show Roller.roll die e = (e.side die, e) from rfl, ih]
    rfl

/-- With one of the ends for each draw, throws have the same expressions. -/
theorem throws_eq (e : Extreme) {throws : List Throw}
    (counts : ∀ t ∈ throws, t.draws.length = t.spec.count.toNat) :
    Spec.throws (throws.map Throw.spec) e =
      throws.map fun t => { t with draws := t.draws.map fun _ => e.side t.spec.die } := by
  induction throws with
  | nil => rfl
  | cons t throws ih =>
    have row : t.spec.row.map e.side = t.draws.map fun _ => e.side t.spec.die := by
      rw [Spec.row, List.map_replicate, List.map_const', counts t List.mem_cons_self]
    rw [List.map_cons, Spec.throws, rollAll_eq, row,
      ih fun t ht => counts t (List.mem_cons_of_mem _ ht)]
    rfl

end Extreme

/-! ## Between the ends -/

namespace Throw

variable {t : Throw}

theorem lowest_below (shows : ∀ value ∈ t.draws, t.spec.die.Shows value) :
    Below { t with draws := t.draws.map fun _ => Extreme.lowest.side t.spec.die } t := by
  refine ⟨?_, Int64.le_refl _⟩
  rw [List.forall₂_map_left_iff, List.forall₂_same]
  intro value hv
  exact UInt32.le_iff_toNat_le.2 (shows value hv).1

theorem below_highest (shows : ∀ value ∈ t.draws, t.spec.die.Shows value) :
    Below t { t with draws := t.draws.map fun _ => Extreme.highest.side t.spec.die } := by
  refine ⟨?_, Int64.le_refl _⟩
  rw [List.forall₂_map_right_iff, List.forall₂_same]
  intro value hv
  exact UInt32.le_iff_toNat_le.2 (shows value hv).2

end Throw

/-- Every draw of an outcome is a side of its die. -/
def Outcome.OnDice (o : Outcome) : Prop :=
  ∀ throws : List Throw, .dice throws ∈ o.trials → ∀ t ∈ throws, ∀ value ∈ t.draws,
    t.spec.die.Shows value

namespace Request

variable {σ : Type} [Roller σ] {r : Request}

/-- The cursed die has no face below the one that a one picks and none above the one that a six
picks. -/
theorem cursed_between : ∀ value ∈ cursedFaces,
    (rollCursed Extreme.lowest).1 ≤ value ∧ value ≤ (rollCursed Extreme.highest).1 := by
  rw [cursedFaces]
  simp only [List.forall_mem_cons]
  exact ⟨by decide, by decide, by decide, by decide, by decide, by decide, List.forall_mem_nil _⟩

theorem trial_between {t : Trial} (fits : t.Fits r)
    (faces : ∀ value, .cursed value = t → value ∈ cursedFaces)
    (shows : ∀ throws : List Throw, .dice throws = t → ∀ u ∈ throws, ∀ value ∈ u.draws,
      u.spec.die.Shows value) :
    (r.trialFrom Extreme.lowest).Below t ∧ t.Below (r.trialFrom Extreme.highest) := by
  unfold trialFrom
  cases t with
  | cursed value =>
    have cursed : r.cursed = true := fits
    have between := cursed_between value (faces value rfl)
    rw [if_pos cursed, if_pos cursed]
    exact ⟨.cursed between.1, .cursed between.2⟩
  | dice throws =>
    obtain ⟨notCursed, specs, counts⟩ := fits
    have each := shows throws rfl
    rw [notCursed, ← specs, Extreme.throws_eq _ counts, Extreme.throws_eq _ counts]
    refine ⟨.dice ?_, .dice ?_⟩
    · rw [List.forall₂_map_left_iff, List.forall₂_same]
      exact fun u hu => Throw.lowest_below (each u hu)
    · rw [List.forall₂_map_right_iff, List.forall₂_same]
      exact fun u hu => Throw.below_highest (each u hu)

/-- A source that shows one end of each die gives the same trial each time. -/
theorem trials_extreme (r : Request) (e : Extreme) (s : σ) :
    (r.outcomeFrom e).trials = (r.outcomeFrom s).trials.map fun _ => r.trialFrom e := by
  show r.trialFrom e :: r.laterFrom (Roller.rollAll r.rows.flatten e).2 =
    (r.trialFrom s :: r.laterFrom (Roller.rollAll r.rows.flatten s).2).map _
  rw [Extreme.rollAll_eq, laterFrom, laterFrom]
  split <;> rfl

/-- **Every outcome lies between the ends.** -/
theorem outcome_between {s : σ} (onDice : (r.outcomeFrom s).OnDice) :
    (r.outcomeFrom Extreme.lowest).Below (r.outcomeFrom s) ∧
      (r.outcomeFrom s).Below (r.outcomeFrom Extreme.highest) := by
  have each : ∀ t ∈ (r.outcomeFrom s).trials,
      (r.trialFrom Extreme.lowest).Below t ∧ t.Below (r.trialFrom Extreme.highest) := by
    intro t ht
    refine trial_between (r.fits_outcomeFrom s t ht) ?_ ?_
    · rintro value rfl
      obtain ⟨dice, hd⟩ := exists_trialFrom ht
      exact mem_cursedFaces_of_trialFrom hd
    · rintro throws rfl
      exact onDice throws ht
  refine ⟨⟨rfl, ?_, Int64.le_refl _⟩, ⟨rfl, ?_, Int64.le_refl _⟩⟩
  · rw [r.trials_extreme .lowest s, List.forall₂_map_left_iff, List.forall₂_same]
    exact fun t ht => (each t ht).1
  · rw [r.trials_extreme .highest s, List.forall₂_map_right_iff, List.forall₂_same]
    exact fun t ht => (each t ht).2

/-- A source that stays on the die gives outcomes that do. -/
theorem onDice_outcomeFrom (r : Request) {s : σ} (h : Roller.OnDie s) :
    (r.outcomeFrom s).OnDice := by
  intro throws hd t ht
  obtain ⟨dice, same⟩ := exists_trialFrom hd
  have onDie := r.onDie_trialFrom (h.rollAll dice)
  rw [← same] at onDie
  exact (onDie t ht).1

end Request

/-! ## Sessions -/

namespace Session

variable {σ τ : Type} [Roller σ] [Roller τ]

/-- Whether rows of dice are refused does not depend on the source. -/
theorem advance_of_alike {s : Session σ} {t : Session τ} (limit : s.maxRolls = t.maxRolls)
    (count : s.rolls = t.rolls) (rows : List (List Die)) :
    (s.advance rows).1 = (t.advance rows).1 := by
  induction rows generalizing s t with
  | nil => rfl
  | cons row rows ih =>
    have charged : (s.charged row.length).rolls = (t.charged row.length).rolls := by
      show min (s.rolls + row.length) maxCount = min (t.rolls + row.length) maxCount
      rw [count]
    have exceeded : (s.charged row.length).exceeded? = (t.charged row.length).exceeded? := by
      rw [exceeded?, exceeded?, maxRolls_charged, maxRolls_charged, limit, charged]
    rw [advance_cons, advance_cons, exceeded]
    cases (t.charged row.length).exceeded? with
    | some limit => rfl
    | none => exact ih limit charged

theorem rolled_of_rolled {s : Session σ} {t : Session τ} {r : Request} {o : Outcome}
    (limit : s.maxRolls = t.maxRolls) (h : (s.play r).value.1 = .ok (.rolled o)) :
    (t.play r).value.1 = .ok (.rolled (r.outcomeFrom t.source)) := by
  have ends := s.ends_play r
  generalize (s.play r).value = p at h ends
  cases ends with
  | objected | manual | refused => cases h
  | rolled valid noHelp ha =>
    -- A session counts anew for each request, so both count the same dice from zero.
    have alike := advance_of_alike (s := s.restarted) (t := t.restarted) limit rfl r.course
    rw [ha] at alike
    exact (play_of_advance valid noHelp alike.symm).1

end Session

/-- **Totals go up with the dice,** and those of a request lie between its totals with the first
side and with the last side of every die. The draws are sides of their dice if the source gives
nothing else. -/
theorem total_monotone :
    (∀ o p : Outcome, o.Below p → o.rollTotal ≤ p.rollTotal ∧ o.total ≤ p.total) ∧
    ∀ {σ : Type} [Roller σ] (s : Session σ) (r : Request) (o : Outcome),
      (s.play r).value.1 = .ok (.rolled o) →
      (Roller.OnDie s.source → o.OnDice) ∧
      (o.OnDice → ∃ low high : Outcome,
        ((Session.start s.maxRolls Extreme.lowest).play r).value.1 = .ok (.rolled low) ∧
        ((Session.start s.maxRolls Extreme.highest).play r).value.1 = .ok (.rolled high) ∧
        low.rollTotal ≤ o.rollTotal ∧ o.rollTotal ≤ high.rollTotal ∧
        low.total ≤ o.total ∧ o.total ≤ high.total) := by
  refine ⟨fun o p below => ⟨below.rollTotal_le, below.total_le⟩, ?_⟩
  intro σ _ s r o rolled
  obtain ⟨rfl, -⟩ := Session.outcome_of_play rolled
  refine ⟨r.onDice_outcomeFrom, fun onDice => ?_⟩
  obtain ⟨low, high⟩ := Request.outcome_between onDice
  exact ⟨_, _, Session.rolled_of_rolled (s := s) rfl rolled,
    Session.rolled_of_rolled (s := s) rfl rolled, low.rollTotal_le, high.rollTotal_le,
    low.total_le, high.total_le⟩

/-- `d20-3 adv +9223372036854775800` with a counter: with a five and a six the total is in range,
and with greater draws and no modifier at the die it is clamped. -/
theorem total_monotone_clamped :
    let s : Session Steps := .start (some 2) (.startingAt 5 1)
    let r : Request :=
      { dice := [⟨1, { sides := 20 }, some (-3)⟩], advantage := true
        modifier := some (.value 9223372036854775800) }
    let o : Outcome :=
      { title := none, advantage := .advantage, modifier := some 9223372036854775800
        first := .dice [⟨⟨1, { sides := 20 }, some (-3)⟩, [5]⟩]
        later := [.dice [⟨⟨1, { sides := 20 }, some (-3)⟩, [6]⟩]] }
    let p : Outcome :=
      { o with
        first := .dice [⟨⟨1, { sides := 20 }, none⟩, [7]⟩]
        later := [.dice [⟨⟨1, { sides := 20 }, none⟩, [9]⟩]] }
    o.Below p ∧ p.total = Int64.maxValue ∧ o.total ≤ p.total ∧
      (s.play r).value.1 = .ok (.rolled o) ∧ Roller.OnDie s.source ∧ o.OnDice ∧
      ∃ low high : Outcome,
        ((Session.start (some 2) Extreme.lowest).play r).value.1 = .ok (.rolled low) ∧
        ((Session.start (some 2) Extreme.highest).play r).value.1 = .ok (.rolled high) ∧
        low.total ≤ o.total ∧ o.total ≤ high.total := by
  intro s r o p
  have below : o.Below p := by
    refine ⟨rfl, .cons (.dice (.cons ⟨?_, ?_⟩ .nil)) (.cons (.dice (.cons ⟨?_, ?_⟩ .nil)) .nil), ?_⟩
    all_goals decide
  have rolled : (s.play r).value.1 = .ok (.rolled o) := by decide +kernel
  obtain ⟨onDice, between⟩ := total_monotone.2 s r o rolled
  obtain ⟨low, high, hl, hh, -, -, least, most⟩ := between (onDice (Steps.onDie _))
  exact ⟨below, by decide, (total_monotone.1 o p below).2, rolled, Steps.onDie _,
    onDice (Steps.onDie _), low, high, hl, hh, least, most⟩

end ChatDice
