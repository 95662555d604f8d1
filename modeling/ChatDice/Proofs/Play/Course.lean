import ChatDice.Play.Answer
import ChatDice.Proofs.Dice.Recorder

/-!
# The course of a request

What playing a request does, without the log: its dice lie in rows, one for each dice expression and
trial, and each row is counted and then rolled until the limit is passed. The values go into an
outcome that depends on nothing but the request and the source.

**Theorem (`value_play`).** A request is refused for its own fault, or answered with the manual, or
its rows are played from a count of zero; if none of them passes the limit, the answer is the
outcome that the request takes from the source.

Every step of play is described alike: `advance` says where its rows leave the session and whether
they are refused, and a second function says what the step gives. So the rows of two steps, one
after the other, are those of the first and then those of the second (`advance_append`). What is
left for later are the four ways in which a request ends (`ends_play`).
-/

namespace ChatDice

variable {σ : Type} [Roller σ]

/-! ## Rows of dice -/

/-- The dice that an expression asks for. -/
def Spec.row (spec : Spec) : List Die := List.replicate spec.count.toNat spec.die

@[simp] theorem Spec.length_row (spec : Spec) : spec.row.length = spec.count.toNat :=
  List.length_replicate

namespace Request

def mode (r : Request) : Advantage := Advantage.ofFlags r.advantage r.disadvantage

/-- The rows of dice of one trial. -/
def rows (r : Request) : List (List Die) :=
  if r.cursed then [[Die.d6]] else r.dice.map Spec.row

/-- The rows of dice of all trials. -/
def course (r : Request) : List (List Die) :=
  r.rows ++ if r.mode.replays then r.rows else []

end Request

/-! ## Counting and rolling rows -/

namespace Session

/-- The session after a row of dice was counted and rolled. -/
def rolled (s : Session σ) (row : List Die) : Session σ :=
  { s.charged row.length with source := (Roller.rollAll row s.source).2 }

/-- Counts and rolls one row of dice after the other, up to the first that passes the limit. That
row is counted and not rolled. -/
def advance (s : Session σ) : List (List Die) → Except Refusal Unit × Session σ
  | [] => (.ok (), s)
  | row :: rest =>
    match (s.charged row.length).exceeded? with
    | some limit => (.error (.tooManyRolls limit), s.charged row.length)
    | none => (s.rolled row).advance rest

theorem advance_cons (s : Session σ) (row : List Die) (rest : List (List Die)) :
    s.advance (row :: rest) =
      match (s.charged row.length).exceeded? with
      | some limit => (.error (.tooManyRolls limit), s.charged row.length)
      | none => (s.rolled row).advance rest := rfl

/-- The rows of two steps are those of the first and then, unless it is refused, of the second. -/
theorem advance_append (s : Session σ) (a b : List (List Die)) :
    s.advance (a ++ b) =
      match s.advance a with
      | (.ok (), s) => s.advance b
      | (.error why, s) => (.error why, s) := by
  induction a generalizing s with
  | nil => rfl
  | cons row a ih =>
    rw [List.cons_append, advance_cons, advance_cons]
    cases (s.charged row.length).exceeded? with
    | some limit => rfl
    | none => exact ih _

theorem source_advance {s t : Session σ} {rows : List (List Die)}
    (h : s.advance rows = (.ok (), t)) : t.source = (Roller.rollAll rows.flatten s.source).2 := by
  induction rows generalizing s with
  | nil =>
    obtain rfl : s = t := congrArg Prod.snd h
    rfl
  | cons row rows ih =>
    rw [advance_cons] at h
    split at h
    · cases congrArg Prod.fst h
    · rw [ih h, List.flatten_cons, Roller.rollAll_append]
      rfl

end Session

/-! ## What the dice give -/

/-- The throws that a row of expressions takes from a source. -/
def Spec.throws : List Spec → σ → List Throw
  | [], _ => []
  | spec :: rest, s =>
    { spec, draws := (Roller.rollAll spec.row s).1 } :: throws rest (Roller.rollAll spec.row s).2

namespace Request

/-- The trial that a request takes from a source. -/
def trialFrom (r : Request) (s : σ) : Trial :=
  if r.cursed then .cursed (rollCursed s).1 else .dice (Spec.throws r.dice s)

/-- The replay that a request takes from a source, if it has one. -/
def laterFrom (r : Request) (s : σ) : List Trial :=
  if r.mode.replays then [r.trialFrom s] else []

/-- The outcome of a request with the trials that were played for it. -/
def outcomeOf (r : Request) (first : Trial) (later : List Trial) : Outcome :=
  { title := r.title, advantage := r.mode, first, later, modifier := r.modifierValue? }

/-- The outcome that a request takes from a source. -/
def outcomeFrom (r : Request) (s : σ) : Outcome :=
  r.outcomeOf (r.trialFrom s) (r.laterFrom (Roller.rollAll r.rows.flatten s).2)

end Request

/-! ## The steps of play -/

namespace Play

/-- A step that plays the rows `rows` and gives what `give` takes from the source. -/
def Takes {α : Type} (x : Play σ α) (rows : List (List Die)) (give : σ → α) : Prop :=
  ∀ s : Session σ, (x.run s).value =
    ((s.advance rows).1.map fun _ => give s.source, (s.advance rows).2)

theorem takes_pure {α : Type} (a : α) : Takes (pure a : Play σ α) [] fun _ => a := fun _ => rfl

theorem Takes.congr {α : Type} {x : Play σ α} {rows : List (List Die)} {f g : σ → α}
    (h : Takes x rows f) (hg : ∀ s, f s = g s) : Takes x rows g := by
  obtain rfl : f = g := funext hg
  exact h

/-- **Two steps, one after the other.** The second takes its dice where the first stopped. -/
theorem Takes.bind {α β : Type} {x : Play σ α} {f : α → Play σ β} {a b : List (List Die)}
    {give : σ → α} {next : α → σ → β} (hx : Takes x a give) (hf : ∀ v, Takes (f v) b (next v)) :
    Takes (x >>= f) (a ++ b) fun s => next (give s) (Roller.rollAll a.flatten s).2 := by
  intro s
  rw [value_run_bind, hx s, Session.advance_append]
  rcases h : s.advance a with ⟨why | _, t⟩
  · rfl
  · show ((f (give s.source)).run t).value = _
    rw [hf, Session.source_advance h]

/-- A step whose value is used and nothing more is played. -/
theorem Takes.bind_pure {α β : Type} {x : Play σ α} {rows : List (List Die)} {give : σ → α}
    (hx : Takes x rows give) (f : α → β) :
    Takes (do return f (← x)) rows fun s => f (give s) := by
  have h := hx.bind fun v => takes_pure (f v)
  rwa [List.append_nil] at h

theorem takes_throwSpec (spec : Spec) :
    Takes (throwSpec spec : Play σ Throw) [spec.row] fun s =>
      { spec, draws := (Roller.rollAll spec.row s).1 } := by
  intro s
  rw [value_throwSpec, Session.advance_cons, Spec.length_row, Roller.rollTimes_eq_rollAll]
  cases (s.charged spec.count.toNat).exceeded? with
  | some limit => rfl
  | none =>
    simp only [Session.advance, Session.rolled, Spec.length_row]
    rfl

theorem takes_throwAll (specs : List Spec) :
    Takes (throwAll specs : Play σ (List Throw)) (specs.map Spec.row) (Spec.throws specs) := by
  induction specs with
  | nil => exact takes_pure []
  | cons spec rest ih =>
    refine ((takes_throwSpec spec).bind fun t => ih.bind_pure (t :: ·)).congr fun s => ?_
    simp [Spec.throws]

theorem takes_cursed :
    Takes (do charge 1; return .cursed (← take rollCursed) : Play σ Trial) [[Die.d6]] fun s =>
      .cursed (rollCursed s).1 := by
  intro s
  rw [value_run_bind, run_charge, Session.advance_cons, List.length_singleton]
  cases (s.charged 1).exceeded? with
  | some limit => rfl
  | none => rfl

theorem takes_trial (r : Request) : Takes (trial r : Play σ Trial) r.rows r.trialFrom := by
  unfold trial Request.rows
  by_cases hc : r.cursed = true
  · rw [if_pos hc, if_pos hc]
    exact takes_cursed.congr fun s => by rw [Request.trialFrom, if_pos hc]
  · rw [if_neg hc, if_neg hc]
    exact ((takes_throwAll r.dice).bind_pure Trial.dice).congr fun s => by
      rw [Request.trialFrom, if_neg hc]

theorem takes_replays (r : Request) :
    Takes (replays r.mode r : Play σ (List Trial)) (if r.mode.replays then r.rows else [])
      r.laterFrom := by
  unfold replays
  by_cases hr : r.mode.replays = true
  · rw [if_pos hr, if_pos hr]
    exact ((takes_trial r).bind_pure ([·])).congr fun s => by rw [Request.laterFrom, if_pos hr]
  · rw [if_neg hr, if_neg hr]
    exact (takes_pure []).congr fun s => by rw [Request.laterFrom, if_neg hr]

/-- The dice counted so far are reported, which changes nothing. -/
theorem takes_report_counted {α : Type} (event : Nat → Event) (a : α) :
    Takes (do report (event (← counted)); return a : Play σ α) [] fun _ => a := by
  intro s
  simp only [value_run_bind, run_counted, run_report, run_pure, Logged.value_pure,
    Logged.value_bind]
  rfl

theorem takes_outcome (r : Request) :
    Takes (outcome r : Play σ Outcome) r.course r.outcomeFrom := by
  have h := (takes_trial r : Takes (trial r : Play σ Trial) _ _).bind fun first =>
    (takes_replays r).bind fun later =>
      takes_report_counted
        (fun n => .evaluated (r.outcomeOf first later).total n
          (r.outcomeOf first later).isCursed r.mode)
        (r.outcomeOf first later)
  rw [List.append_nil] at h
  exact h

end Play

/-! ## Requests -/

namespace Session

/-- The session as a request finds it, with nothing counted yet. -/
def restarted (s : Session σ) : Session σ := { s with rolls := 0 }

/-- **What playing a request does.** -/
theorem value_play (s : Session σ) (r : Request) :
    (s.play r).value =
      match r.objection? with
      | some why => (.error why, s.restarted)
      | none =>
        if r.help then (.ok .help, s.restarted)
        else ((s.restarted.advance r.course).1.map fun _ => .rolled (r.outcomeFrom s.source),
          (s.restarted.advance r.course).2) := by
  cases hr : r.objection? with
  | some why =>
    rw [play_of_objection s hr]
    rfl
  | none =>
    by_cases hh : r.help = true
    · rw [play_of_help s hr hh, if_pos hh]
      rfl
    · rw [play_of_roll s hr (by simpa using hh), if_neg hh, map_eq_pure_bind]
      exact (Play.takes_outcome r).bind_pure Answer.rolled s.restarted

theorem value_play_of_valid (s : Session σ) {r : Request} (hr : r.objection? = none)
    (hh : r.help = false) :
    (s.play r).value =
      ((s.restarted.advance r.course).1.map fun _ => .rolled (r.outcomeFrom s.source),
        (s.restarted.advance r.course).2) := by
  rw [value_play, hr, hh]
  rfl

/-- Two requests with the same faults and the same dice end alike if their outcomes are alike. -/
theorem play_congr {r r' : Request} {Alike : Except Refusal Answer → Except Refusal Answer → Prop}
    (s : Session σ) (objection : r.objection? = r'.objection?) (help : r.help = r'.help)
    (course : r.course = r'.course) (refused : ∀ why, Alike (.error why) (.error why))
    (manual : Alike (.ok .help) (.ok .help))
    (rolled : Alike (.ok (.rolled (r.outcomeFrom s.source)))
      (.ok (.rolled (r'.outcomeFrom s.source)))) :
    Alike (s.play r).value.1 (s.play r').value.1 ∧
      (s.play r).value.2 = (s.play r').value.2 := by
  rw [value_play, value_play, ← objection, ← help, ← course]
  cases r.objection? with
  | some why => exact ⟨refused why, rfl⟩
  | none =>
    by_cases hh : r.help = true
    · rw [if_pos hh, if_pos hh]
      exact ⟨manual, rfl⟩
    · rw [if_neg hh, if_neg hh]
      refine ⟨?_, rfl⟩
      cases (s.restarted.advance r.course).1 with
      | error why => exact refused why
      | ok _ => exact rolled

/-- The four ways in which playing a request ends: for a fault of its own, with the manual, at a row
that passes the limit, or with an outcome. -/
inductive Ends (s : Session σ) (r : Request) : Except Refusal Answer × Session σ → Prop
  | objected {why} : r.objection? = some why → Ends s r (.error why, s.restarted)
  | manual : r.objection? = none → r.help = true → Ends s r (.ok .help, s.restarted)
  | refused {why t} : r.objection? = none → r.help = false →
      s.restarted.advance r.course = (.error why, t) → Ends s r (.error why, t)
  | rolled {t} : r.objection? = none → r.help = false →
      s.restarted.advance r.course = (.ok (), t) →
      Ends s r (.ok (.rolled (r.outcomeFrom s.source)), t)

theorem ends_play (s : Session σ) (r : Request) : s.Ends r (s.play r).value := by
  cases hr : r.objection? with
  | some why =>
    rw [value_play, hr]
    exact .objected hr
  | none =>
    cases hh : r.help with
    | true =>
      rw [value_play, hr, hh]
      exact .manual hr hh
    | false =>
      rw [value_play_of_valid s hr hh]
      rcases ha : s.restarted.advance r.course with ⟨why | _, t⟩
      · exact .refused hr hh ha
      · exact .rolled hr hh ha

theorem maxRolls_advance (s : Session σ) (rows : List (List Die)) :
    (s.advance rows).2.maxRolls = s.maxRolls := by
  induction rows generalizing s with
  | nil => rfl
  | cons row rows ih =>
    rw [advance_cons]
    cases (s.charged row.length).exceeded? with
    | some limit => rfl
    | none => exact ih _

theorem maxRolls_play (s : Session σ) (r : Request) :
    (s.play r).value.2.maxRolls = s.maxRolls := by
  have advanced := s.restarted.maxRolls_advance r.course
  have ends := s.ends_play r
  generalize (s.play r).value = p at ends
  cases ends with
  | objected => rfl
  | manual => rfl
  | refused _ _ ha | rolled _ _ ha =>
    rw [ha] at advanced
    exact advanced

/-! ## Refusals and answers -/

/-- Rows of dice are refused for being too many and for nothing else. -/
theorem refused_of_advance {s : Session σ} {rows : List (List Die)} {why : Refusal}
    (h : (s.advance rows).1 = .error why) : ∃ limit < maxCount, why = .tooManyRolls limit := by
  induction rows generalizing s with
  | nil => cases h
  | cons row rows ih =>
    rw [advance_cons] at h
    cases he : (s.charged row.length).exceeded? with
    | none =>
      rw [he] at h
      exact ih h
    | some limit =>
      rw [he] at h
      refine ⟨limit, ?_, (Except.error.inj h).symm⟩
      rw [exceeded?, Option.filter_eq_some_iff, decide_eq_true_eq] at he
      exact Nat.lt_of_lt_of_le he.2 (Nat.min_le_right _ _)

/-- A request is refused for its own fault or for too many dice. -/
theorem refused_of_play {s : Session σ} {r : Request} {why : Refusal}
    (h : (s.play r).value.1 = .error why) :
    r.objection? = some why ∨
      r.objection? = none ∧ ∃ limit < maxCount, why = .tooManyRolls limit := by
  have ends := s.ends_play r
  generalize (s.play r).value = p at h ends
  cases ends with
  | objected hr =>
    cases h
    exact .inl hr
  | manual | rolled => cases h
  | refused hr _ ha =>
    cases h
    exact .inr ⟨hr, refused_of_advance (congrArg Prod.fst ha)⟩

theorem objection?_of_play {s : Session σ} {r : Request} {answer : Answer}
    (h : (s.play r).value.1 = .ok answer) : r.objection? = none := by
  have ends := s.ends_play r
  generalize (s.play r).value = p at h ends
  cases ends with
  | objected | refused => cases h
  | manual hr | rolled hr => exact hr

end Session

theorem Request.objection?_cases {r : Request} {why : Refusal} (h : r.objection? = some why) :
    why = .conflictingAdvantage ∨ why = .missingRoll ∨ ∃ text, why = .invalidModifier text := by
  unfold Request.objection? at h
  split at h
  · exact .inl (Option.some.inj h).symm
  · split at h
    · exact .inr (.inl (Option.some.inj h).symm)
    · split at h
      · exact .inr (.inr ⟨_, (Option.some.inj h).symm⟩)
      · cases h

/-- A request is refused for its modifier just if it is rolled with no more than one of advantage
and disadvantage, there is something to roll and the modifier is no number. -/
theorem Request.objection?_eq_invalidModifier_iff {r : Request} {text : String} :
    r.objection? = some (.invalidModifier text) ↔
      ¬(r.advantage = true ∧ r.disadvantage = true) ∧ (r.cursed = true ∨ r.dice ≠ []) ∧
        ∃ word, r.modifier = some (.malformed word) ∧ afterSign word = text := by
  have both : (r.advantage && r.disadvantage) = true ↔
      r.advantage = true ∧ r.disadvantage = true := Bool.and_eq_true_iff
  have nothing : (!r.cursed && r.dice.isEmpty) = true ↔ ¬(r.cursed = true ∨ r.dice ≠ []) := by
    simp
  unfold Request.objection?
  split
  · next h => exact ⟨nofun, fun ok => absurd (both.1 h) ok.1⟩
  · next h =>
    split
    · next h' => exact ⟨nofun, fun ok => absurd ok.2.1 (nothing.1 h')⟩
    · next h' =>
      rw [and_iff_right (mt both.2 h), and_iff_right (Classical.not_not.1 (mt nothing.2 h'))]
      rcases r.modifier with _ | ⟨n | word⟩ <;> simp

end ChatDice
