import ChatDice.Chat.Dispatch

/-!
# Faults are contained

The making of a reply can break off right after any event that it reports.

**Theorem (`fault_contained`).** If it breaks off after the first event with some message, the reply
is the apology and nothing else, and what is reported is what would have been reported, up to that
event, and then one error that carries the input. If no event has the message, nothing changes. An
interaction that calls for the reply is answered accordingly, with an ordinary message.

A guarded computation is the same as without the guard up to the first event that fails
(`guarded_of_exists`, `guarded_of_forall`). What is reported before the reply is asked for, and the
error itself, lie outside the guard: no event inside has their messages (`reports_attempt`). This is
shown stage by stage for the words of the input, the dice, the transcript and the headers.
-/

namespace ChatDice

namespace Event

/-- Whether the event is one of those that are reported while a reply is made. -/
def ofReply : Event → Bool
  | classifiedToken .. | ignoredToken _ | classifiedInput | rolling _ | evaluated .. => true
  | summarized .. | shortened _ | refused _ => true
  | faulted _ | pinged | rollRequested _ | unknownCommand _ | unknownKind _ => false

theorem level_ne_error {e : Event} (h : e.ofReply = true) : e.level ≠ .error := by
  cases e with
  | faulted | pinged | rollRequested | unknownCommand | unknownKind => cases h
  | _ => exact nofun

theorem message_ne_rollRequested {e : Event} (h : e.ofReply = true) (command : String) :
    e.message ≠ (rollRequested command).message := by
  cases e with
  | faulted | pinged | rollRequested | unknownCommand | unknownKind => cases h
  | _ => unfold message; simp

end Event

/-! ## What a computation reports -/

namespace Logged

variable {α β : Type} {p : Event → Bool}

/-- Every event that the computation reports has the property. -/
def Reports (p : Event → Bool) (x : Logged α) : Prop := ∀ e ∈ x.events, p e = true

theorem reports_pure (a : α) : Reports p (pure a : Logged α) := nofun

theorem reports_emit {e : Event} (h : p e = true) : Reports p (emit e) := by
  intro d hd
  rwa [List.mem_singleton.1 hd]

theorem Reports.bind {x : Logged α} {f : α → Logged β} (hx : Reports p x)
    (hf : ∀ a, Reports p (f a)) : Reports p (x >>= f) := by
  intro e he
  rw [events_bind] at he
  rcases List.mem_append.1 he with first | second
  · exact hx e first
  · exact hf _ e second

end Logged

namespace Play

variable {σ α β : Type} {p : Event → Bool}

/-- Wherever the step is played, every event that it reports has the property. -/
def Reports (p : Event → Bool) (x : Play σ α) : Prop := ∀ s, Logged.Reports p (x.run s)

theorem reports_pure (a : α) : Reports p (pure a : Play σ α) := fun _ => Logged.reports_pure _

theorem reports_charge (n : Nat) : Reports p (charge n : Play σ Unit) := fun s => by
  rw [run_charge]
  exact Logged.reports_pure _

theorem reports_counted : Reports p (counted : Play σ Nat) := fun _ => Logged.reports_pure _

theorem reports_take (draw : σ → α × σ) : Reports p (take draw) := fun _ => Logged.reports_pure _

theorem reports_report {e : Event} (h : p e = true) : Reports p (report e : Play σ Unit) :=
  fun _ => (Logged.reports_emit h).bind fun _ => Logged.reports_pure _

/-- A step that is not played, because the one before it is refused, reports nothing. -/
theorem Reports.bind {x : Play σ α} {f : α → Play σ β} (hx : Reports p x)
    (hf : ∀ a, Reports p (f a)) : Reports p (x >>= f) := by
  intro s
  rw [run_bind]
  refine (hx s).bind fun q => ?_
  obtain ⟨why | a, t⟩ := q
  · exact Logged.reports_pure _
  · exact hf a t

end Play

/-! ## What is reported while a reply is made -/

namespace Request

/-- Each word is reported as a token, as saying nothing, or not at all. -/
theorem reports_addWords (r : Request) (words : List (List Char)) :
    Logged.Reports Event.ofReply (addWords r words) := by
  induction words generalizing r with
  | nil => exact Logged.reports_pure _
  | cons word rest ih =>
    have reported : ∀ e, eventOfWord? word = some e → e.ofReply = true := by
      intro e he
      unfold eventOfWord? at he
      split at he
      · cases he
        rfl
      · split at he <;> cases he
        rfl
    rw [addWords]
    cases hw : eventOfWord? word with
    | none => exact ih _
    | some e => exact (Logged.reports_emit (reported e hw)).bind fun _ => ih _

theorem reports_classify (input : String) : Logged.Reports Event.ofReply (classify input) :=
  (reports_addWords _ _).bind fun _ =>
    (Logged.reports_emit rfl).bind fun _ => Logged.reports_pure _

end Request

namespace Play

variable {σ : Type} [Roller σ]

theorem reports_throwSpec (spec : Spec) : Reports Event.ofReply (throwSpec spec : Play σ Throw) :=
  (reports_charge _).bind fun _ => (reports_report rfl).bind fun _ =>
    (reports_take _).bind fun _ => reports_pure _

theorem reports_throwAll (specs : List Spec) :
    Reports Event.ofReply (throwAll specs : Play σ (List Throw)) := by
  induction specs with
  | nil => exact reports_pure _
  | cons spec rest ih =>
    exact (reports_throwSpec spec).bind fun _ => ih.bind fun _ => reports_pure _

theorem reports_trial (r : Request) : Reports Event.ofReply (trial r : Play σ Trial) := by
  unfold trial
  split
  · exact (reports_charge _).bind fun _ => (reports_take _).bind fun _ => reports_pure _
  · exact (reports_throwAll _).bind fun _ => reports_pure _

theorem reports_outcome (r : Request) : Reports Event.ofReply (outcome r : Play σ Outcome) := by
  refine (reports_trial r).bind fun first => Reports.bind ?_ fun later =>
    reports_counted.bind fun n => (reports_report rfl).bind fun _ => reports_pure _
  unfold replays
  split
  · exact (reports_trial r).bind fun _ => reports_pure _
  · exact reports_pure _

end Play

theorem Session.reports_play {σ : Type} [Roller σ] (s : Session σ) (r : Request) :
    Logged.Reports Event.ofReply (s.play r) := by
  cases ho : r.objection? with
  | some why =>
    rw [s.play_of_objection ho]
    exact Logged.reports_pure _
  | none =>
    cases hh : r.help with
    | true =>
      rw [s.play_of_help ho hh]
      exact Logged.reports_pure _
    | false =>
      rw [s.play_of_roll ho hh, map_eq_pure_bind]
      exact (Play.reports_outcome r).bind (fun _ => Play.reports_pure _) _

namespace Reply

theorem reports_render (style : Style) (o : Outcome) (limit : Nat) :
    Logged.Reports Event.ofReply (o.render style limit) := by
  show Logged.Reports _ (if limit < (o.transcript style).length then _ else _)
  split
  · exact (Logged.reports_emit rfl).bind fun _ => Logged.reports_pure _
  · exact Logged.reports_pure _

theorem reports_fitWith (o : Outcome) (limit : Nat) (latest : String) (headers : List String) :
    Logged.Reports Event.ofReply (fitWith o limit latest headers) := by
  induction headers generalizing latest with
  | nil => exact Logged.reports_pure _
  | cons header rest ih =>
    rw [fitWith]
    split
    · exact ih _
    · refine (reports_render _ o _).bind fun transcript => ?_
      show Logged.Reports _ (if _ then _ else _)
      split
      · exact Logged.reports_pure _
      · exact (Logged.reports_emit rfl).bind fun _ => ih _

theorem reports_ofAnswer (name : String) (limit : Nat) (answer : Except Refusal Answer) :
    Logged.Reports Event.ofReply (ofAnswer name limit answer) := by
  rcases answer with why | ⟨⟩ | o
  · exact (Logged.reports_emit rfl).bind fun _ => Logged.reports_pure _
  · exact Logged.reports_pure _
  · exact reports_fitWith o limit _ _

/-- **Inside the guard** no event has to do with anything but the reply. -/
theorem reports_attempt {σ : Type} [Roller σ] (input name : String) (limits : Limits) (source : σ) :
    Logged.Reports Event.ofReply (attempt input name limits source) :=
  (Request.reports_classify input).bind fun _ =>
    ((Session.reports_play _ _).bind fun _ => Logged.reports_pure _).bind fun _ =>
      (reports_ofAnswer _ _ _).bind fun _ => Logged.reports_pure _

end Reply

/-! ## Guarded computations -/

namespace Logged

variable {α : Type} {fails : Event → Bool}

theorem exists_cut {events : List Event} (h : events.any fails = true) :
    ∃ before e after, events = before ++ e :: after ∧ (∀ d ∈ before, fails d = false) ∧
      fails e = true ∧ cut fails events = before ++ [e] := by
  induction events with
  | nil => cases h
  | cons e rest ih =>
    by_cases he : fails e = true
    · exact ⟨[], e, rest, rfl, nofun, he, by simp [cut, he]⟩
    · have he : fails e = false := by simpa using he
      rw [List.any_cons, he, Bool.false_or] at h
      obtain ⟨before, d, after, rfl, passed, hd, cutRest⟩ := ih h
      refine ⟨e :: before, d, after, rfl, ?_, hd, by simp [cut, he, cutRest]⟩
      intro c hc
      rcases List.mem_cons.1 hc with rfl | hc
      · exact he
      · exact passed c hc

/-- **A guarded computation that breaks off** leaves the events up to the first that fails. -/
theorem guarded_of_exists {x : Logged α} (rescue : Logged α) (h : ∃ e ∈ x.events, fails e = true) :
    (guarded fails rescue x).value = rescue.value ∧
      ∃ before e after, x.events = before ++ e :: after ∧ (∀ d ∈ before, fails d = false) ∧
        fails e = true ∧ (guarded fails rescue x).events = before ++ e :: rescue.events := by
  have some : x.events.any fails = true := List.any_eq_true.2 h
  obtain ⟨before, e, after, parts, passed, he, upTo⟩ := exists_cut some
  refine ⟨by rw [value_guarded, if_pos some], before, e, after, parts, passed, he, ?_⟩
  rw [events_guarded, if_pos some, upTo, List.append_assoc, List.singleton_append]

/-- **A guarded computation that does not break off** is as without the guard. -/
theorem guarded_of_forall {x : Logged α} (rescue : Logged α)
    (h : ∀ e ∈ x.events, fails e = false) : guarded fails rescue x = x := by
  have none : x.events.any fails = false := by simpa using h
  refine eq_of_events_of_value ?_ ?_
  · rw [events_guarded, none, if_neg Bool.false_ne_true]
  · rw [value_guarded, none, if_neg Bool.false_ne_true]

end Logged

/-! ## Replies and interactions -/

/-- The event is an error that tells of a fault and carries the input. -/
structure Event.TellsFault (input : String) (e : Event) : Prop where
  level : e.level = .error
  message : e.message = "roll evaluation panicked"
  fields : e.fields = [("input", input)]

theorem Event.tellsFault_faulted (input : String) : TellsFault input (faulted input) :=
  ⟨rfl, rfl, rfl⟩

/-- The events `broken` are those of `whole` up to the first one with the message, that one
included, and then one that tells of a fault. -/
def BreaksOff (message input : String) (whole broken : List Event) : Prop :=
  ∃ before e after last, whole = before ++ e :: after ∧ (∀ d ∈ before, d.message ≠ message) ∧
    e.message = message ∧ broken = before ++ [e, last] ∧ last.TellsFault input

/-- What comes first and has another message is not cut off. -/
theorem BreaksOff.cons {message input : String} {whole broken : List Event} {e : Event}
    (h : BreaksOff message input whole broken) (he : e.message ≠ message) :
    BreaksOff message input (e :: whole) (e :: broken) := by
  obtain ⟨before, d, after, last, rfl, passed, hd, rfl, tells⟩ := h
  refine ⟨e :: before, d, after, last, rfl, ?_, hd, rfl, tells⟩
  intro c hc
  rcases List.mem_cons.1 hc with rfl | hc
  · exact he
  · exact passed c hc

/-- The interaction is the roll command with this input, from someone who goes by this name. -/
structure Interaction.Calls (i : Interaction) (input name : String) : Prop where
  kind : i.kind = commandKind
  command : ∃ c, i.command = some c ∧ sameName c.name rollCommand = true ∧
    (c.optionText? rollOption).getD "" = input
  name : i.displayName = name

variable {σ : Type} [Roller σ]

/-- The roll command is reported, and then the reply is made. -/
theorem Interaction.Calls.dispatch_eq {i : Interaction} {input name : String}
    (h : i.Calls input name) (limits : Limits) (source : σ) :
    ∃ spelling, ∀ fails, i.dispatch fails limits source =
      Logged.emit (.rollRequested spelling) >>= fun _ =>
        (fun p => (.ok (.message p.1), p.2)) <$> rollReply fails input name limits source := by
  obtain ⟨c, hc, same, hi⟩ := h.command
  refine ⟨c.name, fun fails => ?_⟩
  have command : ¬i.kind = pingKind := by
    rw [h.kind]
    decide
  rw [dispatch, if_neg command, if_pos h.kind, hc, map_eq_pure_bind]
  simp only [answerCommand, same, if_true, hi, h.name]

theorem rollReply_of_exists {message input name : String} {limits : Limits} {source : σ}
    (h : ∃ e ∈ (Reply.attempt input name limits source).events, e.message = message) :
    let broken := rollReply (fun e => e.message = message) input name limits source
    broken.value.1 = Reply.apology ∧
      BreaksOff message input (Reply.attempt input name limits source).events broken.events := by
  obtain ⟨found, hf, said⟩ := h
  have fails : ∃ e ∈ (Reply.attempt input name limits source).events,
      decide (e.message = message) = true := ⟨found, hf, decide_eq_true said⟩
  obtain ⟨value, before, e, after, parts, passed, he, events⟩ :=
    Logged.guarded_of_exists (Reply.rescue input) fails
  refine ⟨congrArg Prod.fst value, before, e, after, .faulted input, parts, fun d hd => ?_,
    of_decide_eq_true he, events, Event.tellsFault_faulted input⟩
  exact of_decide_eq_false (passed d hd)

theorem rollReply_of_forall {message input name : String} {limits : Limits} {source : σ}
    (h : ∀ e ∈ (Reply.attempt input name limits source).events, e.message ≠ message) :
    rollReply (fun e => e.message = message) input name limits source =
      Reply.attempt input name limits source :=
  Logged.guarded_of_forall _ fun e he => decide_eq_false (h e he)

namespace Interaction.Calls

variable {i : Interaction} {message input name : String} {limits : Limits} {source : σ}

theorem dispatch_of_exists (h : i.Calls input name)
    (reported : ∃ e ∈ (Reply.attempt input name limits source).events, e.message = message) :
    let broken := i.dispatch (fun e => e.message = message) limits source
    broken.value.1 = .ok (.message Reply.apology) ∧
      BreaksOff message input (i.dispatch (fun _ => false) limits source).events broken.events := by
  obtain ⟨spelling, answer⟩ := h.dispatch_eq limits source
  obtain ⟨value, breaks⟩ := rollReply_of_exists reported
  obtain ⟨e, he, said⟩ := reported
  have outside : (Event.rollRequested spelling).message ≠ message := by
    rw [← said]
    exact (Event.message_ne_rollRequested (Reply.reports_attempt _ _ _ _ e he) spelling).symm
  rw [answer, answer, rollReply_of_never]
  refine ⟨?_, ?_⟩
  · simp [value]
  · simpa using breaks.cons outside

theorem dispatch_of_forall (h : i.Calls input name)
    (silent : ∀ e ∈ (i.dispatch (fun _ => false) limits source).events, e.message ≠ message) :
    i.dispatch (fun e => e.message = message) limits source =
      i.dispatch (fun _ => false) limits source := by
  obtain ⟨spelling, answer⟩ := h.dispatch_eq limits source
  rw [answer, rollReply_of_never] at silent
  rw [answer, answer, rollReply_of_never, rollReply_of_forall]
  intro e he
  exact silent e (by simp [he])

end Interaction.Calls

/-- **A fault is contained, and all or nothing is left of the reply.** -/
theorem fault_contained (message input name : String) (limits : Limits) (source : σ) :
    let faults : Event → Bool := fun e => e.message = message
    let whole := rollReply (fun _ => false) input name limits source
    let broken := rollReply faults input name limits source
    (∀ e ∈ whole.events, e.level ≠ .error) ∧
    ((∃ e ∈ whole.events, e.message = message) →
      broken.value.1 = Reply.apology ∧ BreaksOff message input whole.events broken.events) ∧
    ((∀ e ∈ whole.events, e.message ≠ message) → broken = whole) ∧
    ∀ i : Interaction, i.Calls input name →
      let wholeAnswer := i.dispatch (fun _ => false) limits source
      let brokenAnswer := i.dispatch faults limits source
      ((∃ e ∈ whole.events, e.message = message) →
        brokenAnswer.value.1 = .ok (.message Reply.apology) ∧
          BreaksOff message input wholeAnswer.events brokenAnswer.events) ∧
      ((∀ e ∈ wholeAnswer.events, e.message ≠ message) → brokenAnswer = wholeAnswer) := by
  intro faults whole broken
  have attempted : whole = Reply.attempt input name limits source := rollReply_of_never ..
  rw [attempted]
  refine ⟨fun e he => Event.level_ne_error (Reply.reports_attempt _ _ _ _ e he),
    rollReply_of_exists, rollReply_of_forall, fun i calls => ?_⟩
  exact ⟨calls.dispatch_of_exists, calls.dispatch_of_forall⟩

/-- The dice of `d20 adv` are rolled twice, and a fault at the first of them is not cut off at the
second. No event tells of a refusal. -/
theorem fault_contained_while_rolling :
    let i : Interaction :=
      { kind := 2, command := some { name := "Roll", options := [⟨"input", some "d20 adv"⟩] }
        member := none, user := some ⟨"will"⟩ }
    let source := Steps.startingAt 1 1
    let reply (message : String) :=
      rollReply (fun e => e.message = message) "d20 adv" "will" {} source
    let answer (message : String) := i.dispatch (fun e => e.message = message) {} source
    let whole := rollReply (fun _ => false) "d20 adv" "will" {} source
    let wholeAnswer := i.dispatch (fun _ => false) {} source
    (∃ e ∈ whole.events, e.message = "rolling") ∧
      (∀ e ∈ wholeAnswer.events, e.message ≠ "rejected roll input") ∧
      i.Calls "d20 adv" "will" ∧
      (reply "rolling").value.1 = Reply.apology ∧
      BreaksOff "rolling" "d20 adv" whole.events (reply "rolling").events ∧
      (answer "rolling").value.1 = .ok (.message Reply.apology) ∧
      BreaksOff "rolling" "d20 adv" wholeAnswer.events (answer "rolling").events ∧
      answer "rejected roll input" = wholeAnswer := by
  intro i source reply answer whole wholeAnswer
  have some : ∃ e ∈ whole.events, e.message = "rolling" := by
    have found : whole.events.any (fun e => e.message = "rolling") = true := by decide +kernel
    simpa using found
  have none : ∀ e ∈ wholeAnswer.events, e.message ≠ "rejected roll input" := by
    have found : wholeAnswer.events.all (fun e => e.message ≠ "rejected roll input") = true := by
      decide +kernel
    simpa using found
  have calls : i.Calls "d20 adv" "will" :=
    ⟨rfl, ⟨_, rfl, by decide +kernel, by decide +kernel⟩, by decide +kernel⟩
  obtain ⟨-, breaks, -, dispatched⟩ := fault_contained "rolling" "d20 adv" "will" {} source
  obtain ⟨value, events⟩ := breaks some
  obtain ⟨value', events'⟩ := (dispatched i calls).1 some
  obtain ⟨-, -, -, quiet⟩ := fault_contained "rejected roll input" "d20 adv" "will" {} source
  exact ⟨some, none, calls, value, events, value', events', (quiet i calls).2 none⟩

end ChatDice
