import ChatDice.Log.Event

/-!
# Logged computations

A computation that reports events before it gives its value. A collector takes the events one by one
and may fail at any of them; `guarded` is the computation that goes on with something else from
there. Main statements: `events_bind`, `value_bind` — one computation after another reports its
events after those of the first; `events_guarded`, `value_guarded` — a guarded computation reports
what it would have reported up to the first event that fails.
-/

namespace ChatDice

/-- A computation that reports events on its way to a value. -/
inductive Logged (α : Type)
  | done (value : α)
  | report (event : Event) (rest : Logged α)

namespace Logged

variable {α β : Type}

/-- Goes on with what `f` does with the value. -/
def andThen : Logged α → (α → Logged β) → Logged β
  | done value, f => f value
  | report event rest, f => report event (rest.andThen f)

instance : Monad Logged where
  pure := done
  bind := andThen

def emit (event : Event) : Logged Unit := report event (done ())

/-- The value that the computation gives. -/
def value : Logged α → α
  | done value => value
  | report _ rest => rest.value

/-- The events that the computation reports, in order. -/
def events : Logged α → List Event
  | done _ => []
  | report event rest => event :: rest.events

/-- The computation up to the first event at which the collector fails, that event included, and
then `rescue`. Without such an event it is the computation itself. -/
def guarded (fails : Event → Bool) (rescue : Logged α) : Logged α → Logged α
  | done value => done value
  | report event rest => report event (if fails event then rescue else guarded fails rescue rest)

/-- The events up to the first one that fails, that one included. -/
def cut (fails : Event → Bool) : List Event → List Event
  | [] => []
  | event :: rest => event :: if fails event then [] else cut fails rest

/-! ## Laws -/

@[simp] theorem value_pure (a : α) : (pure a : Logged α).value = a := rfl

@[simp] theorem events_pure (a : α) : (pure a : Logged α).events = [] := rfl

@[simp] theorem value_emit (event : Event) : (emit event).value = () := rfl

@[simp] theorem events_emit (event : Event) : (emit event).events = [event] := rfl

@[simp] theorem value_bind (x : Logged α) (f : α → Logged β) :
    (x >>= f).value = (f x.value).value := by
  induction x with
  | done => rfl
  | report _ _ ih => exact ih

@[simp] theorem events_bind (x : Logged α) (f : α → Logged β) :
    (x >>= f).events = x.events ++ (f x.value).events := by
  induction x with
  | done => rfl
  | report event _ ih => exact congrArg (event :: ·) ih

@[simp] theorem value_map (f : α → β) (x : Logged α) : (f <$> x).value = f x.value :=
  value_bind x (pure ∘ f)

@[simp] theorem events_map (f : α → β) (x : Logged α) : (f <$> x).events = x.events :=
  (events_bind x (pure ∘ f)).trans (List.append_nil _)

theorem eq_of_events_of_value {x y : Logged α} (he : x.events = y.events) (hv : x.value = y.value) :
    x = y := by
  induction x generalizing y with
  | done a =>
    cases y with
    | done b => exact congrArg done hv
    | report => simp [events] at he
  | report e x ih =>
    cases y with
    | done => simp [events] at he
    | report d y =>
      simp only [events, List.cons.injEq] at he
      rw [he.1, ih he.2 hv]

instance : LawfulMonad Logged := LawfulMonad.mk' Logged
  (by
    intro α x
    induction x with
    | done => rfl
    | report event _ ih => exact congrArg (report event) ih)
  (fun _ _ => rfl)
  (by
    intro α β γ x f g
    induction x with
    | done => rfl
    | report event _ ih => exact congrArg (report event) ih)

theorem guarded_never (rescue x : Logged α) : guarded (fun _ => false) rescue x = x := by
  induction x with
  | done => rfl
  | report event _ ih => exact congrArg (report event) ih

/-- A guarded computation reports its own events up to the first one that fails and then those of
the rescue, or all of its own. -/
theorem events_guarded (fails : Event → Bool) (rescue x : Logged α) :
    (guarded fails rescue x).events =
      if x.events.any fails then cut fails x.events ++ rescue.events else x.events := by
  induction x with
  | done => rfl
  | report event rest ih =>
    by_cases hf : fails event = true
    · simp [guarded, events, cut, hf]
    · have hf : fails event = false := by simpa using hf
      simp only [guarded, events, cut, hf, Bool.false_eq_true, ↓reduceIte, ih, List.any_cons,
        Bool.false_or]
      split <;> rfl

theorem value_guarded (fails : Event → Bool) (rescue x : Logged α) :
    (guarded fails rescue x).value = if x.events.any fails then rescue.value else x.value := by
  induction x with
  | done => rfl
  | report event rest ih =>
    by_cases hf : fails event = true
    · simp [guarded, value, events, hf]
    · simpa [guarded, value, events, hf] using ih

end Logged

end ChatDice
