import ChatDice.Limits
import ChatDice.Log.Basic

/-!
# Steps of play

A session is a source of dice with a limit. A step of play takes dice from the source, counts them,
reports events, and may be refused; what it has counted and taken by then stands in any case. Main
statement: `value_run_bind` — after a refusal nothing more is played.
-/

namespace ChatDice

/-- A source of dice with a limit. -/
structure Session (σ : Type) where
  /-- The most dice that one request may roll. -/
  maxRolls : Option Nat
  /-- The dice counted since the latest request came in. -/
  rolls : Nat
  source : σ
deriving DecidableEq

namespace Session

variable {σ : Type}

def start (maxRolls : Option Nat) (source : σ) : Session σ := { maxRolls, rolls := 0, source }

/-- The session after `n` more dice were counted; the count stops at the greatest number. -/
def charged (s : Session σ) (n : Nat) : Session σ :=
  { s with rolls := min (s.rolls + n) maxCount }

@[simp] theorem source_charged (s : Session σ) (n : Nat) : (s.charged n).source = s.source := rfl

@[simp] theorem maxRolls_charged (s : Session σ) (n : Nat) :
    (s.charged n).maxRolls = s.maxRolls := rfl

/-- The limit, if the count is beyond it. -/
def exceeded? (s : Session σ) : Option Nat := s.maxRolls.filter (· < s.rolls)

end Session

/-- A step of play: from a session, it gives a value or a refusal, and the session after it. -/
def Play (σ α : Type) : Type := Session σ → Logged (Except Refusal α × Session σ)

namespace Play

variable {σ α β : Type}

def run (x : Play σ α) (s : Session σ) : Logged (Except Refusal α × Session σ) := x s

/-- Goes on with what `f` does with the value, unless the step is refused. -/
def andThen (x : Play σ α) (f : α → Play σ β) : Play σ β := fun s => do
  match ← x s with
  | (.ok a, s) => f a s
  | (.error why, s) => return (.error why, s)

instance : Monad (Play σ) where
  pure a := fun s => return (.ok a, s)
  bind := andThen

def report (event : Event) : Play σ Unit := fun s => do
  Logged.emit event
  return (.ok (), s)

/-- Counts `n` dice and refuses if they are too many. -/
def charge (n : Nat) : Play σ Unit := fun s =>
  let answer := match (s.charged n).exceeded? with
    | some limit => .error (.tooManyRolls limit)
    | none => .ok ()
  return (answer, s.charged n)

/-- The number of dice counted so far. -/
def counted : Play σ Nat := fun s => return (.ok s.rolls, s)

/-- Takes from the source what `draw` takes. -/
def take (draw : σ → α × σ) : Play σ α := fun s =>
  return (.ok (draw s.source).1, { s with source := (draw s.source).2 })

@[simp] theorem run_pure (a : α) (s : Session σ) :
    (pure a : Play σ α).run s = pure (.ok a, s) := rfl

theorem run_bind (x : Play σ α) (f : α → Play σ β) (s : Session σ) :
    (x >>= f).run s = x.run s >>= fun p =>
      match p with
      | (.ok a, s) => (f a).run s
      | (.error why, s) => pure (.error why, s) := rfl

@[simp] theorem run_report (event : Event) (s : Session σ) :
    (report event).run s = Logged.emit event >>= fun _ => pure (.ok (), s) := rfl

@[simp] theorem run_counted (s : Session σ) : counted.run s = pure (.ok s.rolls, s) := rfl

@[simp] theorem run_take (draw : σ → α × σ) (s : Session σ) :
    (take draw).run s = pure (.ok (draw s.source).1, { s with source := (draw s.source).2 }) := rfl

/-- Counting is refused just if it takes the count beyond the limit. -/
theorem run_charge (n : Nat) (s : Session σ) :
    (charge n).run s = pure
      (match (s.charged n).exceeded? with
        | some limit => .error (.tooManyRolls limit)
        | none => .ok (), s.charged n) := rfl

/-- What a step after another gives: nothing of the second if the first is refused. -/
theorem value_run_bind (x : Play σ α) (f : α → Play σ β) (s : Session σ) :
    ((x >>= f).run s).value =
      match (x.run s).value with
      | (.ok a, s) => ((f a).run s).value
      | (.error why, s) => (.error why, s) := by
  rw [run_bind, Logged.value_bind]
  obtain ⟨a | a, t⟩ := (x.run s).value <;> rfl

instance : LawfulMonad (Play σ) := LawfulMonad.mk' (Play σ)
  (by
    intro α x
    funext s
    show (x s >>= fun p => _) = x s
    refine Eq.trans (congrArg _ (funext fun p => ?_)) (bind_pure (x s))
    obtain ⟨a | a, s⟩ := p <;> rfl)
  (fun _ _ => rfl)
  (by
    intro α β γ x f g
    funext s
    show (x s >>= _) >>= _ = x s >>= _
    rw [bind_assoc]
    refine congrArg _ (funext fun p => ?_)
    obtain ⟨a | a, s⟩ := p <;> rfl)

end Play

end ChatDice
