import SqlGateway.Session.Step

/-!
# Actions

An action is something to be done in a session. It changes the session piece by piece and ends
with a result or a fault; after a fault nothing more is done, apart from what is done in any case
(`Action.ensure`). Between two pieces it may have to wait: for a turn of its own, for the right to
open a pool, which one action has at a time, or for steps that it starts together.

`Action.runWith` carries an action out by itself, so it never waits. Its main laws say that a
sequence is carried out one part after the other (`runWith_bind`) and that a closing action runs
however the first one ended (`runWith_ensure`).
-/

namespace SqlGateway

/-- Where connections come from: a gateway that the caller supplied, which is open all the time, or
the server, whose pool is opened by the first lease. -/
inductive Backend where
  | supplied
  | server
  deriving DecidableEq, Repr

/-- The state of a session. -/
structure Session where
  settings : Settings
  backend : Backend
  script : Script := {}
  /-- How many connections have been leased so far. -/
  leased : Nat := 0
  /-- A pool of the server is held. -/
  holdsPool : Bool := false
  /-- An action has the right to open a pool. -/
  opening : Bool := false
  /-- What all actions so far have left behind. -/
  trace : Trace := {}

/-- Something to be done in a session. -/
inductive Action (α : Type) where
  /-- Nothing is left to be done. -/
  | ended (outcome : Except Fault α)
  /-- Changes the session, and goes on with the session as it was before. -/
  | act (change : Session → Session) (rest : Session → Action α)
  /-- Lets the others that are ready go first. -/
  | turn (rest : Action α)
  /-- Waits for the right to open a pool. -/
  | lock (rest : Action α)
  /-- Gives the right to open a pool back. -/
  | unlock (rest : Action α)
  /-- Starts steps together and waits for their outcomes. -/
  | together (steps : List Step) (rest : List Outcome → Action α)

namespace Action

/-- One action and, if it has a result, the next. -/
protected def bind {α β : Type} (x : Action α) (f : α → Action β) : Action β :=
  match x with
  | ended (.ok a) => f a
  | ended (.error e) => ended (.error e)
  | act change rest => act change fun s => (rest s).bind f
  | turn rest => turn (rest.bind f)
  | lock rest => lock (rest.bind f)
  | unlock rest => unlock (rest.bind f)
  | together steps rest => together steps fun outcomes => (rest outcomes).bind f

instance : Monad Action where
  pure a := ended (.ok a)
  bind := Action.bind

protected theorem bind_pure {α : Type} (x : Action α) :
    x.bind (fun a => ended (.ok a)) = x := by
  induction x with
  | ended outcome => cases outcome <;> rfl
  | act change rest ih => simp only [Action.bind, ih]
  | turn rest ih => simp only [Action.bind, ih]
  | lock rest ih => simp only [Action.bind, ih]
  | unlock rest ih => simp only [Action.bind, ih]
  | together steps rest ih => simp only [Action.bind, ih]

protected theorem bind_assoc {α β γ : Type} (x : Action α) (f : α → Action β)
    (g : β → Action γ) : (x.bind f).bind g = x.bind fun a => (f a).bind g := by
  induction x with
  | ended outcome => cases outcome <;> rfl
  | act change rest ih => simp only [Action.bind, ih]
  | turn rest ih => simp only [Action.bind, ih]
  | lock rest ih => simp only [Action.bind, ih]
  | unlock rest ih => simp only [Action.bind, ih]
  | together steps rest ih => simp only [Action.bind, ih]

instance : LawfulMonad Action :=
  LawfulMonad.mk' Action Action.bind_pure (fun _ _ => rfl) Action.bind_assoc

/-- The action with its outcome as the result. -/
def attempt {α : Type} (x : Action α) : Action (Except Fault α) :=
  match x with
  | ended outcome => ended (.ok outcome)
  | act change rest => act change fun s => (rest s).attempt
  | turn rest => turn rest.attempt
  | lock rest => lock rest.attempt
  | unlock rest => unlock rest.attempt
  | together steps rest => together steps fun outcomes => (rest outcomes).attempt

/-- Nothing but a fault. -/
def fail {α : Type} (f : Fault) : Action α := ended (.error f)

/-- A result or a fault that is known already. -/
def ofExcept {α : Type} (r : Except Fault α) : Action α := ended r

/-- The state of the session. -/
def session : Action Session := act id fun s => ended (.ok s)

/-- A change of the session. -/
def modify (f : Session → Session) : Action Unit := act f fun _ => ended (.ok ())

/-- Adds to the trace. -/
def leave (t : Trace) : Action Unit := modify fun s => { s with trace := s.trace ++ t }

/-- One event. -/
def emit (e : Event) : Action Unit := leave ⟨[e], []⟩

/-- One line of the log. -/
def log (line : Text) : Action Unit := leave ⟨[], [line]⟩

/-- Lets the others go first. -/
def giveWay : Action Unit := turn (ended (.ok ()))

/-- A fault of the server, if its script demands one. -/
def signal (error : Option Signal) : Action Unit :=
  match error with
  | none => ended (.ok ())
  | some s => fail (.signalled s)

/-- The action with its fault replaced by another. -/
def mapFault {α : Type} (f : Fault → Fault) (x : Action α) : Action α := do
  let outcome ← x.attempt
  ofExcept (outcome.mapError f)

/-- The action and, however it ends, the closing one. A fault of the closing action takes the
place of the outcome. -/
def ensure {α : Type} (x : Action α) (closing : Action Unit) : Action α := do
  let outcome ← x.attempt
  closing
  ofExcept outcome

/-- The action with the right to open a pool, which it gives back however it ends. -/
def exclusively {α : Type} (x : Action α) : Action α :=
  lock (x.ensure (unlock (ended (.ok ()))))

/-- The action with its outcome as the result, and what has been added to the trace from its
beginning to its end. -/
def capture {α : Type} (x : Action α) : Action (Except Fault α × Trace) := do
  let before ← session
  let outcome ← x.attempt
  let after ← session
  return (outcome, after.trace.since before.trace)

/-! ## Carrying out one action by itself -/

/-- How an action ended. -/
structure Run (α : Type) where
  outcome : Except Fault α
  session : Session

variable {α β : Type} (gather : List Step → Session → List Outcome × Session)

/-- What becomes of a session when the action is carried out by itself; `gather` tells what
becomes of it when steps are started together. -/
def runWith : Action α → Session → Run α
  | ended outcome, s => ⟨outcome, s⟩
  | act change rest, s => (rest s).runWith (change s)
  | turn rest, s => rest.runWith s
  | lock rest, s => rest.runWith { s with opening := true }
  | unlock rest, s => rest.runWith { s with opening := false }
  | together steps rest, s => (rest (gather steps s).1).runWith (gather steps s).2

@[simp] theorem runWith_ended (outcome : Except Fault α) (s : Session) :
    (ended outcome).runWith gather s = ⟨outcome, s⟩ := rfl

@[simp] theorem runWith_pure (a : α) (s : Session) :
    (pure a : Action α).runWith gather s = ⟨.ok a, s⟩ := rfl

@[simp] theorem runWith_session (s : Session) : session.runWith gather s = ⟨.ok s, s⟩ := rfl

@[simp] theorem runWith_modify (f : Session → Session) (s : Session) :
    (modify f).runWith gather s = ⟨.ok (), f s⟩ := rfl

@[simp] theorem runWith_emit (e : Event) (s : Session) :
    (emit e).runWith gather s = ⟨.ok (), { s with trace := s.trace ++ ⟨[e], []⟩ }⟩ := rfl

@[simp] theorem runWith_log (line : Text) (s : Session) :
    (log line).runWith gather s = ⟨.ok (), { s with trace := s.trace ++ ⟨[], [line]⟩ }⟩ := rfl

@[simp] theorem runWith_giveWay (s : Session) : giveWay.runWith gather s = ⟨.ok (), s⟩ := rfl

/-- A sequence is carried out one part after the other, up to the first fault. -/
theorem runWith_bind (x : Action α) (f : α → Action β) (s : Session) :
    (x >>= f).runWith gather s =
      match x.runWith gather s with
      | ⟨.ok a, s'⟩ => (f a).runWith gather s'
      | ⟨.error e, s'⟩ => ⟨.error e, s'⟩ := by
  change (x.bind f).runWith gather s = _
  induction x generalizing s with
  | ended outcome => cases outcome <;> rfl
  | act change rest ih => exact ih s (change s)
  | turn rest ih => exact ih s
  | lock rest ih => exact ih { s with opening := true }
  | unlock rest ih => exact ih { s with opening := false }
  | together steps rest ih => exact ih (gather steps s).1 (gather steps s).2

/-- An attempt changes the session as the action does and has its outcome as the result. -/
theorem runWith_attempt (x : Action α) (s : Session) :
    x.attempt.runWith gather s =
      ⟨.ok (x.runWith gather s).outcome, (x.runWith gather s).session⟩ := by
  induction x generalizing s with
  | ended outcome => rfl
  | act change rest ih => exact ih s (change s)
  | turn rest ih => exact ih s
  | lock rest ih => exact ih { s with opening := true }
  | unlock rest ih => exact ih { s with opening := false }
  | together steps rest ih => exact ih (gather steps s).1 (gather steps s).2

/-- The closing action runs in the session that the first one leaves, whatever its outcome, and
decides over the outcome if it has a fault. -/
theorem runWith_ensure (x : Action α) (closing : Action Unit) (s : Session) :
    (x.ensure closing).runWith gather s =
      match closing.runWith gather (x.runWith gather s).session with
      | ⟨.ok _, s'⟩ => ⟨(x.runWith gather s).outcome, s'⟩
      | ⟨.error e, s'⟩ => ⟨.error e, s'⟩ := by
  rw [ensure, runWith_bind, runWith_attempt]
  dsimp only
  rw [runWith_bind]
  cases closing.runWith gather (x.runWith gather s).session with
  | mk outcome s' => cases outcome <;> rfl

/-- Capturing never fails. It changes the session as the action does, and what it captures is the
outcome and what the trace has gained. -/
theorem runWith_capture (x : Action α) (s : Session) :
    x.capture.runWith gather s =
      ⟨.ok ((x.runWith gather s).outcome, (x.runWith gather s).session.trace.since s.trace),
        (x.runWith gather s).session⟩ := by
  rw [capture, runWith_bind, runWith_session]
  dsimp only
  rw [runWith_bind, runWith_attempt]
  rfl

end Action

end SqlGateway
