import SqlGateway.Session.Perform

/-!
# Sessions with another password

The password of a session is shown by one event alone, the opening of a pool. So what is left
behind in a session with another password should be the image of what is left behind in this one:
the same, with the other password wherever a pool is opened (`Session.withPassword`,
`Answer.withPassword`).

One action follows another if it does to the image of a session what the other does to the session,
waits where the other one waits, and ends with the image of its outcome (`Action.Follows`). Every
step follows itself, however the steps in it are nested (`Step.perform_follows`).
-/

namespace SqlGateway

/-! ## Images -/

def Settings.withPassword (password : Value) (settings : Settings) : Settings :=
  { settings with password := password }

def Event.withPassword (password : Value) : Event → Event
  | .createPool settings => .createPool (settings.withPassword password)
  | e => e

def Trace.withPassword (password : Value) (t : Trace) : Trace :=
  { t with events := t.events.map (Event.withPassword password) }

def Session.withPassword (password : Value) (s : Session) : Session :=
  { s with
    settings := s.settings.withPassword password
    trace := s.trace.withPassword password }

section

variable (password : Value) (s : Session)

@[simp] theorem Session.withPassword_backend : (s.withPassword password).backend = s.backend := rfl

@[simp] theorem Session.withPassword_script : (s.withPassword password).script = s.script := rfl

@[simp] theorem Session.withPassword_leased : (s.withPassword password).leased = s.leased := rfl

@[simp] theorem Session.withPassword_holdsPool :
    (s.withPassword password).holdsPool = s.holdsPool := rfl

@[simp] theorem Session.withPassword_connectTimeout :
    (s.withPassword password).settings.connectTimeout = s.settings.connectTimeout := rfl

end

mutual

/-- The reply with the password wherever the answers in it tell of the opening of a pool. -/
def Reply.withPassword (password : Value) : Reply → Reply
  | .block connection answers => .block connection (Answer.withPasswordAll password answers)
  | .gathered outcomes => .gathered (Outcome.withPasswordAll password outcomes)
  | r => r
termination_by structural r => r

def Answer.withPassword (password : Value) : Answer → Answer
  | .silent => .silent
  | .seen outcome trace =>
    .seen (Outcome.withPassword password outcome) (trace.withPassword password)
termination_by structural a => a

/-- A fault never shows the password. -/
def Outcome.withPassword (password : Value) : Except Fault Reply → Except Fault Reply
  | .error f => .error f
  | .ok r => .ok (r.withPassword password)
termination_by structural outcome => outcome

def Answer.withPasswordAll (password : Value) : List Answer → List Answer
  | [] => []
  | a :: rest => a.withPassword password :: Answer.withPasswordAll password rest
termination_by structural answers => answers

def Outcome.withPasswordAll (password : Value) :
    List (Except Fault Reply) → List (Except Fault Reply)
  | [] => []
  | outcome :: rest =>
    Outcome.withPassword password outcome :: Outcome.withPasswordAll password rest
termination_by structural outcomes => outcomes

end

section

variable (password : Value)

theorem Outcome.withPassword_eq (outcome : Outcome) :
    Outcome.withPassword password outcome = outcome.map (Reply.withPassword password) := by
  cases outcome <;> rfl

theorem Answer.withPasswordAll_eq (answers : List Answer) :
    Answer.withPasswordAll password answers = answers.map (Answer.withPassword password) := by
  induction answers with
  | nil => rfl
  | cons a rest ih => rw [Answer.withPasswordAll, ih, List.map_cons]

theorem Outcome.withPasswordAll_eq (outcomes : List Outcome) :
    Outcome.withPasswordAll password outcomes =
      outcomes.map (Except.map (Reply.withPassword password)) := by
  induction outcomes with
  | nil => rfl
  | cons outcome rest ih =>
    rw [Outcome.withPasswordAll, ih, List.map_cons, Outcome.withPassword_eq]

theorem Trace.withPassword_append (t u : Trace) :
    (t ++ u).withPassword password = t.withPassword password ++ u.withPassword password := by
  rw [withPassword, Trace.events_append, List.map_append]
  rfl

theorem Trace.withPassword_since (t earlier : Trace) :
    (t.withPassword password).since (earlier.withPassword password) =
      (t.since earlier).withPassword password := by
  simp only [since, withPassword, List.length_map, List.map_drop]

theorem Step.answer_withPassword (step : Step) (outcome : Outcome) (t : Trace) :
    step.answer (outcome.map (Reply.withPassword password), t.withPassword password) =
      (step.answer (outcome, t)).withPassword password := by
  unfold answer
  cases step.isSilent with
  | true => rfl
  | false => simp only [Bool.false_eq_true, if_false, Answer.withPassword, Outcome.withPassword_eq]

end

/-! ## Actions that follow -/

/-- The second action does to the image of a session what the first one does to the session, and its
outcome is the image of the other one. -/
inductive Action.Follows (password : Value) {α β : Type} (image : α → β) :
    Action α → Action β → Prop
  | ended {outcome : Except Fault α} {outcome' : Except Fault β} :
      outcome' = outcome.map image →
      Action.Follows password image (.ended outcome) (.ended outcome')
  | act {change change' : Session → Session} {rest : Session → Action α}
      {rest' : Session → Action β} :
      (∀ s, change' (s.withPassword password) = (change s).withPassword password) →
      (∀ s, Action.Follows password image (rest s) (rest' (s.withPassword password))) →
      Action.Follows password image (.act change rest) (.act change' rest')
  | turn {rest : Action α} {rest' : Action β} : Action.Follows password image rest rest' →
      Action.Follows password image (.turn rest) (.turn rest')
  | lock {rest : Action α} {rest' : Action β} : Action.Follows password image rest rest' →
      Action.Follows password image (.lock rest) (.lock rest')
  | unlock {rest : Action α} {rest' : Action β} : Action.Follows password image rest rest' →
      Action.Follows password image (.unlock rest) (.unlock rest')
  | together {steps : List Step} {rest : List Outcome → Action α}
      {rest' : List Outcome → Action β} :
      (∀ outcomes, Action.Follows password image (rest outcomes)
        (rest' (outcomes.map (Except.map (Reply.withPassword password))))) →
      Action.Follows password image (.together steps rest) (.together steps rest')

namespace Action

variable {password : Value} {α α' β β' : Type} {image : α → α'} {next : β → β'}

theorem Follows.bind {x : Action α} {x' : Action α'} (hx : x.Follows password image x')
    {f : α → Action β} {f' : α' → Action β'}
    (hf : ∀ a, (f a).Follows password next (f' (image a))) :
    (x >>= f).Follows password next (x' >>= f') := by
  change (x.bind f).Follows password next (x'.bind f')
  induction hx with
  | @ended outcome outcome' heq =>
    subst heq
    cases outcome with
    | error e => exact .ended rfl
    | ok a => exact hf a
  | act hchange _ ih => exact .act hchange ih
  | turn _ ih => exact .turn ih
  | lock _ ih => exact .lock ih
  | unlock _ ih => exact .unlock ih
  | together _ ih => exact .together ih

theorem Follows.attempt {x : Action α} {x' : Action α'} (hx : x.Follows password image x') :
    x.attempt.Follows password (Except.map image) x'.attempt := by
  induction hx with
  | ended heq => exact .ended (congrArg Except.ok heq)
  | act hchange _ ih => exact .act hchange ih
  | turn _ ih => exact .turn ih
  | lock _ ih => exact .lock ih
  | unlock _ ih => exact .unlock ih
  | together _ ih => exact .together ih

theorem follows_ofExcept (outcome : Except Fault α) :
    (ofExcept outcome).Follows password image (ofExcept (outcome.map image)) := .ended rfl

/-- A result that does not show the password is its own image. -/
theorem follows_same (outcome : Except Fault α) :
    (ofExcept outcome).Follows password id (ofExcept outcome) := by
  cases outcome <;> exact .ended rfl

theorem follows_pure (a : α) : (pure a : Action α).Follows password image (pure (image a)) :=
  .ended rfl

theorem Follows.map {x : Action α} {x' : Action α'} (hx : x.Follows password image x')
    {f : α → β} {f' : α' → β'} (hf : ∀ a, f' (image a) = next (f a)) :
    (f <$> x).Follows password next (f' <$> x') := by
  rw [← bind_pure_comp, ← bind_pure_comp]
  refine hx.bind fun a => ?_
  rw [hf]
  exact follows_pure _

theorem Follows.mapFault {x : Action α} {x' : Action α'} (hx : x.Follows password image x')
    (f : Fault → Fault) : (x.mapFault f).Follows password image (x'.mapFault f) := by
  refine hx.attempt.bind fun outcome => .ended ?_
  cases outcome <;> rfl

theorem Follows.ensure {x : Action α} {x' : Action α'} (hx : x.Follows password image x')
    {closing closing' : Action Unit} (hclosing : closing.Follows password id closing') :
    (x.ensure closing).Follows password image (x'.ensure closing') :=
  hx.attempt.bind fun outcome => hclosing.bind fun _ => follows_ofExcept outcome

theorem Follows.exclusively {x : Action α} {x' : Action α'} (hx : x.Follows password image x') :
    x.exclusively.Follows password image x'.exclusively :=
  .lock (hx.ensure (.unlock (.ended rfl)))

theorem follows_session : session.Follows password (Session.withPassword password) session :=
  .act (fun _ => rfl) fun _ => .ended rfl

theorem follows_modify {f f' : Session → Session}
    (h : ∀ s, f' (s.withPassword password) = (f s).withPassword password) :
    (modify f).Follows password id (modify f') := .act h fun _ => .ended rfl

theorem follows_leave (t : Trace) :
    (leave t).Follows password id (leave (t.withPassword password)) := by
  refine follows_modify fun s => ?_
  simp only [Session.withPassword, Trace.withPassword_append]

theorem follows_emit (e : Event) :
    (emit e).Follows password id (emit (e.withPassword password)) := follows_leave ⟨[e], []⟩

theorem follows_log (line : Text) : (log line).Follows password id (log line) :=
  follows_leave ⟨[], [line]⟩

theorem follows_giveWay : giveWay.Follows password id giveWay := .turn (.ended rfl)

theorem follows_signal (error : Option Signal) :
    (signal error).Follows password id (signal error) := by
  cases error <;> exact .ended rfl

theorem follows_fail (f : Fault) : (fail f : Action α).Follows password image (fail f) := .ended rfl

theorem Follows.capture {x : Action α} {x' : Action α'} (hx : x.Follows password image x') :
    x.capture.Follows password (Prod.map (Except.map image) (Trace.withPassword password))
      x'.capture := by
  refine follows_session.bind fun before => hx.attempt.bind fun outcome =>
    follows_session.bind fun after => ?_
  change (pure _ : Action _).Follows _ _ (pure (_, (after.trace.withPassword password).since
    (before.trace.withPassword password)))
  rw [Trace.withPassword_since]
  exact follows_pure _

end Action

/-! ## The gateway -/

namespace Gateway

open SqlGateway.Action

variable {password : Value}

theorem follows_hold (b : Bool) : (Action.modify fun s => { s with holdsPool := b }).Follows
    password id (Action.modify fun s => { s with holdsPool := b }) := follows_modify fun _ => rfl

theorem follows_count (n : Nat) : (Action.modify fun s => { s with leased := n }).Follows
    password id (Action.modify fun s => { s with leased := n }) := follows_modify fun _ => rfl

/-- The password is handed to the server, and what else is done does not depend on it. -/
theorem openPool_follows : openPool.Follows password id openPool := by
  refine follows_session.bind fun s => ?_
  rw [Session.withPassword_connectTimeout]
  cases Patience.ofValue s.settings.connectTimeout with
  | fails cause detail => exact follows_fail _
  | expired =>
    exact follows_giveWay.bind fun _ => follows_giveWay.bind fun _ => follows_giveWay.bind fun _ =>
      follows_fail _
  | waits =>
    refine follows_giveWay.bind fun _ => follows_session.bind fun asked =>
      (follows_emit _).bind fun _ => follows_giveWay.bind fun _ => follows_giveWay.bind fun _ => ?_
    rw [Session.withPassword_script]
    cases asked.script.createError with
    | some signal => exact follows_fail _
    | none => exact (follows_hold true).bind fun _ => follows_log (openedLine s.settings)

theorem openPoolIfNone_follows : openPoolIfNone.Follows password id openPoolIfNone := by
  refine follows_session.bind fun s => ?_
  rw [Session.withPassword_holdsPool]
  split
  · exact follows_pure ()
  · exact openPool_follows

theorem ensurePool_follows : ensurePool.Follows password id ensurePool := by
  refine follows_session.bind fun s => ?_
  rw [Session.withPassword_backend, Session.withPassword_holdsPool]
  cases s.backend with
  | supplied => exact follows_pure ()
  | server =>
    dsimp only
    split
    · exact follows_pure ()
    · exact openPoolIfNone_follows.exclusively

theorem acquire_follows : acquire.Follows password id acquire := by
  refine ensurePool_follows.bind fun _ => follows_session.bind fun s => ?_
  rw [Session.withPassword_script, Session.withPassword_leased]
  exact (follows_signal s.script.acquireError).bind fun _ =>
    (follows_count (s.leased + 1)).bind fun _ =>
      (follows_emit (.acquire (s.leased + 1))).bind fun _ => follows_pure (s.leased + 1)

theorem release_follows (n : Nat) : (release n).Follows password id (release n) := by
  refine follows_session.bind fun s => ?_
  rw [Session.withPassword_backend, Session.withPassword_holdsPool, Session.withPassword_script]
  cases s.backend with
  | supplied =>
    exact (follows_emit (.release n)).bind fun _ => follows_signal s.script.releaseError
  | server =>
    dsimp only
    split
    · exact (follows_emit (.release n)).bind fun _ =>
        (follows_signal s.script.releaseError).bind fun _ => follows_giveWay.bind fun _ =>
          (follows_emit .wakeUp).bind fun _ => follows_giveWay
    · exact follows_emit (.closeConnection n)

theorem executeOnServer_follows (n : Nat) (sql : Text) (parameters : Value) :
    (executeOnServer n sql parameters).Follows password id (executeOnServer n sql parameters) := by
  refine follows_session.bind fun s => ?_
  rw [Session.withPassword_script]
  refine Follows.ensure ?_ (follows_emit (.closeCursor n))
  refine (follows_emit (.execute n sql parameters)).bind fun _ =>
    (follows_signal s.script.executeError).bind fun _ => ?_
  split
  · exact (follows_emit (.fetchAll n)).bind fun _ => follows_pure (answer s.script sql)
  · exact follows_pure (answer s.script sql)

theorem execute_follows (n : Nat) (sql : Text) (parameters : Value) :
    (execute n sql parameters).Follows password id (execute n sql parameters) := by
  refine follows_session.bind fun s => ?_
  rw [Session.withPassword_backend, Session.withPassword_script]
  cases s.backend with
  | supplied =>
    exact (follows_emit (.execute n sql parameters)).bind fun _ =>
      (follows_signal s.script.executeError).bind fun _ => follows_pure (answer s.script sql)
  | server => exact executeOnServer_follows n sql parameters

theorem shutdown_follows : shutdown.Follows password id shutdown := by
  refine follows_session.bind fun s => ?_
  rw [Session.withPassword_backend, Session.withPassword_holdsPool, Session.withPassword_script]
  cases s.backend with
  | supplied => exact (follows_emit .shutdown).bind fun _ => follows_signal s.script.shutdownError
  | server =>
    dsimp only
    split
    · exact (follows_emit .closePool).bind fun _ => (follows_emit .waitClosed).bind fun _ =>
        (follows_signal s.script.shutdownError).bind fun _ =>
          (follows_hold false).bind fun _ => follows_log _
    · exact follows_pure ()

end Gateway

/-! ## Steps -/

namespace Pool

open SqlGateway.Action

variable {password : Value}

theorem withConnection_follows {α α' : Type} {image : α → α'} {body : Nat → Action α}
    {body' : Nat → Action α'} (h : ∀ n, (body n).Follows password image (body' n)) :
    (withConnection body).Follows password image (withConnection body') :=
  (Gateway.acquire_follows.mapFault _).bind fun n => (h n).ensure (Gateway.release_follows n)

theorem query_follows (sql : Text) (parameters : Value) :
    (query sql parameters).Follows password id (query sql parameters) :=
  withConnection_follows fun n => (follows_log _).bind fun _ =>
    Gateway.execute_follows n sql parameters

/-- A statement is built for the zone of the session, which the password has nothing to do with. -/
theorem queryBuilt_follows (build : ZoneChoice → Except Fault Text) :
    (queryBuilt build).Follows password id (queryBuilt build) :=
  follows_session.bind fun s => (follows_same (build s.settings.zone)).bind fun sql =>
    query_follows sql .null

theorem selectOne_follows (table fields condition tail : Value) :
    (selectOne table fields condition tail).Follows password id
      (selectOne table fields condition tail) :=
  (queryBuilt_follows _).bind fun result => follows_same (firstRow result)

theorem literal_follows (v : Value) : (literal v).Follows password id (literal v) :=
  follows_session.bind fun s => follows_same (Sql.Literal.ofValue s.settings.zone false v)

end Pool

namespace Step

open SqlGateway.Action

variable {password : Value}

theorem follows_change (changes : List ScriptChange) :
    (Action.modify fun s => { s with script := changes.foldl Script.change s.script }).Follows
      password id
      (Action.modify fun s => { s with script := changes.foldl Script.change s.script }) :=
  follows_modify fun _ => rfl

mutual

/-- Every step follows itself. -/
theorem perform_follows : ∀ step : Step,
    step.perform.Follows password (Reply.withPassword password) step.perform
  | .change changes => by
    rw [perform]
    exact (follows_change changes).bind fun _ => follows_pure Reply.nothing
  | .query sql parameters => by
    rw [perform]
    exact (Pool.query_follows sql parameters).map fun _ => rfl
  | .insert .. | .update .. | .delete .. | .select .. => by
    rw [perform]
    exact (Pool.queryBuilt_follows _).map fun _ => rfl
  | .selectOne .. => by
    rw [perform]
    exact (Pool.selectOne_follows ..).map fun row => by cases row <;> rfl
  | .literal v => by
    rw [perform]
    exact (Pool.literal_follows v).map fun _ => rfl
  | .timestamp now => by
    rw [perform]
    exact (follows_same (Clock.seconds now)).map fun _ => rfl
  | .shutdown => by
    rw [perform]
    exact Gateway.shutdown_follows.bind fun _ => follows_pure Reply.nothing
  | .withConnection steps raised => by
    rw [perform]
    refine Pool.withConnection_follows fun n => (performAll_follows steps).bind fun answers =>
      (follows_signal raised).bind fun _ => ?_
    rw [← Answer.withPasswordAll_eq]
    exact follows_pure (Reply.block n answers)
  | .acquire => by
    rw [perform]
    exact Gateway.acquire_follows.map fun _ => rfl
  | .release n => by
    rw [perform]
    exact (Gateway.release_follows n).bind fun _ => follows_pure Reply.nothing
  | .execute n sql parameters => by
    rw [perform]
    exact (Gateway.execute_follows n sql parameters).map fun _ => rfl
  | .together steps => by
    rw [perform]
    refine .together fun outcomes => ?_
    rw [← Outcome.withPasswordAll_eq]
    exact .ended rfl
  | .faulty f => by
    rw [perform]
    exact follows_fail f
termination_by structural step => step

/-- So do steps in a row. -/
theorem performAll_follows : ∀ steps : List Step,
    (performAll steps).Follows password (List.map (Answer.withPassword password))
      (performAll steps)
  | [] => by
    rw [performAll]
    exact follows_pure []
  | step :: rest => by
    rw [performAll]
    refine (perform_follows step).capture.bind fun ended => (performAll_follows rest).bind
      fun answers => ?_
    rw [Prod.map, answer_withPassword, ← List.map_cons]
    exact follows_pure _
termination_by structural steps => steps

end

end Step

/-! ## Carrying out an action that follows -/

/-- If steps that are started together end in the image of a session with the images of their
outcomes, an action that follows another ends with the image of its outcome and leaves the image
of its session. -/
theorem Action.Follows.runWith {password : Value} {α β : Type} {image : α → β}
    {gather : List Step → Session → List Outcome × Session}
    (hgather : ∀ steps s, gather steps (s.withPassword password) =
      ((gather steps s).1.map (Except.map (Reply.withPassword password)),
        (gather steps s).2.withPassword password))
    {x : Action α} {x' : Action β} (h : x.Follows password image x') (s : Session) :
    x'.runWith gather (s.withPassword password) =
      ⟨(x.runWith gather s).outcome.map image,
        (x.runWith gather s).session.withPassword password⟩ := by
  induction h generalizing s with
  | ended heq =>
    subst heq
    rfl
  | @act change change' rest rest' hchange _ ih =>
    rw [Action.runWith, hchange]
    exact ih s (change s)
  | turn _ ih => exact ih s
  | lock _ ih => exact ih { s with opening := true }
  | unlock _ ih => exact ih { s with opening := false }
  | @together steps rest rest' _ ih =>
    rw [Action.runWith, hgather]
    exact ih (gather steps s).1 (gather steps s).2

end SqlGateway
