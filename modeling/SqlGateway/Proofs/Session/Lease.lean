import SqlGateway.Proofs.Outcome
import SqlGateway.Proofs.Session.Bracket
import SqlGateway.Session.Crew

/-!
# No lease is lost

Whatever errors the script demands and however blocks are nested, the events of a session are
bracketed leases, and when a step of the session has ended none is outstanding
(`Step.performAll_bracketed`). This is said of steps that are carried out one after the other and
that run statements of their own only on connections that are held (`Step.OnLease`). Steps that are
started together take turns, so their leases are not nested.

What an action does to the events is a relation between the session before and after it: `Calm` if
it leases nothing and uses no connection, `Held` if it adds a word of leases while the connections
of a scope are held. Both are closed under doing one thing after another, so each part of the
gateway is looked at once. The lease itself is `withConnection_held`.
-/

namespace SqlGateway

namespace Trace

theorem append_assoc (t u v : Trace) : t ++ u ++ v = t ++ (u ++ v) :=
  congrArg₂ Trace.mk (List.append_assoc ..) (List.append_assoc ..)

/-- Events one after the other. -/
theorem append_cons (t : Trace) (e : Event) (es : List Event) (lines : List Text) :
    t ++ ⟨e :: es, lines⟩ = t ++ ⟨[e], []⟩ ++ ⟨es, lines⟩ :=
  (append_assoc t ⟨[e], []⟩ ⟨es, lines⟩).symm

theorem append_empty (t : Trace) : t ++ ⟨[], []⟩ = t :=
  congrArg₂ Trace.mk (List.append_nil _) (List.append_nil _)

end Trace

/-! ## Actions in a row -/

namespace Action

variable {α β : Type}

theorem run_bind (x : Action α) (f : α → Action β) (s : Session) :
    (x >>= f).run s =
      match x.run s with
      | ⟨.ok a, s'⟩ => (f a).run s'
      | ⟨.error e, s'⟩ => ⟨.error e, s'⟩ := runWith_bind Crew.gather x f s

theorem run_session (f : Session → Action α) (s : Session) :
    (session >>= f).run s = (f s).run s := rfl

theorem run_signal (error : Option Signal) (s : Session) : ((signal error).run s).session = s := by
  cases error <;> rfl

theorem run_mapFault (f : Fault → Fault) (x : Action α) (s : Session) :
    (x.mapFault f).run s = ⟨(x.run s).outcome.mapError f, (x.run s).session⟩ := by
  rw [mapFault, run_bind, run, runWith_attempt]
  rfl

theorem run_capture (x : Action α) (s : Session) :
    x.capture.run s =
      ⟨.ok ((x.run s).outcome, (x.run s).session.trace.since s.trace), (x.run s).session⟩ :=
  runWith_capture Crew.gather x s

theorem session_map (f : α → β) (x : Action α) (s : Session) :
    ((f <$> x).run s).session = (x.run s).session := by
  rw [← bind_pure_comp, run_bind]
  cases x.run s with
  | mk outcome s' => cases outcome <;> rfl

theorem run_ensure (x : Action α) (closing : Action Unit) (s : Session) :
    (x.ensure closing).run s =
      match closing.run (x.run s).session with
      | ⟨.ok _, s'⟩ => ⟨(x.run s).outcome, s'⟩
      | ⟨.error e, s'⟩ => ⟨.error e, s'⟩ := runWith_ensure Crew.gather x closing s

theorem session_ensure (x : Action α) (closing : Action Unit) (s : Session) :
    ((x.ensure closing).run s).session = (closing.run (x.run s).session).session := by
  rw [run_ensure]
  cases closing.run (x.run s).session with
  | mk outcome s' => cases outcome <;> rfl

/-- What holds between a session and itself, and of one thing after another, holds of a sequence if
it holds of its parts. -/
theorem related_bind {R : Session → Session → Prop}
    (htrans : ∀ {s₁ s₂ s₃}, R s₁ s₂ → R s₂ s₃ → R s₁ s₃) {x : Action α} {f : α → Action β}
    {s : Session} (hx : R s (x.run s).session)
    (hf : ∀ a, (x.run s).outcome = .ok a →
      R (x.run s).session ((f a).run (x.run s).session).session) :
    R s ((x >>= f).run s).session := by
  rw [run_bind]
  cases hrun : x.run s with
  | mk outcome s' =>
    rw [hrun] at hx hf
    cases outcome with
    | error e => exact hx
    | ok a => exact htrans hx (hf a rfl)

end Action

/-! ## Without leases -/

namespace Session

/-- The later session has seen events of the pool and nothing else, and no lease. -/
def Calm (s s' : Session) : Prop :=
  s'.backend = s.backend ∧ s'.leased = s.leased ∧
    ∃ es, s'.trace.events = s.trace.events ++ es ∧ ∀ e ∈ es, e.isQuiet = true

/-- The later session has seen a word of leases while the connections of the scope were held. -/
def Held (scope : List Nat) (s s' : Session) : Prop :=
  s'.backend = s.backend ∧
    ∃ es, s'.trace.events = s.trace.events ++ es ∧
      LeaseWord s.backend scope s.leased es s'.leased

theorem Calm.refl (s : Session) : Calm s s := ⟨rfl, rfl, [], (List.append_nil _).symm, nofun⟩

theorem Calm.trans {s₁ s₂ s₃ : Session} (h : Calm s₁ s₂) (h' : Calm s₂ s₃) : Calm s₁ s₃ := by
  obtain ⟨hbackend, hleased, es, hes, hquiet⟩ := h
  obtain ⟨hbackend', hleased', es', hes', hquiet'⟩ := h'
  refine ⟨hbackend'.trans hbackend, hleased'.trans hleased, es ++ es', ?_, fun e he => ?_⟩
  · rw [hes', hes, List.append_assoc]
  · rcases List.mem_append.mp he with he | he
    · exact hquiet e he
    · exact hquiet' e he

theorem Calm.held {s s' : Session} (h : Calm s s') (scope : List Nat) : Held scope s s' := by
  obtain ⟨hbackend, hleased, es, hes, hquiet⟩ := h
  refine ⟨hbackend, es, hes, ?_⟩
  rw [hleased]
  exact .of_quiet hquiet

theorem Held.trans {scope : List Nat} {s₁ s₂ s₃ : Session} (h : Held scope s₁ s₂)
    (h' : Held scope s₂ s₃) : Held scope s₁ s₃ := by
  obtain ⟨hbackend, es, hes, hword⟩ := h
  obtain ⟨hbackend', es', hes', hword'⟩ := h'
  rw [hbackend] at hword'
  refine ⟨hbackend'.trans hbackend, es ++ es', ?_, hword.append hword'⟩
  rw [hes', hes, List.append_assoc]

end Session

open Session

namespace Action

variable {α β : Type} {s : Session}

theorem calm_bind {x : Action α} {f : α → Action β} (hx : Calm s (x.run s).session)
    (hf : ∀ a, (x.run s).outcome = .ok a →
      Calm (x.run s).session ((f a).run (x.run s).session).session) :
    Calm s ((x >>= f).run s).session :=
  related_bind (R := Calm) Calm.trans hx hf

/-- A sequence that begins by looking at the session. -/
theorem calm_session {f : Session → Action β} (hf : Calm s ((f s).run s).session) :
    Calm s ((session >>= f).run s).session :=
  calm_bind (Calm.refl s) fun a ha => by
    cases ha
    exact hf

theorem calm_emit {e : Event} (he : e.isQuiet = true) (s : Session) :
    Calm s ((emit e).run s).session := by
  refine ⟨rfl, rfl, [e], rfl, fun f hf => ?_⟩
  obtain rfl := List.mem_singleton.mp hf
  exact he

theorem calm_log (line : Text) (s : Session) : Calm s ((log line).run s).session :=
  ⟨rfl, rfl, [], rfl, nofun⟩

theorem calm_signal (error : Option Signal) (s : Session) :
    Calm s ((signal error).run s).session := by
  rw [run_signal]
  exact Calm.refl s

theorem calm_exclusively {x : Action α} (hx : ∀ s, Calm s (x.run s).session) (s : Session) :
    Calm s (x.exclusively.run s).session := by
  have hrun : (x.exclusively.run s).session =
      ((x.ensure (unlock (ended (.ok ())))).run { s with opening := true }).session := rfl
  rw [hrun, session_ensure]
  have hopen : Calm s { s with opening := true } := ⟨rfl, rfl, [], (List.append_nil _).symm, nofun⟩
  exact (hopen.trans (hx _)).trans ⟨rfl, rfl, [], (List.append_nil _).symm, nofun⟩

end Action

namespace Gateway

open SqlGateway.Action

theorem calm_openPool (s : Session) : Calm s (openPool.run s).session := by
  refine calm_session ?_
  split
  · exact Calm.refl s
  · exact Calm.refl s
  · refine calm_bind (Calm.refl s) fun _ _ => calm_session ?_
    refine calm_bind (calm_emit rfl _) fun _ _ => calm_bind (Calm.refl _) fun _ _ =>
      calm_bind (Calm.refl _) fun _ _ => ?_
    split
    · exact Calm.refl _
    · refine calm_bind ⟨rfl, rfl, [], (List.append_nil _).symm, nofun⟩ fun _ _ => calm_log _ _

theorem calm_ensurePool (s : Session) : Calm s (ensurePool.run s).session := by
  refine calm_session ?_
  split
  · exact Calm.refl s
  · split
    · exact Calm.refl s
    · refine calm_exclusively (fun s => calm_session ?_) s
      split
      · exact Calm.refl s
      · exact calm_openPool s

theorem calm_shutdown (s : Session) : Calm s (shutdown.run s).session := by
  refine calm_session ?_
  split
  · exact calm_bind (calm_emit rfl s) fun _ _ => calm_signal _ _
  · split
    · refine calm_bind (calm_emit rfl _) fun _ _ => calm_bind (calm_emit rfl _) fun _ _ =>
        calm_bind (calm_signal _ _) fun _ _ => calm_bind ?_ fun _ _ => calm_log _ _
      exact ⟨rfl, rfl, [], (List.append_nil _).symm, nofun⟩
    · exact Calm.refl s

end Gateway

/-! ## Leases -/

namespace Session

theorem start_fresh {settings : Settings} {backend : Backend} {s : Session}
    (h : Session.start settings backend = .ok s) :
    s.backend = backend ∧ s.leased = 0 ∧ s.trace.events = [] := by
  obtain ⟨settings', -, h⟩ := bind_eq_ok.mp h
  cases backend with
  | supplied =>
    cases h
    exact ⟨rfl, rfl, rfl⟩
  | server =>
    obtain ⟨_, -, h⟩ := bind_eq_ok.mp h
    cases h
    exact ⟨rfl, rfl, rfl⟩

/-- The session after the lease of the next connection. -/
def lease (s : Session) : Session :=
  { s with leased := s.leased + 1, trace := s.trace ++ ⟨[.acquire (s.leased + 1)], []⟩ }

end Session

namespace Gateway

open SqlGateway.Action

/-- A lease goes on from the session in which a pool is held. -/
theorem acquire_run (s : Session) :
    acquire.run s =
      match ensurePool.run s with
      | ⟨.ok _, s₁⟩ =>
        match s₁.script.acquireError with
        | none => ⟨.ok (s₁.leased + 1), s₁.lease⟩
        | some signal => ⟨.error (.signalled signal), s₁⟩
      | ⟨.error f, s₁⟩ => ⟨.error f, s₁⟩ := by
  rw [acquire, Action.run_bind]
  cases ensurePool.run s with
  | mk outcome s₁ =>
    cases outcome with
    | error f => rfl
    | ok _ =>
      dsimp only
      rw [Action.run_session]
      cases s₁.script.acquireError <;> rfl

/-- A lease that fails leaves no event of a connection, and one that succeeds has the next
number. -/
theorem acquire_cases (s : Session) :
    (∃ f, (acquire.run s).outcome = .error f ∧ Calm s (acquire.run s).session) ∨
      ∃ s₁, Calm s s₁ ∧ acquire.run s = ⟨.ok (s₁.leased + 1), s₁.lease⟩ := by
  have hcalm := calm_ensurePool s
  rw [acquire_run]
  cases hpool : ensurePool.run s with
  | mk outcome s₁ =>
    rw [hpool] at hcalm
    cases outcome with
    | error f => exact Or.inl ⟨f, rfl, hcalm⟩
    | ok _ =>
      dsimp only
      cases s₁.script.acquireError with
      | none => exact Or.inr ⟨s₁, hcalm, rfl⟩
      | some signal => exact Or.inl ⟨_, rfl, hcalm⟩

/-- A connection is given back by one event, whatever the script says. -/
theorem release_gives (n : Nat) (s : Session) :
    ∃ s₁ e, GivesBack s.backend n e ∧ s₁.backend = s.backend ∧ s₁.leased = s.leased ∧
      s₁.trace.events = s.trace.events ++ [e] ∧ Calm s₁ ((release n).run s).session := by
  rw [release, Action.run_session]
  split
  · next hbackend =>
    refine ⟨((Action.emit (.release n)).run s).session, .release n, .release _ n, rfl, rfl, rfl, ?_⟩
    exact calm_signal _ _
  · next hbackend =>
    split
    · refine ⟨((Action.emit (.release n)).run s).session, .release n, .release _ n, rfl, rfl, rfl,
        ?_⟩
      have hrest (s₁ : Session) : Calm s₁ ((do
          signal s.script.releaseError
          giveWay
          emit .wakeUp
          giveWay : Action Unit).run s₁).session :=
        calm_bind (calm_signal _ _) fun _ _ => calm_bind (Calm.refl _) fun _ _ =>
          calm_bind (calm_emit rfl _) fun _ _ => Calm.refl _
      exact hrest _
    · refine ⟨((Action.emit (.closeConnection n)).run s).session, .closeConnection n, ?_, rfl, rfl,
        rfl, Calm.refl _⟩
      rw [hbackend]
      exact .closed n

theorem held_statement {scope : List Nat} {n : Nat} (hn : n ∈ scope) {s s' : Session}
    {ts : List Event} (hts : Statement.Events s.backend n ts) (hbackend : s'.backend = s.backend)
    (hleased : s'.leased = s.leased) (hevents : s'.trace.events = s.trace.events ++ ts) :
    Held scope s s' := by
  refine ⟨hbackend, ts, hevents, ?_⟩
  have hword : LeaseWord s.backend scope s.leased (ts ++ []) s.leased := .statement hn hts .nil
  rw [List.append_nil] at hword
  rwa [hleased]

/-- How a statement ends, by the script. -/
def executed (script : Script) (sql : Text) : Except Fault QueryResult :=
  match script.executeError with
  | some signal => .error (.signalled signal)
  | none => .ok (answer script sql)

/-- What a statement leaves. The rows are fetched if there are any, and the cursor is closed. -/
def executedEvents (s : Session) (n : Nat) (sql : Text) (parameters : Value) : List Event :=
  match s.backend with
  | .supplied => [.execute n sql parameters]
  | .server =>
    if s.script.executeError.isNone && s.script.givesRows sql then
      [.execute n sql parameters, .fetchAll n, .closeCursor n]
    else [.execute n sql parameters, .closeCursor n]

theorem executedEvents_eq (s : Session) (n : Nat) (sql : Text) (parameters : Value) :
    ∃ ts, executedEvents s n sql parameters = .execute n sql parameters :: ts ∧
      Statement.Events s.backend n (.execute n sql parameters :: ts) := by
  unfold executedEvents
  cases s.backend with
  | supplied => exact ⟨[], rfl, .supplied n sql parameters⟩
  | server =>
    dsimp only
    split
    · exact ⟨_, rfl, .fetched n sql parameters⟩
    · exact ⟨_, rfl, .unfetched n sql parameters⟩

theorem execute_run (n : Nat) (sql : Text) (parameters : Value) (s : Session) :
    (execute n sql parameters).run s =
      ⟨executed s.script sql,
        { s with trace := s.trace ++ ⟨executedEvents s n sql parameters, []⟩ }⟩ := by
  obtain ⟨settings, backend, script, leased, holdsPool, opening, trace⟩ := s
  unfold executed executedEvents
  cases backend with
  | supplied =>
    change Action.run (Action.emit _ >>= fun _ => Action.signal script.executeError >>= _) _ = _
    dsimp only
    cases script.executeError <;> rfl
  | server =>
    change Action.run (Action.ensure (Action.emit _ >>= fun _ =>
      Action.signal script.executeError >>= _) _) _ = _
    dsimp only
    cases script.executeError with
    | some signal =>
      rw [Option.isNone_some, Bool.false_and, if_neg Bool.false_ne_true, Trace.append_cons]
      rfl
    | none =>
      change Action.run (Action.ensure (Action.emit _ >>= fun _ => Action.signal none >>= fun _ =>
        if script.givesRows sql then _ else _) _) _ = _
      rw [Option.isNone_none, Bool.true_and]
      cases script.givesRows sql with
      | false =>
        rw [if_neg Bool.false_ne_true, if_neg Bool.false_ne_true, Trace.append_cons]
        rfl
      | true =>
        rw [if_pos rfl, if_pos rfl, Trace.append_cons, Trace.append_cons]
        rfl

/-- A statement on a connection that is held. -/
theorem held_execute {scope : List Nat} {n : Nat} (hn : n ∈ scope) (sql : Text)
    (parameters : Value) (s : Session) :
    Held scope s ((execute n sql parameters).run s).session := by
  obtain ⟨ts, heq, hts⟩ := executedEvents_eq s n sql parameters
  rw [execute_run, heq]
  exact held_statement hn hts rfl rfl rfl

end Gateway

namespace Pool

/-- A connection that was leased is given back whatever is done with it and however that ends. -/
theorem withConnection_held {α : Type} {scope : List Nat} {body : Nat → Action α} {s : Session}
    (hbody : ∀ n s', Gateway.acquire.run s = ⟨.ok n, s'⟩ →
      Held (n :: scope) s' ((body n).run s').session) :
    Held scope s ((withConnection body).run s).session := by
  rw [withConnection, Action.run_bind, Action.run_mapFault]
  rcases Gateway.acquire_cases s with ⟨f, hfault, hcalm⟩ | ⟨s₁, hcalm, hacquire⟩
  · rw [hfault]
    exact hcalm.held scope
  rw [hacquire]
  change Held scope s (((body _).ensure _).run s₁.lease).session
  rw [Action.session_ensure]
  obtain ⟨hbackend, held, hheld, hword⟩ := hbody _ _ hacquire
  obtain ⟨s₃, e, hback, hbackend₃, hleased₃, hevents₃, hrest⟩ :=
    Gateway.release_gives (s₁.leased + 1) ((body (s₁.leased + 1)).run s₁.lease).session
  rw [hbackend] at hback hbackend₃
  -- From the lease to the event that ends it, this is one pair of brackets.
  have hlease : Held scope s₁ s₃ := by
    refine ⟨hbackend₃, .acquire (s₁.leased + 1) :: (held ++ [e]), ?_, ?_⟩
    · rw [hevents₃, hheld]
      simp [Session.lease]
    · rw [hleased₃]
      exact .lease hword hback .nil
  exact ((hcalm.held scope).trans hlease).trans (hrest.held scope)

/-- A statement of the pool is run on a connection of its own. -/
theorem query_held (scope : List Nat) (sql : Text) (parameters : Value) (s : Session) :
    Held scope s ((query sql parameters).run s).session :=
  withConnection_held fun n s' _ =>
    Action.related_bind (R := Held (n :: scope)) Held.trans
      ((Action.calm_log _ s').held _) fun _ _ =>
        Gateway.held_execute (List.mem_cons_self ..) sql parameters _

/-- A statement that cannot be built leases nothing. -/
theorem queryBuilt_held (scope : List Nat) (build : ZoneChoice → Except Fault Text) (s : Session) :
    Held scope s ((queryBuilt build).run s).session := by
  rw [queryBuilt, Action.run_bind]
  change Held scope s ((Action.ofExcept (build s.settings.zone) >>= _).run s).session
  cases build s.settings.zone with
  | error f => exact (Calm.refl s).held scope
  | ok sql => exact query_held scope sql .null s

end Pool

/-! ## Steps -/

namespace Step

/-- Steps in a row pass the session on, whatever their outcomes. -/
theorem session_performAll_cons (step : Step) (rest : List Step) (s : Session) :
    ((performAll (step :: rest)).run s).session =
      ((performAll rest).run ((perform step).run s).session).session := by
  rw [performAll, Action.run_bind, Action.run_capture]
  dsimp only
  rw [Action.run_bind]
  cases (performAll rest).run ((perform step).run s).session with
  | mk outcome s' => cases outcome <;> rfl

theorem session_performAll_append (before after : List Step) (s : Session) :
    ((performAll (before ++ after)).run s).session =
      ((performAll after).run ((performAll before).run s).session).session := by
  induction before generalizing s with
  | nil =>
    rw [performAll]
    rfl
  | cons step rest ih => rw [List.cons_append, session_performAll_cons, ih, session_performAll_cons]

mutual

/-- The step runs statements of its own only on connections that are held when it comes to them,
and leases and gives back none by hand. -/
def OnLease (scope : List Nat) : Step → Session → Prop
  | .withConnection steps _, s =>
    match Gateway.acquire.run s with
    | ⟨.ok n, s'⟩ => OnLeaseAll (n :: scope) steps s'
    | ⟨.error _, _⟩ => True
  | .execute n _ _, _ => n ∈ scope
  | .acquire, _ | .release _, _ | .together _, _ => False
  | _, _ => True
termination_by structural step => step

/-- Each of the steps does so in the session that those before it leave. -/
def OnLeaseAll (scope : List Nat) : List Step → Session → Prop
  | [], _ => True
  | step :: rest, s => OnLease scope step s ∧ OnLeaseAll scope rest ((perform step).run s).session
termination_by structural steps => steps

end

mutual

/-- What a step leaves behind are complete leases, whatever becomes of it. -/
theorem perform_held {scope : List Nat} :
    ∀ (step : Step) {s : Session}, OnLease scope step s →
      Held scope s ((perform step).run s).session
  | .change changes, s, _ => by
    rw [perform]
    exact Calm.held ⟨rfl, rfl, [], (List.append_nil _).symm, nofun⟩ scope
  | .query sql parameters, s, _ => by
    rw [perform, Action.session_map]
    exact Pool.query_held scope sql parameters s
  | .insert .., s, _ | .update .., s, _ | .delete .., s, _ | .select .., s, _ => by
    rw [perform, Action.session_map]
    exact Pool.queryBuilt_held scope _ s
  | .selectOne table fields condition tail, s, _ => by
    rw [perform, Action.session_map, Pool.selectOne]
    exact Action.related_bind (R := Held scope) Held.trans (Pool.queryBuilt_held scope _ s)
      fun _ _ => (Calm.refl _).held scope
  | .literal _, s, _ | .timestamp _, s, _ => by
    rw [perform, Action.session_map]
    exact (Calm.refl s).held scope
  | .shutdown, s, _ => by
    rw [perform]
    exact (Action.calm_bind (Gateway.calm_shutdown s) fun _ _ => Calm.refl _).held scope
  | .withConnection steps raised, s, h => by
    rw [perform]
    refine Pool.withConnection_held fun n s' hacquire => ?_
    rw [OnLease, hacquire] at h
    refine Action.related_bind (R := Held (n :: scope)) Held.trans (performAll_held steps h)
      fun answers _ => ?_
    exact (Action.calm_bind (Action.calm_signal raised _) fun _ _ => Calm.refl _).held _
  | .execute n sql parameters, s, h => by
    rw [OnLease] at h
    rw [perform, Action.session_map]
    exact Gateway.held_execute h sql parameters s
  | .acquire, _, h | .release _, _, h | .together _, _, h => by
    rw [OnLease] at h
    exact h.elim
  | .faulty f, s, _ => by
    rw [perform]
    exact (Calm.refl s).held scope
termination_by structural step => step

/-- So do steps in a row, each of which ends on its own. -/
theorem performAll_held {scope : List Nat} :
    ∀ (steps : List Step) {s : Session}, OnLeaseAll scope steps s →
      Held scope s ((performAll steps).run s).session
  | [], s, _ => by
    rw [performAll]
    exact (Calm.refl s).held scope
  | step :: rest, s, h => by
    rw [OnLeaseAll] at h
    rw [session_performAll_cons]
    exact (perform_held step h.1).trans (performAll_held rest h.2)
termination_by structural steps => steps

end

theorem onLeaseAll_append {scope : List Nat} {before after : List Step} {s : Session}
    (h : OnLeaseAll scope (before ++ after) s) : OnLeaseAll scope before s := by
  induction before generalizing s with
  | nil =>
    rw [OnLeaseAll]
    trivial
  | cons step rest ih =>
    rw [List.cons_append, OnLeaseAll] at h
    rw [OnLeaseAll]
    exact ⟨h.1, ih h.2⟩

/-- Whatever steps a session carries out one after the other, and whatever errors its script demands
on the way, after each of them its events are bracketed leases with none outstanding. -/
theorem performAll_bracketed {settings : Settings} {backend : Backend} {s : Session}
    {before after : List Step} (hstart : Session.start settings backend = .ok s)
    (hlease : OnLeaseAll [] (before ++ after) s) :
    Bracketed backend ((performAll before).run s).session.trace.events ∧
      ((performAll (before ++ after)).run s).session =
        ((performAll after).run ((performAll before).run s).session).session := by
  refine ⟨?_, session_performAll_append before after s⟩
  obtain ⟨hbackend, hleased, hevents⟩ := Session.start_fresh hstart
  obtain ⟨-, es, hes, hword⟩ := performAll_held before (onLeaseAll_append hlease)
  rw [hevents, List.nil_append] at hes
  rw [hbackend, hleased] at hword
  rw [hes]
  exact hword.bracketed

/-- The beginning of a session on a server. -/
def localSession : Session where
  settings :=
    { host := .text "localhost".toList, database := .text "shop".toList,
      user := .text "app".toList }
  backend := .server

/-- A lease in a lease that a cancellation ends while its connection cannot go back, and the pool
let go before the other lease ends. -/
def nestedLeases : List Step :=
  [.change [.releaseError (some ⟨.connection, "gone".toList⟩)],
    .withConnection [.withConnection [.execute 1 "DO 1".toList .null,
      .execute 2 "SELECT 2".toList .null] (some ⟨.cancelled, []⟩), .shutdown] none]

theorem performAll_bracketed_nestedLeases :
    Session.start localSession.settings .server = .ok localSession ∧
      OnLeaseAll [] (nestedLeases ++ [.query "DO 3".toList .null]) localSession ∧
      Bracketed .server ((performAll nestedLeases).run localSession).session.trace.events := by
  have hstart : Session.start localSession.settings .server = .ok localSession := rfl
  have hheld : OnLeaseAll [] (nestedLeases ++ [.query "DO 3".toList .null]) localSession :=
    ⟨trivial, ⟨⟨List.mem_cons_of_mem _ (List.mem_cons_self ..), List.mem_cons_self .., trivial⟩,
      trivial, trivial⟩, trivial, trivial⟩
  exact ⟨hstart, hheld, (performAll_bracketed hstart hheld).1⟩

example : ((performAll nestedLeases).run localSession).session.trace.events =
    [.createPool localSession.settings, .acquire 1, .acquire 2, .execute 1 "DO 1".toList .null,
      .closeCursor 1, .execute 2 "SELECT 2".toList .null, .fetchAll 2, .closeCursor 2, .release 2,
      .closePool, .waitClosed, .closeConnection 1] := rfl

end Step

end SqlGateway
