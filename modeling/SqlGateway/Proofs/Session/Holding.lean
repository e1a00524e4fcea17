import SqlGateway.Proofs.Session.Reach
import SqlGateway.Proofs.Settings.Validation

/-!
# The pool that is held

What a lease, the end of a lease, a statement and the closing of the pool come to on a server, by
whether a pool is held. Each has one equation, so nothing beyond this module opens the gateway
again. A lease that finds no pool does what it does in a session that has just begun
(`Gateway.acquire_fresh`).
-/

namespace SqlGateway

open Session

namespace Session

theorem gained_append {s s' : Session} {t : Trace} (h : s'.trace = s.trace ++ t) :
    gained s s' = t.events := by
  rw [gained, h, Trace.append_since]

/-- In between no pool was asked for, opened or let go. -/
structure KeepsPools (p q : Session) : Prop where
  asks : ∀ e ∈ gained p q, e.isCreation = false
  opened : q.opened = p.opened
  letGo : q.letGo = p.letGo

/-- Events that ask for no pool, and nothing in the log. -/
theorem keepsPools_of_trace {p q : Session} {es : List Event} (hsettings : q.settings = p.settings)
    (htrace : q.trace = p.trace ++ ⟨es, []⟩) (hes : ∀ e ∈ es, e.isCreation = false) :
    KeepsPools p q where
  asks := by
    rw [gained_append htrace]
    exact hes
  opened := by
    rw [Session.opened, Session.opened, hsettings, htrace, Trace.log_append, List.append_nil]
  letGo := by rw [Session.letGo, Session.letGo, htrace, Trace.log_append, List.append_nil]

/-- A session that has just begun holds nothing and has left nothing behind. -/
theorem start_eq_ok {settings : Settings} {backend : Backend} {s : Session}
    (h : Session.start settings backend = .ok s) :
    s = { settings := settings, backend := backend } := by
  obtain ⟨settings', hvalid, hrest⟩ := bind_eq_ok.mp h
  obtain rfl := (Settings.validate_eq_ok.mp hvalid).1
  cases backend with
  | supplied =>
    cases hrest
    rfl
  | server =>
    obtain ⟨_, -, hdriver⟩ := bind_eq_ok.mp hrest
    cases hdriver
    rfl

/-! ## Leases -/

/-- How the lease of the next connection ends when there is a pool. -/
def leaseRun (s : Session) : Action.Run Nat :=
  match s.script.acquireError with
  | some signal => ⟨.error (.signalled signal), s⟩
  | none => ⟨.ok (s.leased + 1), s.lease⟩

/-- What went before a lease has no bearing on it. -/
theorem leaseRun_append (s : Session) (t : Trace) :
    leaseRun { s with trace := t ++ s.trace } =
      ⟨s.leaseRun.outcome, { s.leaseRun.session with trace := t ++ s.leaseRun.session.trace }⟩ := by
  rw [leaseRun, leaseRun]
  dsimp only
  cases s.script.acquireError with
  | some signal => rfl
  | none =>
    dsimp only [lease]
    rw [Trace.append_assoc]

/-- A lease leaves no more than its own event, and the pool as it is. -/
theorem leaseRun_leaves (s : Session) :
    ∃ es, s.leaseRun.session.trace = s.trace ++ ⟨es, []⟩ ∧ (∀ e ∈ es, e.isCreation = false) ∧
      s.leaseRun.session.settings = s.settings ∧ s.leaseRun.session.holdsPool = s.holdsPool := by
  rw [leaseRun]
  cases s.script.acquireError with
  | some signal => exact ⟨[], (Trace.append_empty _).symm, List.forall_mem_nil _, rfl, rfl⟩
  | none =>
    refine ⟨[.acquire (s.leased + 1)], rfl, fun e he => ?_, rfl, rfl⟩
    obtain rfl := List.mem_singleton.mp he
    rfl

/-- The session after a pool has been asked for. -/
def asked (s : Session) : Session := { s with trace := s.trace ++ ⟨[.createPool s.settings], []⟩ }

/-- The session after a pool has been opened. -/
def openedNext (s : Session) : Session :=
  { s.asked with
    holdsPool := true
    trace := s.asked.trace ++ ⟨[], [Gateway.openedLine s.settings]⟩ }

/-- A session that has just begun, with the script of another and as many leases behind it. -/
def fresh (s : Session) : Session :=
  { settings := s.settings, backend := .server, script := s.script, leased := s.leased }

end Session

theorem Statement.Events.asks_nothing {backend : Backend} {n : Nat} {ts : List Event}
    (h : Statement.Events backend n ts) : ∀ e ∈ ts, e.isCreation = false := by
  cases h <;> simp [Event.isCreation]

namespace Gateway

open SqlGateway.Action

theorem leaseNext_run (s : Session) : leaseNext.run s = s.leaseRun := by
  change Action.run (Action.signal s.script.acquireError >>= _) s = _
  rw [leaseRun]
  cases s.script.acquireError <;> rfl

variable {p : Session}

theorem acquire_held (hbackend : p.backend = .server) (hpool : p.holdsPool = true) :
    acquire.run p = p.leaseRun := by
  obtain ⟨settings, backend, script, leased, holdsPool, opening, trace⟩ := p
  cases hbackend
  cases hpool
  exact leaseNext_run _

/-- A lease that finds no pool opens one and then leases, or it fails as the opening does. -/
theorem acquire_unheld (hbackend : p.backend = .server) (hpool : p.holdsPool = false) :
    acquire.run p =
      match Patience.ofValue p.settings.connectTimeout with
      | .fails cause detail => ⟨.error (.openFailed cause detail), { p with opening := false }⟩
      | .expired =>
        ⟨.error (.openTimedOut p.settings.connectTimeout.inSentence), { p with opening := false }⟩
      | .waits =>
        match p.script.createError with
        | some signal => ⟨.error (openFault p.settings signal), { p.asked with opening := false }⟩
        | none => leaseRun { p.openedNext with opening := false } := by
  obtain ⟨settings, backend, script, leased, holdsPool, opening, trace⟩ := p
  cases hbackend
  cases hpool
  change (openPoolIfNone.exclusively >>= fun _ => leaseNext).run _ = _
  rw [exclusively_leaseNext]
  change (openPool.attempt >>= leaseAfter).run
    { settings, backend := .server, script, leased, opening := true, trace } = _
  rw [openPool, attempt_session, bind_assoc, run_session]
  dsimp only
  cases Patience.ofValue settings.connectTimeout with
  | fails cause detail => rfl
  | expired => rfl
  | waits =>
    change ((takeOver settings script.createError).attempt >>= leaseAfter).run _ = _
    cases script.createError with
    | some signal => rfl
    | none => exact leaseNext_run _

/-- The three ways of a lease that finds no pool: there is no time to wait for one, the opening ends
in an error, or the lease goes on with a pool. -/
theorem acquire_cases_unheld (hbackend : p.backend = .server) (hpool : p.holdsPool = false) :
    (Patience.ofValue p.settings.connectTimeout ≠ .waits ∧
      ∃ f, acquire.run p = ⟨.error f, { p with opening := false }⟩) ∨
    (Patience.ofValue p.settings.connectTimeout = .waits ∧
      ∃ signal, p.script.createError = some signal ∧
        acquire.run p = ⟨.error (openFault p.settings signal), { p.asked with opening := false }⟩) ∨
    (Patience.ofValue p.settings.connectTimeout = .waits ∧ p.script.createError = none ∧
      acquire.run p = leaseRun { p.openedNext with opening := false }) := by
  rw [acquire_unheld hbackend hpool]
  cases Patience.ofValue p.settings.connectTimeout with
  | fails cause detail => exact Or.inl ⟨nofun, _, rfl⟩
  | expired => exact Or.inl ⟨nofun, _, rfl⟩
  | waits =>
    cases p.script.createError with
    | some signal => exact Or.inr (Or.inl ⟨rfl, signal, rfl, rfl⟩)
    | none => exact Or.inr (Or.inr ⟨rfl, rfl, rfl⟩)

/-- A lease that finds no pool does what it does in a session that has just begun. -/
theorem acquire_fresh (hbackend : p.backend = .server) (hpool : p.holdsPool = false) :
    acquire.run p = ⟨(acquire.run p.fresh).outcome,
      { (acquire.run p.fresh).session with
        trace := p.trace ++ (acquire.run p.fresh).session.trace }⟩ := by
  rw [acquire_unheld hbackend hpool, acquire_unheld (p := p.fresh) rfl rfl]
  obtain ⟨settings, backend, script, leased, holdsPool, opening, trace⟩ := p
  cases hbackend
  cases hpool
  dsimp only [fresh]
  cases Patience.ofValue settings.connectTimeout with
  | fails cause detail => simp only [Trace.append_empty]
  | expired => simp only [Trace.append_empty]
  | waits =>
    cases script.createError with
    | some signal => rfl
    | none =>
      dsimp only [openedNext, asked]
      rw [Trace.append_assoc]
      exact leaseRun_append (openedNext { settings, backend := .server, script, leased }) trace

theorem release_held (hbackend : p.backend = .server) (hpool : p.holdsPool = true) (n : Nat) :
    (release n).run p =
      match p.script.releaseError with
      | some signal =>
        ⟨.error (.signalled signal), { p with trace := p.trace ++ ⟨[.release n], []⟩ }⟩
      | none => ⟨.ok (), { p with trace := p.trace ++ ⟨[.release n, .wakeUp], []⟩ }⟩ := by
  obtain ⟨settings, backend, script, leased, holdsPool, opening, trace⟩ := p
  cases hbackend
  cases hpool
  change Action.run (Action.emit (.release n) >>= fun _ => Action.signal script.releaseError >>= _)
    _ = _
  dsimp only
  cases script.releaseError with
  | some signal => rfl
  | none =>
    rw [Trace.append_cons trace (.release n) [.wakeUp]]
    rfl

theorem release_unheld (hbackend : p.backend = .server) (hpool : p.holdsPool = false) (n : Nat) :
    (release n).run p =
      ⟨.ok (), { p with trace := p.trace ++ ⟨[.closeConnection n], []⟩ }⟩ := by
  obtain ⟨settings, backend, script, leased, holdsPool, opening, trace⟩ := p
  cases hbackend
  cases hpool
  rfl

theorem shutdown_held (hbackend : p.backend = .server) (hpool : p.holdsPool = true) :
    shutdown.run p =
      match p.script.shutdownError with
      | some signal =>
        ⟨.error (.signalled signal), { p with trace := p.trace ++ ⟨[.closePool, .waitClosed], []⟩ }⟩
      | none => ⟨.ok (), { p with
          holdsPool := false
          trace := p.trace ++ ⟨[.closePool, .waitClosed], [letGoLine]⟩ }⟩ := by
  obtain ⟨settings, backend, script, leased, holdsPool, opening, trace⟩ := p
  cases hbackend
  cases hpool
  change Action.run (Action.emit .closePool >>= fun _ => Action.emit .waitClosed >>= fun _ =>
    Action.signal script.shutdownError >>= _) _ = _
  dsimp only
  cases script.shutdownError with
  | some signal =>
    rw [Trace.append_cons trace .closePool [.waitClosed]]
    rfl
  | none =>
    rw [Trace.append_cons trace .closePool [.waitClosed] [letGoLine],
      Trace.append_cons _ .waitClosed [] [letGoLine]]
    rfl

theorem shutdown_unheld (hbackend : p.backend = .server) (hpool : p.holdsPool = false) :
    shutdown.run p = ⟨.ok (), p⟩ := by
  obtain ⟨settings, backend, script, leased, holdsPool, opening, trace⟩ := p
  cases hbackend
  cases hpool
  rfl

/-- A statement leaves its own events and nothing else. -/
theorem execute_leaves (hbackend : p.backend = .server) (n : Nat) (sql : Text)
    (parameters : Value) :
    ∃ ts, Statement.Events .server n ts ∧
      ((execute n sql parameters).run p).session =
        { p with trace := p.trace ++ ⟨ts, []⟩ } := by
  obtain ⟨ts, heq, hts⟩ := executedEvents_eq p n sql parameters
  rw [hbackend] at hts
  rw [execute_run, heq]
  exact ⟨_, hts, rfl⟩

/-! ## Pools -/

theorem acquire_keeps (hbackend : p.backend = .server) (hpool : p.holdsPool = true) :
    KeepsPools p (acquire.run p).session := by
  obtain ⟨es, htrace, hes, hsettings, -⟩ := p.leaseRun_leaves
  rw [acquire_held hbackend hpool]
  exact keepsPools_of_trace hsettings htrace hes

theorem release_keeps (hbackend : p.backend = .server) (n : Nat) :
    KeepsPools p ((release n).run p).session := by
  cases hpool : p.holdsPool with
  | true =>
    rw [release_held hbackend hpool]
    cases p.script.releaseError with
    | some signal => exact keepsPools_of_trace rfl rfl (by simp [Event.isCreation])
    | none => exact keepsPools_of_trace rfl rfl (by simp [Event.isCreation])
  | false =>
    rw [release_unheld hbackend hpool]
    exact keepsPools_of_trace rfl rfl (by simp [Event.isCreation])

theorem execute_keeps (hbackend : p.backend = .server) (n : Nat) (sql : Text)
    (parameters : Value) : KeepsPools p ((execute n sql parameters).run p).session := by
  obtain ⟨ts, hts, hrun⟩ := execute_leaves hbackend n sql parameters
  rw [hrun]
  exact keepsPools_of_trace rfl rfl hts.asks_nothing

end Gateway

end SqlGateway
