import SqlGateway.Proofs.Session.Holding

/-!
# One pool at a time

Wherever a session on a server has got to, the pools that were opened are those that were let go and
the one that is held, if one is (`Session.SinglePool`). A pool is asked for by a lease that finds
none and by nothing else. If it is not opened, for whatever reason, nothing is held, nobody keeps
the right to open one, and the next lease is that of a session that has just begun
(`Session.pool_single`).
-/

namespace SqlGateway

namespace Session

/-- What holds of the pool of a session on a server with the given settings. -/
structure SinglePool (settings : Settings) (p : Session) : Prop where
  /-- The pools that were opened are those that were let go and the one that is held, if one is. -/
  balance : p.opened = p.letGo + p.holdsPool.toNat
  /-- Every pool was asked for with the settings of the session. -/
  asked : ∀ e ∈ p.trace.events, e.isCreation = true → e = .createPool settings
  /-- A lease that finds a pool asks for none. -/
  held : p.holdsPool = true → KeepsPools p (Gateway.acquire.run p).session
  /-- One that finds none asks for a pool, which is opened unless the script has an error for it. -/
  opens : p.holdsPool = false → Patience.ofValue settings.connectTimeout = .waits →
    p.script.createError = none →
      let q := (Gateway.acquire.run p).session
      (∃ es, gained p q = .createPool settings :: es ∧ ∀ e ∈ es, e.isCreation = false) ∧
        q.opened = p.opened + 1 ∧ q.letGo = p.letGo ∧ q.holdsPool = true
  /-- With an error no pool is held, nobody has the right to open one, and all else is as it was. -/
  fails : p.holdsPool = false → Patience.ofValue settings.connectTimeout = .waits →
    ∀ signal, p.script.createError = some signal →
      Gateway.acquire.run p = ⟨.error (Gateway.openFault settings signal),
        { p with opening := false, trace := p.trace ++ ⟨[.createPool settings], []⟩ }⟩
  /-- Without time to wait for it the server is not even asked. -/
  hurries : p.holdsPool = false → Patience.ofValue settings.connectTimeout ≠ .waits →
    ∃ f, Gateway.acquire.run p = ⟨.error f, { p with opening := false }⟩
  /-- After an opening that failed the next lease is that of a session that has just begun, whatever
  the script says by then; if it has no error for it, a pool is opened. -/
  retries : p.holdsPool = false → (Gateway.acquire.run p).session.holdsPool = false →
    ∀ script : Script,
      let again := { (Gateway.acquire.run p).session with script := script }
      let first := Gateway.acquire.run again.fresh
      Gateway.acquire.run again =
          ⟨first.outcome, { first.session with trace := again.trace ++ first.session.trace }⟩ ∧
        (Patience.ofValue settings.connectTimeout = .waits → script.createError = none →
          (Gateway.acquire.run again).session.holdsPool = true)
  /-- The end of a lease and a statement have nothing to do with pools. -/
  others : ∀ n sql parameters, KeepsPools p ((Gateway.release n).run p).session ∧
    KeepsPools p ((Gateway.execute n sql parameters).run p).session
  /-- A pool is let go when it has been closed without an error. -/
  closes : p.holdsPool = true → p.script.shutdownError = none →
    let q := (Gateway.shutdown.run p).session
    (∀ e ∈ gained p q, e.isCreation = false) ∧
      q.opened = p.opened ∧ q.letGo = p.letGo + 1 ∧ q.holdsPool = false
  /-- With an error it is still held. -/
  stays : p.holdsPool = true → p.script.shutdownError ≠ none →
    let q := (Gateway.shutdown.run p).session
    KeepsPools p q ∧ q.holdsPool = true
  /-- Without a pool there is nothing to be closed. -/
  idle : p.holdsPool = false → Gateway.shutdown.run p = ⟨.ok (), p⟩

end Session

namespace Gateway

open Session

variable {settings : Settings} {p : Session}

/-- A lease that opens a pool: what it leaves, and that the pool is held. -/
theorem acquire_opening (hs : OnServer settings p) (hpool : p.holdsPool = false)
    (hwaits : Patience.ofValue settings.connectTimeout = .waits)
    (hcreate : p.script.createError = none) :
    ∃ es, (acquire.run p).session.trace =
        p.trace ++ ⟨.createPool settings :: es, [openedLine settings]⟩ ∧
      (∀ e ∈ es, e.isCreation = false) ∧ (acquire.run p).session.settings = settings ∧
      (acquire.run p).session.holdsPool = true := by
  obtain ⟨hbackend, rfl⟩ := hs
  obtain ⟨es, htrace, hes, hsettings, hholds⟩ :=
    leaseRun_leaves { p.openedNext with opening := false }
  rw [acquire_unheld hbackend hpool, hwaits, hcreate]
  refine ⟨es, ?_, hes, hsettings, hholds⟩
  rw [htrace]
  dsimp only [openedNext, Session.asked]
  rw [Trace.append_assoc, Trace.append_assoc]
  rfl

theorem acquire_opens (hs : OnServer settings p) (hpool : p.holdsPool = false)
    (hwaits : Patience.ofValue settings.connectTimeout = .waits)
    (hcreate : p.script.createError = none) :
    let q := (acquire.run p).session
    (∃ es, gained p q = .createPool settings :: es ∧ ∀ e ∈ es, e.isCreation = false) ∧
      q.opened = p.opened + 1 ∧ q.letGo = p.letGo ∧ q.holdsPool = true := by
  obtain ⟨es, htrace, hes, hsettings, hholds⟩ := acquire_opening hs hpool hwaits hcreate
  refine ⟨⟨es, gained_append htrace, hes⟩, ?_, ?_, hholds⟩
  · rw [opened, opened, hsettings, hs.settings, htrace, Trace.log_append, List.count_append,
      List.count_singleton_self]
  · have hline : List.count letGoLine [openedLine settings] = 0 :=
      List.count_eq_zero.mpr (by simp [letGoLine_ne_openedLine])
    rw [letGo, letGo, htrace, Trace.log_append, List.count_append, hline, Nat.add_zero]

/-- An opening that failed leaves the session on its server. -/
theorem onServer_of_failed (hs : OnServer settings p) (hpool : p.holdsPool = false)
    (hstill : (acquire.run p).session.holdsPool = false) :
    OnServer settings (acquire.run p).session := by
  rcases acquire_cases_unheld hs.backend hpool with
    ⟨-, f, hrun⟩ | ⟨-, signal, -, hrun⟩ | ⟨hwaits, hcreate, -⟩
  · rw [hrun]
    exact ⟨hs.backend, hs.settings⟩
  · rw [hrun]
    exact ⟨hs.backend, hs.settings⟩
  · rw [hs.settings] at hwaits
    rw [(acquire_opens hs hpool hwaits hcreate).2.2.2] at hstill
    cases hstill

theorem shutdown_closes (hbackend : p.backend = .server) (hpool : p.holdsPool = true)
    (herror : p.script.shutdownError = none) :
    let q := (shutdown.run p).session
    (∀ e ∈ gained p q, e.isCreation = false) ∧
      q.opened = p.opened ∧ q.letGo = p.letGo + 1 ∧ q.holdsPool = false := by
  rw [shutdown_held hbackend hpool, herror]
  have hline : List.count (openedLine p.settings) [letGoLine] = 0 :=
    List.count_eq_zero.mpr (by simp [(letGoLine_ne_openedLine p.settings).symm])
  refine ⟨?_, ?_, ?_, rfl⟩
  · dsimp only
    rw [gained_append (t := ⟨[.closePool, .waitClosed], [letGoLine]⟩) rfl]
    decide
  · simp only [opened, Trace.log_append, List.count_append, hline, Nat.add_zero]
  · simp only [letGo, Trace.log_append, List.count_append, List.count_singleton_self]

theorem shutdown_stays (hbackend : p.backend = .server) (hpool : p.holdsPool = true)
    (herror : p.script.shutdownError ≠ none) :
    let q := (shutdown.run p).session
    KeepsPools p q ∧ q.holdsPool = true := by
  obtain ⟨signal, hsignal⟩ := Option.ne_none_iff_exists'.mp herror
  rw [shutdown_held hbackend hpool, hsignal]
  exact ⟨keepsPools_of_trace rfl rfl (by decide), hpool⟩

end Gateway

namespace Session

variable {settings : Settings} {p : Session}

theorem singlePool_of (hs : OnServer settings p)
    (hbalance : p.opened = p.letGo + p.holdsPool.toNat)
    (hasked : ∀ e ∈ p.trace.events, e.isCreation = true → e = .createPool settings) :
    SinglePool settings p where
  balance := hbalance
  asked := hasked
  held := Gateway.acquire_keeps hs.backend
  opens := Gateway.acquire_opens hs
  fails := by
    intro hpool hwaits signal hsignal
    obtain ⟨hbackend, rfl⟩ := hs
    rw [Gateway.acquire_unheld hbackend hpool, hwaits, hsignal]
    rfl
  hurries := by
    intro hpool hpatience
    obtain ⟨hbackend, rfl⟩ := hs
    rcases Gateway.acquire_cases_unheld hbackend hpool with ⟨-, hrun⟩ | ⟨hwaits, -⟩ | ⟨hwaits, -⟩
    · exact hrun
    · exact absurd hwaits hpatience
    · exact absurd hwaits hpatience
  retries := by
    intro hpool hstill script again first
    have hfailed := Gateway.onServer_of_failed hs hpool hstill
    have hserver : OnServer settings again := ⟨hfailed.backend, hfailed.settings⟩
    exact ⟨Gateway.acquire_fresh hserver.backend hstill, fun hwaits hcreate =>
      (Gateway.acquire_opens hserver hstill hwaits hcreate).2.2.2⟩
  others := fun n sql parameters =>
    ⟨Gateway.release_keeps hs.backend n, Gateway.execute_keeps hs.backend n sql parameters⟩
  closes := Gateway.shutdown_closes hs.backend
  stays := Gateway.shutdown_stays hs.backend
  idle := Gateway.shutdown_unheld hs.backend

/-- Wherever a session on a server has got to, one pool at most is open, and it is opened by the
first lease that finds none, with the settings of the session. Whenever a step has ended the right
to open one is free, and of steps that take turns one asks for a pool only while none is held. -/
theorem pool_single {s : Session} (hstart : Session.start settings .server = .ok s) :
    (∀ p, Reaches s p → SinglePool settings p) ∧
      (∀ steps, ((Step.performAll steps).run s).session.opening = false) ∧
      ∀ before steps n,
        let crew := Crew.start ⟨((Step.performAll before).run s).session, [], [], []⟩ steps none
        (∃ e ∈ gained (Crew.turns n crew).session (Crew.turns (n + 1) crew).session,
          e.isCreation = true) → (Crew.turns n crew).session.holdsPool = false := by
  obtain rfl := start_eq_ok hstart
  have hs : OnServer settings { settings := settings, backend := .server } := ⟨rfl, rfl⟩
  refine ⟨fun p hp => ?_, fun steps => (Step.performAll_course hs rfl steps).2, ?_⟩
  · have hcourse := hp.course hs rfl
    obtain ⟨es, hes, hasked, -⟩ := hcourse.events
    rw [List.nil_append] at hes
    refine singlePool_of (hcourse.onServer hs) hcourse.balanced ?_
    rw [hes]
    exact hasked
  · intro before steps n crew hasks
    obtain ⟨hcourse, hfree⟩ := Step.performAll_course hs rfl before
    have hsound := (Crew.turns_sound (Crew.sound_start (hcourse.onServer hs) hfree steps) n).1
    obtain ⟨es, hes, hcreates⟩ := (Crew.next_sound hsound).2.creates
    rw [← Crew.turns_succ] at hes
    rw [gained_of_append hes] at hasks
    obtain ⟨e, he, hcreation⟩ := hasks
    exact (hcreates e he hcreation).1

/-- An opening that is cancelled, and then a lease that opens the pool. -/
def secondOpening : List Step :=
  [.change [.createError (some ⟨.cancelled, []⟩)], .acquire, .change [.createError none], .acquire]

theorem pool_single_secondOpening :
    Session.start Step.localSession.settings .server = .ok Step.localSession ∧
      SinglePool Step.localSession.settings
        ((Step.performAll secondOpening).run Step.localSession).session ∧
      ((Step.performAll secondOpening).run Step.localSession).session.opened = 1 :=
  ⟨rfl, (pool_single rfl).1 _ (.after secondOpening), by decide +kernel⟩

end Session

end SqlGateway
