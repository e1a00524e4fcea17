import SqlGateway.Proofs.Session.Holding

/-!
# Pools that are closed

Pools are numbered in the order in which they are opened, so a connection that was leased in a
session belongs to the pool whose number is `Session.opened` there, and that pool has been let go as
soon as `Session.letGo` has reached this number. A connection whose pool has been let go is closed
for good exactly if no pool is held at the end of its lease; a later pool is handed a connection
that is not its own (`Gateway.release_leased`).

A pool is let go only when its closing ended without an error. If it did, nothing is leased before
another pool has been opened; if not, leases go on with the pool that has been closed
(`Gateway.lease_after_closing_iff`).
-/

namespace SqlGateway

open Session

namespace Gateway

variable {settings : Settings} {s p q r : Session} {n : Nat}

/-- A connection is leased while a pool is held. -/
theorem holdsPool_of_acquire (hbackend : p.backend = .server) (hrun : acquire.run p = ⟨.ok n, q⟩) :
    q.holdsPool = true := by
  have hleased {s : Session} (hpool : s.holdsPool = true)
      (hlease : s.leaseRun = ⟨.ok n, q⟩) : q.holdsPool = true := by
    obtain ⟨es, -, -, -, hkept⟩ := s.leaseRun_leaves
    rw [hlease] at hkept
    exact hkept.trans hpool
  cases hpool : p.holdsPool with
  | true => exact hleased hpool ((acquire_held hbackend hpool).symm.trans hrun)
  | false =>
    rcases acquire_cases_unheld hbackend hpool with
      ⟨-, f, hfails⟩ | ⟨-, signal, -, hfails⟩ | ⟨-, -, hopens⟩
    · cases hfails.symm.trans hrun
    · cases hfails.symm.trans hrun
    · exact hleased rfl (hopens.symm.trans hrun)

/-- What a session on a server has come to after steps and a lease. -/
theorem acquire_course (hs : OnServer settings p) (hfree : p.opening = false) :
    Course p (acquire.run p).session ∧ (acquire.run p).session.opening = false :=
  Action.run_orderly _ .outside p p hs (acquire_orderly p hs) fun _ => hfree

/-- The end of a lease: the connection goes to the pool that is held, or it is closed. -/
theorem release_gained (hbackend : r.backend = .server) (n : Nat) :
    (r.holdsPool = true → (gained r ((release n).run r).session).head? = some (.release n)) ∧
      (r.holdsPool = false → gained r ((release n).run r).session = [.closeConnection n]) := by
  constructor
  · intro hpool
    rw [release_held hbackend hpool]
    cases r.script.releaseError with
    | some signal => rw [gained_append rfl]; rfl
    | none => rw [gained_append rfl]; rfl
  · intro hpool
    rw [release_unheld hbackend hpool, gained_append rfl]

end Gateway

namespace Step

/-- A lease for some steps ends as a lease by hand does, in the session that the steps leave. -/
theorem session_withConnection {n : Nat} {p q : Session}
    (hlease : Gateway.acquire.run p = ⟨.ok n, q⟩) (steps : List Step) (raised : Option Signal) :
    ((perform (.withConnection steps raised)).run p).session =
      ((Gateway.release n).run ((performAll steps).run q).session).session := by
  rw [perform, Pool.withConnection, Action.run_bind, Action.run_mapFault, hlease]
  change (((performAll steps >>= _).ensure (Gateway.release n)).run q).session = _
  rw [Action.session_ensure, Action.run_bind]
  cases (performAll steps).run q with
  | mk outcome s =>
    cases outcome with
    | error f => rfl
    | ok answers => cases raised <;> rfl

end Step

namespace Gateway

variable {settings : Settings} {s : Session}

/-- A connection that was leased goes back to its own pool as long as that is open. When it has been
let go, the connection is closed exactly if no later pool is open by then; a later one is handed the
connection. A lease for some steps ends in the same way. -/
theorem release_leased (hstart : Session.start settings .server = .ok s) (before : List Step)
    {n : Nat} {q r : Session}
    (hlease : acquire.run ((Step.performAll before).run s).session = ⟨.ok n, q⟩)
    (hr : Reaches q r) :
    (r.letGo < q.opened → r.holdsPool = true ∧ r.opened = q.opened ∧
      (gained r ((release n).run r).session).head? = some (.release n)) ∧
    (q.opened ≤ r.letGo →
      (gained r ((release n).run r).session = [.closeConnection n] ↔ r.opened = r.letGo) ∧
      (r.opened ≠ r.letGo → r.holdsPool = true ∧ q.opened < r.opened ∧
        (gained r ((release n).run r).session).head? = some (.release n))) ∧
    ∀ steps raised,
      ((Step.perform (.withConnection steps raised)).run
        ((Step.performAll before).run s).session).session =
        ((release n).run ((Step.performAll steps).run q).session).session := by
  obtain rfl := start_eq_ok hstart
  have hs : OnServer settings { settings := settings, backend := .server } := ⟨rfl, rfl⟩
  obtain ⟨hbefore, hfree⟩ := Step.performAll_course hs rfl before
  have hserver := hbefore.onServer hs
  obtain ⟨hacquire, hfree'⟩ := acquire_course hserver hfree
  have hholds := holdsPool_of_acquire hserver.backend hlease
  rw [hlease] at hacquire hfree'
  have hserver' := hacquire.onServer hserver
  have hcourse := hr.course hserver' hfree'
  have hbackend := (hcourse.onServer hserver').backend
  obtain ⟨hgives, hcloses⟩ := release_gained hbackend n
  have hbalance := ((hbefore.trans hacquire).trans hcourse).balanced
  have hle := hcourse.opened_le
  -- The pool of the lease is the last that was opened, and all before it have been let go.
  have hnumber := (hbefore.trans hacquire).balanced
  rw [hholds, Bool.toNat_true] at hnumber
  cases hpool : r.holdsPool with
  | true =>
    rw [hpool, Bool.toNat_true] at hbalance
    refine ⟨fun _ => ⟨rfl, by omega, hgives hpool⟩, fun _ => ⟨⟨fun hclosed => ?_, by omega⟩,
      fun _ => ⟨rfl, by omega, hgives hpool⟩⟩, Step.session_withConnection hlease⟩
    have hhead := hgives hpool
    rw [hclosed] at hhead
    cases hhead
  | false =>
    rw [hpool, Bool.toNat_false] at hbalance
    exact ⟨by omega, fun _ => ⟨⟨fun _ => hbalance, fun _ => hcloses hpool⟩, absurd hbalance⟩,
      Step.session_withConnection hlease⟩

theorem release_leased_shutdown :
    Session.start Step.localSession.settings .server = .ok Step.localSession ∧
      ∃ q, acquire.run ((Step.performAll []).run Step.localSession).session = ⟨.ok 1, q⟩ ∧
        Reaches q ((Step.performAll [.shutdown]).run q).session ∧
        gained ((Step.performAll [.shutdown]).run q).session
          ((release 1).run ((Step.performAll [.shutdown]).run q).session).session =
            [.closeConnection 1] := by
  have hstart : Session.start Step.localSession.settings .server = .ok Step.localSession := rfl
  have hlease : acquire.run ((Step.performAll []).run Step.localSession).session =
      ⟨.ok 1, (acquire.run Step.localSession).session⟩ := rfl
  have hreleased := release_leased hstart [] hlease (.after [.shutdown])
  exact ⟨hstart, _, hlease, .after [.shutdown], (hreleased.2.1 (by decide +kernel)).1.mpr
    (by decide +kernel)⟩

/-- The pool of a connection is let go, and another is opened. -/
def reopening : List Step := [.shutdown, .query "DO 1".toList .null]

/-- A later pool is handed a connection whose own pool has been let go. -/
theorem exists_release_to_later_pool :
    ∃ n q r, acquire.run Step.localSession = ⟨.ok n, q⟩ ∧ Reaches q r ∧ q.opened ≤ r.letGo ∧
      ∃ rest, gained r ((release n).run r).session = .release n :: rest := by
  refine ⟨1, _, _, rfl, .after reopening, ?_, [.wakeUp], rfl⟩
  decide +kernel

example : ((Step.performAll [.withConnection reopening none]).run
    Step.localSession).session.trace.events =
    [.createPool Step.localSession.settings, .acquire 1, .closePool, .waitClosed,
      .createPool Step.localSession.settings, .acquire 2, .execute 2 "DO 1".toList .null,
      .closeCursor 2, .release 2, .wakeUp, .release 1, .wakeUp] := rfl

/-! ## After a pool has been closed -/

/-- Without a pool nothing is leased before one has been opened. -/
theorem unleased_of_unheld {q r : Session} (hs : OnServer settings q) (hfree : q.opening = false)
    (hnone : q.holdsPool = false) (hr : Reaches q r) (hsame : r.opened = q.opened) (n : Nat) :
    .acquire n ∉ gained q r := by
  obtain ⟨es, hes, -, hunleased⟩ := (hr.course hs hfree).events
  rw [gained_of_append hes]
  exact fun hlease => absurd (hunleased hnone hsame _ hlease) nofun

/-- With a pool connections are leased from it as soon as the script allows it. -/
theorem exists_lease_of_held {q : Session} (hbackend : q.backend = .server)
    (hpool : q.holdsPool = true) :
    ∃ r n, Reaches q r ∧ r.opened = q.opened ∧ .acquire n ∈ gained q r := by
  let allowed : Session := { q with script := q.script.change (.acquireError none) }
  have hlease : ((Step.performAll [.change [.acquireError none], .acquire]).run q).session =
      allowed.lease := by
    rw [Step.session_performAll_cons, Step.session_performAll_cons, Step.perform, Step.perform,
      Action.session_map, Step.performAll]
    exact congrArg Action.Run.session (acquire_held (p := allowed) hbackend hpool)
  refine ⟨_, q.leased + 1, .after [.change [.acquireError none], .acquire], ?_⟩
  have htrace : allowed.lease.trace = q.trace ++ ⟨[.acquire (q.leased + 1)], []⟩ := rfl
  have hkeeps : KeepsPools q allowed.lease :=
    keepsPools_of_trace rfl htrace (by simp [Event.isCreation])
  rw [hlease, gained_append htrace]
  exact ⟨hkeeps.opened, List.mem_singleton_self _⟩

/-- Shutting the gateway down closes the pool that is held, and the pool stays held if that ended in
an error. Connections are leased from it afterwards exactly then. -/
theorem lease_after_closing_iff (hstart : Session.start settings .server = .ok s)
    (before : List Step) (hpool : ((Step.performAll before).run s).session.holdsPool = true) :
    let p := ((Step.performAll before).run s).session
    let q := (shutdown.run p).session
    gained p q = [.closePool, .waitClosed] ∧
      ((∃ r n, Reaches q r ∧ r.opened = q.opened ∧ .acquire n ∈ gained q r) ↔
        p.script.shutdownError ≠ none) := by
  obtain rfl := start_eq_ok hstart
  have hs : OnServer settings { settings := settings, backend := .server } := ⟨rfl, rfl⟩
  obtain ⟨hbefore, hfree⟩ := Step.performAll_course hs rfl before
  have hserver := hbefore.onServer hs
  dsimp only
  generalize ((Step.performAll before).run _).session = p at hpool hfree hserver
  rw [shutdown_held hserver.backend hpool]
  cases p.script.shutdownError with
  | none =>
    let q : Session := { p with
      holdsPool := false
      trace := p.trace ++ ⟨[.closePool, .waitClosed], [letGoLine]⟩ }
    have hq : OnServer settings q := ⟨hserver.backend, hserver.settings⟩
    have htrace : q.trace = p.trace ++ ⟨[.closePool, .waitClosed], [letGoLine]⟩ := rfl
    refine ⟨gained_append htrace, ⟨?_, absurd rfl⟩⟩
    rintro ⟨r, n, hr, hsame, hlease⟩
    exact absurd hlease (unleased_of_unheld (q := q) hq hfree rfl hr hsame n)
  | some signal =>
    exact ⟨gained_append (t := ⟨_, []⟩) rfl, ⟨fun _ => nofun, fun _ =>
      exists_lease_of_held hserver.backend hpool⟩⟩

/-- A pool is opened, and its closing will run out of time. -/
def slowClosing : List Step :=
  [.query "DO 1".toList .null, .change [.shutdownError (some ⟨.timeout, "slow".toList⟩)]]

theorem lease_after_closing_iff_slow :
    Session.start Step.localSession.settings .server = .ok Step.localSession ∧
      ((Step.performAll slowClosing).run Step.localSession).session.holdsPool = true ∧
      ∃ q r n, q = (shutdown.run ((Step.performAll slowClosing).run
          Step.localSession).session).session ∧
        Reaches q r ∧ r.opened = q.opened ∧ .acquire n ∈ gained q r := by
  have hstart : Session.start Step.localSession.settings .server = .ok Step.localSession := rfl
  have hpool : ((Step.performAll slowClosing).run Step.localSession).session.holdsPool = true := rfl
  obtain ⟨r, n, hr⟩ :=
    (lease_after_closing_iff hstart slowClosing hpool).2.mpr (by decide +kernel)
  exact ⟨hstart, hpool, _, r, n, rfl, hr⟩

/-- A connection is leased from a pool that has been closed. -/
theorem exists_lease_of_closed_pool :
    ∃ before after, ((Step.performAll (slowClosing ++
        [.shutdown, .change [.shutdownError none], .query "DO 2".toList .null])).run
          Step.localSession).session.trace.events = before ++ .closePool :: after ∧
      .acquire 2 ∈ after ∧ ∀ e ∈ after, e.isCreation = false := by
  refine ⟨[.createPool Step.localSession.settings, .acquire 1, .execute 1 "DO 1".toList .null,
    .closeCursor 1, .release 1, .wakeUp], [.waitClosed, .acquire 2,
    .execute 2 "DO 2".toList .null, .closeCursor 2, .release 2, .wakeUp], rfl, ?_, ?_⟩
  · exact .tail _ (.head _)
  · decide

end Gateway

end SqlGateway
