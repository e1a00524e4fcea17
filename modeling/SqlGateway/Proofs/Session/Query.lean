import SqlGateway.Proofs.Session.Among
import SqlGateway.Proofs.Session.Closing

/-!
# Statements of a pool

What a statement on a connection of its own comes to: a lease that fails, or a lease, the statement
and the end of the lease (`Pool.query_run`). The caller is told how the statement ended only if the
connection could be given back; otherwise the error of the give-back takes its place, whether the
statement failed or not (`Pool.query_reports`). Others that have their turns meanwhile may lease,
open a pool or close it, but the outcome is decided in the turn of the lease (`Pool.query_ends`).
-/

namespace SqlGateway

open Session

namespace Gateway

open SqlGateway.Action

variable {s s' : Session} {n : Nat}

/-- A gateway that the caller supplied needs no pool. -/
theorem acquire_supplied (hbackend : s.backend = .supplied) : acquire.run s = s.leaseRun := by
  obtain ⟨settings, backend, script, leased, holdsPool, opening, trace⟩ := s
  cases hbackend
  exact leaseNext_run _

/-- However a lease ends, script and backend stay as they are. -/
theorem acquire_script (s : Session) :
    (acquire.run s).session.script = s.script ∧ (acquire.run s).session.backend = s.backend := by
  have hlease (p : Session) :
      p.leaseRun.session.script = p.script ∧ p.leaseRun.session.backend = p.backend := by
    rw [leaseRun]
    cases p.script.acquireError <;> exact ⟨rfl, rfl⟩
  cases hbackend : s.backend with
  | supplied =>
    rw [acquire_supplied hbackend, ← hbackend]
    exact hlease s
  | server =>
    cases hpool : s.holdsPool with
    | true =>
      rw [acquire_held hbackend hpool, ← hbackend]
      exact hlease s
    | false =>
      rw [← hbackend]
      rcases acquire_cases_unheld hbackend hpool with
        ⟨-, f, hfails⟩ | ⟨-, signal, -, hfails⟩ | ⟨-, -, hopens⟩
      · rw [hfails]
        exact ⟨rfl, rfl⟩
      · rw [hfails]
        exact ⟨rfl, rfl⟩
      · rw [hopens]
        exact hlease _

/-- What the end of a lease leaves while there is a pool for the connection. -/
def releasedEvents (s : Session) (n : Nat) : List Event :=
  match s.backend with
  | .supplied => [.release n]
  | .server => if s.script.releaseError.isNone then [.release n, .wakeUp] else [.release n]

theorem releasedEvents_eq (s : Session) (n : Nat) :
    ∃ back after, releasedEvents s n = back :: after ∧ GivesBack s.backend n back ∧
      ∀ e ∈ after, e.isQuiet = true := by
  unfold releasedEvents
  cases s.backend with
  | supplied => exact ⟨_, _, rfl, .release _ n, List.forall_mem_nil _⟩
  | server =>
    dsimp only
    split
    · exact ⟨_, _, rfl, .release _ n, by simp [Event.isQuiet, Event.connection?]⟩
    · exact ⟨_, _, rfl, .release _ n, List.forall_mem_nil _⟩

/-- A connection that there is a pool for is given back, unless the script demands an error. -/
theorem release_run (hpool : s.backend = .server → s.holdsPool = true) (n : Nat) :
    (release n).run s =
      ⟨match s.script.releaseError with
        | some signal => .error (.signalled signal)
        | none => .ok (),
        { s with trace := s.trace ++ ⟨releasedEvents s n, []⟩ }⟩ := by
  obtain ⟨settings, backend, script, leased, holdsPool, opening, trace⟩ := s
  unfold releasedEvents
  cases backend with
  | supplied =>
    change Action.run (Action.emit _ >>= fun _ => Action.signal script.releaseError) _ = _
    dsimp only
    cases script.releaseError <;> rfl
  | server =>
    rw [release_held rfl (hpool rfl)]
    dsimp only
    cases script.releaseError <;> rfl

/-! ### Among others -/

theorem execute_isPrompt (n : Nat) (sql : Text) (parameters : Value) :
    (execute n sql parameters).IsPrompt := by
  refine isPrompt_session.bind fun s => ?_
  split
  · exact (isPrompt_modify _).bind fun _ => (isPrompt_signal _).bind fun _ => trivial
  · refine isPrompt_session.bind fun s => IsPrompt.ensure ?_ (isPrompt_modify _)
    refine (isPrompt_modify _).bind fun _ => (isPrompt_signal _).bind fun _ => ?_
    split
    · exact (isPrompt_modify _).bind fun _ => trivial
    · trivial

theorem leaseNext_isPrompt : leaseNext.IsPrompt :=
  isPrompt_session.bind fun _ => (isPrompt_signal _).bind fun _ => (isPrompt_modify _).bind fun _ =>
    (isPrompt_modify _).bind fun _ => trivial

variable {finds : Session → Prop} {t : Session}

/-- An opening that ends well leaves a pool. -/
theorem holdsPool_of_openPool_ends (h : openPool.Ends finds s (.ok ()) t) :
    t.holdsPool = true := by
  replace h := h.of_session
  revert h
  cases Patience.ofValue s.settings.connectTimeout with
  | fails cause detail => nofun
  | expired =>
    intro h
    obtain ⟨s₁, -, h₁⟩ := h.of_giveWay
    obtain ⟨s₂, -, h₂⟩ := h₁.of_giveWay
    obtain ⟨s₃, -, h₃⟩ := h₂.of_giveWay
    cases h₃
  | waits =>
    intro h
    obtain ⟨s₁, -, h₁⟩ := h.of_giveWay
    obtain ⟨s₂, -, h₂⟩ := h₁.of_session.of_modify.of_giveWay
    obtain ⟨s₃, -, h₃⟩ := h₂.of_giveWay
    revert h₃
    cases s₁.script.createError with
    | some signal => nofun
    | none =>
      intro h₃
      cases h₃.of_modify.run_eq (isPrompt_modify _)
      rfl

theorem holdsPool_of_openPoolIfNone_ends (h : openPoolIfNone.Ends finds s (.ok ()) t) :
    t.holdsPool = true := by
  replace h := h.of_session
  cases hpool : s.holdsPool with
  | true =>
    rw [if_pos hpool] at h
    cases h
    exact hpool
  | false =>
    rw [if_neg (by rw [hpool]; exact Bool.false_ne_true)] at h
    exact holdsPool_of_openPool_ends h

/-- The right to open a pool is not given back before there is one, so who has waited for it in vain
finds the pool that another has opened. -/
theorem holdsPool_of_ensurePool_ends (h : ensurePool.Ends finds s (.ok ()) t)
    (hbackend : t.backend = .server) : t.holdsPool = true := by
  replace h := h.of_session
  have hexclusive {s' : Session}
      (h : (openPoolIfNone.ensure (.unlock (.ended (.ok ())))).Ends finds s' (.ok ()) t) :
      t.holdsPool = true := by
    obtain ⟨first, p, closed, hopen, hunlock, hlast⟩ := h.of_ensure
    cases hunlock with
    | unlock hunlock | handOn hunlock =>
      cases hunlock
      cases hlast
      have hkept := holdsPool_of_openPoolIfNone_ends hopen
      exact hkept
  cases hserver : s.backend with
  | supplied =>
    rw [hserver] at h
    cases h
    cases hserver.symm.trans hbackend
  | server =>
    rw [hserver] at h
    cases hpool : s.holdsPool with
    | true =>
      rw [hpool] at h
      cases h
      exact hpool
    | false =>
      rw [hpool] at h
      cases h with
      | lock h => exact hexclusive h
      | wait _ h => exact hexclusive h

/-- A lease on a server that ends well leaves a pool, whoever has opened it. -/
theorem holdsPool_of_ends (h : acquire.Ends finds s (.ok n) t) (hbackend : t.backend = .server) :
    t.holdsPool = true := by
  change (ensurePool >>= fun _ => leaseNext).Ends finds s (.ok n) t at h
  obtain ⟨first, p, hensure, hlease⟩ := h.of_bind
  cases first with
  | error e => cases hlease
  | ok _ =>
    have hrun := Ends.run_eq leaseNext_isPrompt hlease
    rw [leaseNext_run, leaseRun] at hrun
    revert hrun
    cases p.script.acquireError with
    | some signal => rintro ⟨⟩
    | none =>
      rintro ⟨⟩
      have hkept : p.holdsPool = true := holdsPool_of_ensurePool_ends hensure hbackend
      exact hkept

/-- How the give-back of a connection ends is decided before others have their turns. -/
theorem release_ends {outcome : Except Fault Unit} (h : (release n).Ends finds s outcome t)
    (hpool : s.backend = .server → s.holdsPool = true) :
    outcome = match s.script.releaseError with
      | some signal => .error (.signalled signal)
      | none => .ok () := by
  replace h := h.of_session
  cases hbackend : s.backend with
  | supplied =>
    rw [hbackend] at h
    replace h := h.of_modify
    revert h
    cases s.script.releaseError <;> rintro ⟨⟩ <;> rfl
  | server =>
    rw [hbackend, hpool hbackend] at h
    replace h := h.of_modify
    revert h
    cases s.script.releaseError with
    | none =>
      intro h
      obtain ⟨s₁, -, h₁⟩ := h.of_giveWay
      cases h₁.of_modify with
      | turn _ h₂ =>
        cases h₂
        rfl
    | some signal =>
      rintro ⟨⟩
      rfl

end Gateway

/-- The events of a statement on a connection of its own: those of the pool, and if a connection
could be leased, the statement on it and its give-back. -/
inductive Query.Events (backend : Backend) (sql : Text) (parameters : Value) : List Event → Prop
  | refused {before : List Event} : (∀ e ∈ before, e.isQuiet = true) →
      Events backend sql parameters before
  | leased {before ts after : List Event} {n : Nat} {back : Event} :
      (∀ e ∈ before, e.isQuiet = true) →
      Statement.Events backend n (.execute n sql parameters :: ts) → GivesBack backend n back →
      (∀ e ∈ after, e.isQuiet = true) →
      Events backend sql parameters
        (before ++ .acquire n :: .execute n sql parameters :: (ts ++ back :: after))

namespace Pool

/-- What the caller of a statement is told: the error of the give-back if there is one, and
otherwise how the statement ended. -/
def reported (script : Script) (sql : Text) : Except Fault QueryResult :=
  match script.releaseError with
  | some signal => .error (.signalled signal)
  | none => Gateway.executed script sql

/-- The session after a statement on the connection that was leased last, and its give-back. -/
def queried (s : Session) (n : Nat) (sql : Text) (parameters : Value) : Session :=
  { s with trace := s.trace ++
    ⟨Gateway.executedEvents s n sql parameters ++ Gateway.releasedEvents s n, [statementLine sql]⟩ }

/-- The line of the log comes before the statement. -/
theorem logged_run (n : Nat) (sql : Text) (parameters : Value) (s : Session) :
    (Action.log (statementLine sql) >>= fun _ => Gateway.execute n sql parameters).run s =
      ⟨Gateway.executed s.script sql,
        { s with trace := s.trace ++
          ⟨Gateway.executedEvents s n sql parameters, [statementLine sql]⟩ }⟩ := by
  rw [Action.run_bind]
  change (Gateway.execute n sql parameters).run
    { s with trace := s.trace ++ ⟨[], [statementLine sql]⟩ } = _
  rw [Gateway.execute_run]
  dsimp only
  rw [Trace.append_assoc]
  rfl

/-- A statement of a pool is a lease, the statement itself and the give-back, or a lease that
failed. -/
theorem query_run (sql : Text) (parameters : Value) (s : Session) :
    (query sql parameters).run s =
      match Gateway.acquire.run s with
      | ⟨.error f, s'⟩ => ⟨.error (leaseFault f), s'⟩
      | ⟨.ok n, s'⟩ => ⟨reported s'.script sql, queried s' n sql parameters⟩ := by
  rw [query, withConnection, Action.run_bind, Action.run_mapFault]
  cases hlease : Gateway.acquire.run s with
  | mk outcome s' =>
    cases outcome with
    | error f => rfl
    | ok n =>
      have hpool : s'.backend = .server → s'.holdsPool = true := fun hbackend => by
        have hkept := (Gateway.acquire_script s).2
        rw [hlease] at hkept
        exact Gateway.holdsPool_of_acquire (hkept.symm.trans hbackend) hlease
      change ((Action.log (statementLine sql) >>= fun _ =>
        Gateway.execute n sql parameters).ensure (Gateway.release n)).run s' = _
      rw [Action.run_ensure, logged_run]
      have hrelease := Gateway.release_run (s := { s' with
        trace := s'.trace ++ ⟨Gateway.executedEvents s' n sql parameters, [statementLine sql]⟩ })
        hpool n
      dsimp only at hrelease ⊢
      rw [hrelease, reported, queried, Trace.append_assoc]
      cases s'.script.releaseError <;> rfl

/-- Among others as well a statement is a lease that failed, or the statement itself on the
connection that was leased. Its outcome is decided in the session in which it was leased, whatever
becomes of the session while the connection is given back. -/
theorem query_ends {finds : Session → Prop} {sql : Text} {parameters : Value} {s t : Session}
    {outcome : Except Fault QueryResult} (h : (query sql parameters).Ends finds s outcome t) :
    (∃ f, Gateway.acquire.Ends finds s (.error f) t ∧ outcome = .error (leaseFault f)) ∨
      ∃ n p, Gateway.acquire.Ends finds s (.ok n) p ∧ outcome = reported p.script sql := by
  obtain ⟨first, p, hlease, hrest⟩ := h.of_bind
  obtain ⟨leased, hacquire, rfl⟩ := hlease.of_mapFault
  cases leased with
  | error f =>
    cases hrest
    exact Or.inl ⟨f, hacquire, rfl⟩
  | ok n =>
    have hpool := Gateway.holdsPool_of_ends hacquire
    refine Or.inr ⟨n, p, hacquire, ?_⟩
    obtain ⟨ended, q, closed, hbody, hrelease, rfl⟩ := Action.Ends.of_ensure hrest
    have hprompt : (Action.log (statementLine sql) >>= fun _ =>
        Gateway.execute n sql parameters).IsPrompt :=
      (Action.isPrompt_modify _).bind fun _ => Gateway.execute_isPrompt n sql parameters
    have hrun := Action.Ends.run_eq hprompt hbody
    rw [logged_run] at hrun
    cases hrun
    have hclosed := Gateway.release_ends hrelease hpool
    dsimp only at hclosed
    rw [hclosed, reported]
    cases p.script.releaseError <;> rfl

/-- The caller is told how the statement ended exactly if the connection could be given back, or
if that ended in the same error. -/
theorem reported_eq_executed_iff (script : Script) (sql : Text) :
    reported script sql = Gateway.executed script sql ↔
      script.releaseError = none ∨ script.releaseError = script.executeError := by
  unfold reported Gateway.executed
  cases script.releaseError with
  | none => exact ⟨fun _ => Or.inl rfl, fun _ => rfl⟩
  | some signal =>
    cases script.executeError with
    | none => exact ⟨nofun, nofun⟩
    | some signal' =>
      dsimp only
      constructor
      · intro h
        cases h
        exact Or.inr rfl
      · rintro (h | h)
        · cases h
        · cases h
          rfl

/-- A lease that fails leaves the events of the pool only. -/
theorem gained_of_refused {s s' : Session} {f : Fault}
    (hlease : Gateway.acquire.run s = ⟨.error f, s'⟩) : ∀ e ∈ gained s s', e.isQuiet = true := by
  rcases Gateway.acquire_cases s with ⟨_, -, -, -, es, hes, hquiet⟩ | ⟨_, -, hrun⟩
  · rw [hlease] at hes
    rw [gained_of_append hes]
    exact hquiet
  · cases hlease.symm.trans hrun

/-- Whatever a statement ends in, its connection is given back. -/
theorem query_events (sql : Text) (parameters : Value) (s : Session) :
    Query.Events s.backend sql parameters (gained s ((query sql parameters).run s).session) := by
  rw [query_run]
  rcases Gateway.acquire_cases s with ⟨f, hfails, -⟩ | ⟨s₁, ⟨hbackend, -, es, hes, hquiet⟩, hlease⟩
  · cases hrun : Gateway.acquire.run s with
    | mk outcome s' =>
      rw [hrun] at hfails
      cases hfails
      exact .refused (gained_of_refused hrun)
  · rw [hlease, ← hbackend]
    obtain ⟨ts, hts, hstatement⟩ :=
      Gateway.executedEvents_eq s₁.lease (s₁.leased + 1) sql parameters
    obtain ⟨back, after, hback, hgives, hafter⟩ :=
      Gateway.releasedEvents_eq s₁.lease (s₁.leased + 1)
    have hgained : gained s (queried s₁.lease (s₁.leased + 1) sql parameters) =
        es ++ .acquire (s₁.leased + 1) :: .execute (s₁.leased + 1) sql parameters ::
          (ts ++ back :: after) := by
      refine gained_of_append ?_
      change (s₁.trace.events ++ [.acquire _]) ++
        (Gateway.executedEvents s₁.lease _ sql parameters ++ Gateway.releasedEvents s₁.lease _) = _
      rw [hes, hts, hback]
      simp
    rw [hgained]
    exact .leased hquiet hstatement hgives hafter

/-- A statement among steps that are started together ends as it may among the others. -/
theorem gather_query {sql : Text} {parameters : Value} {s : Session} {steps : List Step} {i : Nat}
    {outcome : Outcome} (hstep : steps[i]? = some (.query sql parameters))
    (houtcome : (Crew.gather steps s).1[i]? = some outcome) :
    ∃ s₀ ended t, Crew.Reached steps s s₀ ∧
      (query sql parameters).Ends (Crew.Reached steps s) s₀ ended t ∧
      outcome = (ended.map Reply.result).mapError Fault.collected := by
  rcases Crew.gather_ends steps s with hnone | hall
  · rw [hnone] at houtcome
    cases houtcome
  · obtain ⟨replied, ⟨s₀, t, hreached, hends⟩, rfl⟩ := hall.endsIn hstep houtcome
    rw [Step.perform] at hends
    obtain ⟨ended, hquery, rfl⟩ := hends.of_map
    exact ⟨s₀, ended, t, hreached, hquery, rfl⟩

/-- An error that is demanded after the statement has begun, but before its connection is leased. -/
example :
    (Crew.gather [.query ['a'] .null, .change [.releaseError (some ⟨.connection, ['g']⟩)]]
      Step.localSession).1 = [.error (.signalled ⟨.connection, ['g']⟩), .ok .nothing] := rfl

/-- Without a lease the caller is told why there was none, and nothing is run or given back. With
one the statement is run and the connection given back, and the caller is told how the statement
ended unless the give-back fails. So it is of a statement that is carried out by itself and of one
that takes turns with others, as the steps do that are started together: then the session in which
the connection was leased decides. -/
theorem query_reports (sql : Text) (parameters : Value) (s : Session) :
    (∀ f s', Gateway.acquire.run s = ⟨.error f, s'⟩ →
      (query sql parameters).run s = ⟨.error (leaseFault f), s'⟩ ∧
      (∀ e ∈ gained s s', e.isQuiet = true) ∧
      (f.kind ≠ .cancelled → (leaseFault f).kind = .acquire ∧
        (leaseFault f).message = "Cannot acquire connection: ".toList ++ f.message ∧
        (leaseFault f).cause? = some f.kind)) ∧
    (∀ n s', Gateway.acquire.run s = ⟨.ok n, s'⟩ →
      gained s' ((query sql parameters).run s).session =
        Gateway.executedEvents s' n sql parameters ++ Gateway.releasedEvents s' n ∧
      ((query sql parameters).run s).outcome = reported s.script sql ∧
      (((query sql parameters).run s).outcome = Gateway.executed s.script sql ↔
        s.script.releaseError = none ∨ s.script.releaseError = s.script.executeError)) ∧
    (∀ finds outcome t, (query sql parameters).Ends finds s outcome t →
      (∃ f, Gateway.acquire.Ends finds s (.error f) t ∧ outcome = .error (leaseFault f)) ∨
      ∃ n p, Gateway.acquire.Ends finds s (.ok n) p ∧ outcome = reported p.script sql) ∧
    ∀ (steps : List Step) (i : Nat) (outcome : Outcome),
      steps[i]? = some (.query sql parameters) → (Crew.gather steps s).1[i]? = some outcome →
      ∃ s₀ ended t, Crew.Reached steps s s₀ ∧
        (query sql parameters).Ends (Crew.Reached steps s) s₀ ended t ∧
        outcome = (ended.map Reply.result).mapError Fault.collected := by
  refine ⟨?_, ?_, fun _ _ _ => query_ends, fun _ _ _ => gather_query⟩
  · intro f s' hlease
    refine ⟨?_, gained_of_refused hlease, fun hkind => ?_⟩
    · rw [query_run, hlease]
    · rw [leaseFault, if_neg hkind]
      exact ⟨rfl, rfl, rfl⟩
  · intro n s' hlease
    have hscript := (Gateway.acquire_script s).1
    rw [hlease] at hscript
    have hgained : gained s' (queried s' n sql parameters) =
        Gateway.executedEvents s' n sql parameters ++ Gateway.releasedEvents s' n :=
      gained_append (t := ⟨_, [statementLine sql]⟩) rfl
    rw [query_run, hlease, ← hscript]
    exact ⟨hgained, rfl, reported_eq_executed_iff s'.script sql⟩

/-- The server rejects statements and takes no connection back. -/
def rejecting : List Step :=
  [.change [.executeError (some ⟨.runtime, "syntax".toList⟩),
    .releaseError (some ⟨.connection, "gone".toList⟩)]]

/-- The error of the statement is lost when the connection cannot be given back. -/
theorem exists_query_hides_error :
    ∃ s, Session.start Step.localSession.settings .supplied = .ok s ∧
      ∃ n s' e, Gateway.acquire.run ((Step.performAll rejecting).run s).session = ⟨.ok n, s'⟩ ∧
        s'.script.executeError = some e ∧
        ((query "DO 1".toList .null).run ((Step.performAll rejecting).run s).session).outcome ≠
          .error (.signalled e) := by
  let s : Session := { settings := Step.localSession.settings, backend := .supplied }
  let p : Session := ((Step.performAll rejecting).run s).session
  have hlease : Gateway.acquire.run p = ⟨.ok 1, p.lease⟩ := Gateway.acquire_supplied rfl
  have hgone : ((query "DO 1".toList .null).run p).outcome =
      .error (.signalled ⟨.connection, "gone".toList⟩) := by
    rw [query_run, hlease]
    rfl
  refine ⟨s, rfl, 1, p.lease, ⟨.runtime, "syntax".toList⟩, hlease, rfl, fun h => ?_⟩
  have hsame := Fault.signalled.inj (Except.error.inj (hgone.symm.trans h))
  exact absurd hsame (by decide)

end Pool

end SqlGateway
