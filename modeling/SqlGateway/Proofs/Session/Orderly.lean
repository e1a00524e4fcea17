import SqlGateway.Proofs.Session.Balance
import SqlGateway.Session.Perform

/-!
# Orderly actions

An action is orderly if it opens a pool only in its turns with the right to do so, and only if it
found none. What it does in one turn is then one of two things: outside of that right it opens no
pool (`Session.Unopened`), and with it it does no more than open one (`Session.Opening`). Between
two turns others may do as much, so an orderly action relies only on what they leave alone: the
settings, and, while it has the right to open a pool, that there is none.

Every step of a session is orderly, however the steps in it are nested (`Step.perform_orderly`).
-/

namespace SqlGateway

open Session

/-- Where an action stands: it has not the right to open a pool, it has just got it, or it has found
no pool and opens one. -/
inductive Standing where
  | outside
  | entered
  | opening
  deriving DecidableEq

namespace Standing

/-- How an action stands in its next turn. -/
def next : Standing → Standing
  | outside => outside
  | entered | opening => opening

/-- What an action may have done since its turn began. -/
def Does : Standing → Session → Session → Prop
  | opening, s, s' => s'.opening = s.opening ∧ Opening s s'
  | _, s, s' => s'.opening = s.opening ∧ Unopened s s'

/-- What an action knows when its turn begins. -/
def Knows : Standing → Session → Prop
  | opening, s => s.holdsPool = false
  | _, _ => True

end Standing

/-- The session runs on a server with the given settings. -/
structure Session.OnServer (settings : Settings) (s : Session) : Prop where
  backend : s.backend = .server
  settings : s.settings = settings

/-- The action keeps to its standing from a session on; its turn began in the session given first.
-/
def Action.Orderly (settings : Settings) {α : Type} :
    Action α → Standing → Session → Session → Prop
  | .ended _, standing, s₀, s => standing = .outside ∧ standing.Does s₀ s
  | .act change rest, standing, s₀, s => (rest s).Orderly settings standing s₀ (change s)
  | .turn rest, standing, s₀, s => standing.Does s₀ s ∧ standing.next.Knows s ∧
      ∀ s', OnServer settings s' → standing.next.Knows s' →
        rest.Orderly settings standing.next s' s'
  | .lock rest, standing, s₀, s => standing = .outside ∧ standing.Does s₀ s ∧
      ∀ s', OnServer settings s' → rest.Orderly settings .entered s' s'
  | .unlock rest, standing, s₀, s => standing ≠ .outside ∧ standing.Does s₀ s ∧
      ∀ b, rest.Orderly settings .outside { s with opening := b } { s with opening := b }
  | .together _ rest, standing, s₀, s => standing = .outside ∧ standing.Does s₀ s ∧
      ∀ outcomes s', OnServer settings s' → (rest outcomes).Orderly settings .outside s' s'
termination_by structural x => x

namespace Action

variable {α β : Type} {settings : Settings}

/-- What the action does in turns of its own is orderly. -/
def IsOrderly (settings : Settings) (x : Action α) : Prop :=
  ∀ s, OnServer settings s → x.Orderly settings .outside s s

end Action

theorem Standing.Does.onServer {settings : Settings} {standing : Standing} {s s' : Session}
    (h : standing.Does s s') (hs : OnServer settings s) : OnServer settings s' := by
  cases standing with
  | opening =>
    obtain ⟨-, h⟩ := h
    cases h <;> exact ⟨hs.backend, hs.settings⟩
  | outside => exact ⟨h.2.backend.trans hs.backend, h.2.settings.trans hs.settings⟩
  | entered => exact ⟨h.2.backend.trans hs.backend, h.2.settings.trans hs.settings⟩

namespace Action

variable {α β : Type} {settings : Settings}

/-- A turn that began earlier, in which no pool was opened up to now. -/
theorem Orderly.earlier {x : Action α} {s₀ s₁ s : Session} (h : Standing.outside.Does s₀ s₁)
    (hx : x.Orderly settings .outside s₁ s) : x.Orderly settings .outside s₀ s := by
  have hdoes {s₂ : Session} (h' : Standing.outside.Does s₁ s₂) : Standing.outside.Does s₀ s₂ :=
    ⟨h'.1.trans h.1, h.2.trans h'.2⟩
  induction x generalizing s with
  | ended outcome => exact ⟨hx.1, hdoes hx.2⟩
  | act change rest ih => exact ih _ hx
  | turn rest ih => exact ⟨hdoes hx.1, hx.2⟩
  | lock rest ih => exact ⟨rfl, hdoes hx.2.1, hx.2.2⟩
  | unlock rest ih => exact absurd rfl hx.1
  | together steps rest ih => exact ⟨rfl, hdoes hx.2.1, hx.2.2⟩

theorem Orderly.bind {x : Action α} {f : α → Action β} (hf : ∀ a, (f a).IsOrderly settings)
    {standing : Standing} {s₀ s : Session} (hs : OnServer settings s₀)
    (hx : x.Orderly settings standing s₀ s) : (x.bind f).Orderly settings standing s₀ s := by
  induction x generalizing standing s₀ s with
  | ended outcome =>
    cases outcome with
    | error e => exact hx
    | ok a =>
      obtain ⟨rfl, hdoes⟩ := hx
      exact (hf a s (hdoes.onServer hs)).earlier hdoes
  | act change rest ih => exact ih _ hs hx
  | turn rest ih => exact ⟨hx.1, hx.2.1, fun s' hs' hknows => ih hs' (hx.2.2 s' hs' hknows)⟩
  | lock rest ih => exact ⟨hx.1, hx.2.1, fun s' hs' => ih hs' (hx.2.2 s' hs')⟩
  | unlock rest ih =>
    have hserver := hx.2.1.onServer hs
    exact ⟨hx.1, hx.2.1, fun b => ih ⟨hserver.backend, hserver.settings⟩ (hx.2.2 b)⟩
  | together steps rest ih =>
    exact ⟨hx.1, hx.2.1, fun outcomes s' hs' => ih outcomes hs' (hx.2.2 outcomes s' hs')⟩

theorem Orderly.attempt {x : Action α} {standing : Standing} {s₀ s : Session}
    (hx : x.Orderly settings standing s₀ s) : x.attempt.Orderly settings standing s₀ s := by
  induction x generalizing standing s₀ s with
  | ended outcome => exact hx
  | act change rest ih => exact ih _ hx
  | turn rest ih => exact ⟨hx.1, hx.2.1, fun s' hs' hknows => ih (hx.2.2 s' hs' hknows)⟩
  | lock rest ih => exact ⟨hx.1, hx.2.1, fun s' hs' => ih (hx.2.2 s' hs')⟩
  | unlock rest ih => exact ⟨hx.1, hx.2.1, fun b => ih (hx.2.2 b)⟩
  | together steps rest ih =>
    exact ⟨hx.1, hx.2.1, fun outcomes s' hs' => ih outcomes (hx.2.2 outcomes s' hs')⟩

/-! ## Putting actions together -/

theorem attempt_session (f : Session → Action α) :
    (session >>= f).attempt = session >>= fun s => (f s).attempt := rfl

theorem does_refl (s : Session) : Standing.outside.Does s s := ⟨rfl, Unopened.refl s⟩

theorem isOrderly_ended (outcome : Except Fault α) : (ended outcome).IsOrderly settings :=
  fun s _ => ⟨rfl, does_refl s⟩

theorem IsOrderly.bind {x : Action α} {f : α → Action β} (hx : x.IsOrderly settings)
    (hf : ∀ a, (f a).IsOrderly settings) : (x >>= f).IsOrderly settings :=
  fun s hs => (hx s hs).bind hf hs

theorem IsOrderly.attempt {x : Action α} (hx : x.IsOrderly settings) :
    x.attempt.IsOrderly settings := fun s hs => (hx s hs).attempt

theorem IsOrderly.map {x : Action α} (f : α → β) (hx : x.IsOrderly settings) :
    (f <$> x).IsOrderly settings := by
  rw [← bind_pure_comp]
  exact hx.bind fun _ => isOrderly_ended _

theorem IsOrderly.mapFault {x : Action α} (f : Fault → Fault) (hx : x.IsOrderly settings) :
    (x.mapFault f).IsOrderly settings := hx.attempt.bind fun _ => isOrderly_ended _

theorem IsOrderly.ensure {x : Action α} {closing : Action Unit} (hx : x.IsOrderly settings)
    (hclosing : closing.IsOrderly settings) : (x.ensure closing).IsOrderly settings :=
  hx.attempt.bind fun _ => hclosing.bind fun _ => isOrderly_ended _

/-- An action that looks at the session goes on with what it sees. -/
theorem orderly_session {f : Session → Action α} {standing : Standing} {s₀ s : Session} :
    (session >>= f).Orderly settings standing s₀ s ↔ (f s).Orderly settings standing s₀ s := Iff.rfl

theorem isOrderly_session : session.IsOrderly settings := fun s _ => ⟨rfl, does_refl s⟩

theorem IsOrderly.capture {x : Action α} (hx : x.IsOrderly settings) :
    x.capture.IsOrderly settings :=
  isOrderly_session.bind fun _ => hx.attempt.bind fun _ =>
    isOrderly_session.bind fun _ => isOrderly_ended _

theorem isOrderly_signal (error : Option Signal) : (signal error).IsOrderly settings := by
  cases error with
  | none => exact isOrderly_ended _
  | some s => exact isOrderly_ended _

theorem isOrderly_giveWay : giveWay.IsOrderly settings :=
  fun s _ => ⟨does_refl s, trivial, fun s' _ _ => ⟨rfl, does_refl s'⟩⟩

theorem isOrderly_leave {es : List Event} {lines : List Text}
    (hevents : ∀ e ∈ es, e.isCreation = false ∧ e.isLease = false)
    (hopened : Gateway.openedLine settings ∉ lines) (hletGo : letGoLine ∉ lines) :
    (leave ⟨es, lines⟩).IsOrderly settings := by
  intro s hs
  rw [← hs.settings] at hopened
  exact ⟨rfl, rfl, Unopened.leave hevents hopened hletGo⟩

theorem isOrderly_emit {e : Event} (hcreation : e.isCreation = false) (hlease : e.isLease = false) :
    (emit e).IsOrderly settings := by
  refine isOrderly_leave (fun f hf => ?_) List.not_mem_nil List.not_mem_nil
  obtain rfl := List.mem_singleton.mp hf
  exact ⟨hcreation, hlease⟩

theorem isOrderly_statementLine (sql : Text) : (log (statementLine sql)).IsOrderly settings := by
  refine isOrderly_leave nofun ?_ ?_
  · rw [List.mem_singleton]
    exact (statementLine_ne_openedLine sql settings).symm
  · rw [List.mem_singleton]
    exact (statementLine_ne_letGoLine sql).symm

end Action

/-! ## The gateway -/

namespace Gateway

open SqlGateway.Action

variable {settings : Settings}

/-- The lease itself, once there is a pool. -/
def leaseNext : Action Nat := do
  let s ← Action.session
  Action.signal s.script.acquireError
  let connection := s.leased + 1
  Action.modify fun s => { s with leased := connection }
  Action.emit (.acquire connection)
  return connection

theorem unopened_lease {s : Session} (hpool : s.holdsPool = true) :
    Unopened s { s with
      leased := s.leased + 1
      trace := s.trace ++ ⟨[.acquire (s.leased + 1)], []⟩ } := by
  refine ⟨rfl, rfl, ⟨[], rfl, List.not_mem_nil, Nat.zero_add _⟩,
    ⟨[.acquire (s.leased + 1)], rfl, ?_, ?_⟩⟩
  · intro e he
    obtain rfl := List.mem_singleton.mp he
    rfl
  · intro hnone
    rw [hpool] at hnone
    cases hnone

/-- A lease is asked for while there is a pool. -/
theorem leaseNext_orderly {s : Session} (hpool : s.holdsPool = true) :
    leaseNext.Orderly settings .outside s s := by
  change ((signal s.script.acquireError).bind _).Orderly settings .outside s s
  cases s.script.acquireError with
  | some signal => exact ⟨rfl, does_refl s⟩
  | none => exact ⟨rfl, rfl, unopened_lease hpool⟩

/-- The last turn of an opening, for what the script said when the server was asked. -/
def takeOver (settings : Settings) (error : Option Signal) : Action Unit :=
  match error with
  | some signal => fail (openFault settings signal)
  | none => do
    Action.modify fun s => { s with holdsPool := true }
    Action.log (openedLine settings)

/-- The way from the end of an opening to the lease. -/
def leaseAfter (outcome : Except Fault Unit) : Action Nat :=
  .unlock ((ofExcept outcome).bind fun _ => leaseNext)

/-- An opening that failed is given up, with the right to open a pool. -/
theorem leaseAfter_error {standing : Standing} (hstanding : standing ≠ .outside) (f : Fault)
    {s₀ s : Session} (h : standing.Does s₀ s) :
    (leaseAfter (.error f)).Orderly settings standing s₀ s :=
  ⟨hstanding, h, fun _ => ⟨rfl, does_refl _⟩⟩

theorem leaseAfter_ok {standing : Standing} (hstanding : standing ≠ .outside)
    {s₀ s : Session} (h : standing.Does s₀ s) (hpool : s.holdsPool = true) :
    (leaseAfter (.ok ())).Orderly settings standing s₀ s :=
  ⟨hstanding, h, fun _ => leaseNext_orderly hpool⟩

theorem exclusively_leaseNext (x : Action Unit) :
    (x.exclusively >>= fun _ => leaseNext) = .lock (x.attempt >>= leaseAfter) := by
  change Action.lock (x.attempt >>= _ >>= _) = _
  rw [bind_assoc]
  rfl

/-- An opening is orderly from the turn on in which its action has got the right to it: it gives way
before it asks the server, and again before it takes the pool over. -/
theorem openPoolIfNone_orderly {s : Session} (hs : OnServer settings s) :
    (openPoolIfNone.attempt >>= leaseAfter).Orderly settings .entered s s := by
  have hentered (s₁ : Session) : Standing.entered.Does s₁ s₁ := does_refl s₁
  have hwaits (s₁ : Session) : Standing.opening.Does s₁ s₁ := ⟨rfl, .waits⟩
  have hinside : Standing.entered ≠ .outside := nofun
  have hinside' : Standing.opening ≠ .outside := nofun
  rw [openPoolIfNone, attempt_session, bind_assoc, orderly_session]
  cases hpool : s.holdsPool with
  | true => exact leaseAfter_ok hinside (hentered s) hpool
  | false =>
    rw [if_neg Bool.false_ne_true, openPool, attempt_session, bind_assoc, orderly_session]
    cases Patience.ofValue s.settings.connectTimeout with
    | fails cause detail => exact leaseAfter_error hinside _ (hentered s)
    | expired =>
      refine ⟨hentered s, hpool, fun s₁ _ hnone₁ => ⟨hwaits s₁, hnone₁, fun s₂ _ hnone₂ =>
        ⟨hwaits s₂, hnone₂, fun s₃ _ _ => ?_⟩⟩⟩
      exact leaseAfter_error hinside' _ (hwaits s₃)
    | waits =>
      refine ⟨hentered s, hpool, fun s₁ hs₁ hnone₁ => ?_⟩
      have hasks : Standing.opening.Does s₁
          { s₁ with trace := s₁.trace ++ ⟨[.createPool s.settings], []⟩ } := by
        rw [hs.settings, ← hs₁.settings]
        exact ⟨rfl, .asks hnone₁⟩
      refine ⟨hasks, hnone₁, fun s₂ _ hnone₂ => ⟨hwaits s₂, hnone₂, fun s₃ hs₃ hnone₃ => ?_⟩⟩
      change ((takeOver s.settings s₁.script.createError).attempt >>= leaseAfter).Orderly _ _ _ _
      cases s₁.script.createError with
      | some signal => exact leaseAfter_error hinside' _ (hwaits s₃)
      | none =>
        have htakes : Standing.opening.Does s₃ { s₃ with
            holdsPool := true
            trace := s₃.trace ++ ⟨[], [openedLine s.settings]⟩ } := by
          rw [hs.settings, ← hs₃.settings]
          exact ⟨rfl, .takes hnone₃⟩
        exact leaseAfter_ok hinside' htakes rfl

theorem acquire_orderly : acquire.IsOrderly settings := by
  intro s hs
  change (ensurePool >>= fun _ => leaseNext).Orderly settings .outside s s
  rw [ensurePool, bind_assoc, orderly_session, hs.backend]
  cases hpool : s.holdsPool with
  | true => exact leaseNext_orderly hpool
  | false =>
    change (openPoolIfNone.exclusively >>= fun _ => leaseNext).Orderly settings .outside s s
    rw [exclusively_leaseNext]
    exact ⟨rfl, does_refl s, fun s' hs' => openPoolIfNone_orderly hs'⟩

theorem release_orderly (n : Nat) : (release n).IsOrderly settings := by
  intro s hs
  rw [release, orderly_session, hs.backend]
  have hgives : (do
      emit (.release n)
      signal s.script.releaseError
      giveWay
      emit .wakeUp
      giveWay : Action Unit).IsOrderly settings :=
    (isOrderly_emit rfl rfl).bind fun _ => (isOrderly_signal _).bind fun _ =>
      isOrderly_giveWay.bind fun _ => (isOrderly_emit rfl rfl).bind fun _ => isOrderly_giveWay
  have hcloses : (emit (.closeConnection n)).IsOrderly settings := isOrderly_emit rfl rfl
  cases hpool : s.holdsPool with
  | true => simpa only [hpool, if_true] using hgives s hs
  | false => simpa only [hpool, Bool.false_eq_true, if_false] using hcloses s hs

theorem execute_orderly (n : Nat) (sql : Text) (parameters : Value) :
    (execute n sql parameters).IsOrderly settings := by
  intro s hs
  rw [execute, orderly_session, hs.backend]
  refine (isOrderly_session.bind fun s' => IsOrderly.ensure ?_ (isOrderly_emit rfl rfl)) s hs
  refine (isOrderly_emit rfl rfl).bind fun _ => (isOrderly_signal _).bind fun _ => ?_
  split
  · exact (isOrderly_emit rfl rfl).bind fun _ => isOrderly_ended _
  · exact isOrderly_ended _

/-- A pool is let go in one turn with the line of the log that says so. -/
theorem unopened_letGo {s : Session} (hpool : s.holdsPool = true) :
    Unopened s { s with
      holdsPool := false
      trace := s.trace ++ ⟨[], [letGoLine]⟩ } := by
  refine ⟨rfl, rfl, ⟨[letGoLine], rfl, ?_, ?_⟩, ⟨[], rfl, nofun, fun _ => nofun⟩⟩
  · rw [List.mem_singleton]
    exact (letGoLine_ne_openedLine s.settings).symm
  · rw [hpool]
    rfl

theorem shutdown_orderly : shutdown.IsOrderly settings := by
  intro s hs
  have hclosing : Unopened s { s with
      trace := s.trace ++ ⟨[.closePool], []⟩ ++ ⟨[.waitClosed], []⟩ } :=
    (Unopened.leave (by decide) List.not_mem_nil List.not_mem_nil).trans
      (Unopened.leave (by decide) List.not_mem_nil List.not_mem_nil)
  rw [shutdown, orderly_session, hs.backend]
  cases hpool : s.holdsPool with
  | false => exact isOrderly_ended _ s hs
  | true =>
    cases s.script.shutdownError with
    | some signal => exact ⟨rfl, rfl, hclosing⟩
    | none => exact ⟨rfl, rfl, hclosing.trans (unopened_letGo hpool)⟩

end Gateway

/-! ## Steps -/

namespace Pool

open SqlGateway.Action

variable {settings : Settings}

theorem withConnection_orderly {α : Type} {body : Nat → Action α}
    (hbody : ∀ n, (body n).IsOrderly settings) : (withConnection body).IsOrderly settings :=
  (Gateway.acquire_orderly.mapFault _).bind fun n => (hbody n).ensure (Gateway.release_orderly n)

theorem query_orderly (sql : Text) (parameters : Value) :
    (query sql parameters).IsOrderly settings :=
  withConnection_orderly fun n =>
    (isOrderly_statementLine sql).bind fun _ => Gateway.execute_orderly n sql parameters

theorem queryBuilt_orderly (build : ZoneChoice → Except Fault Text) :
    (queryBuilt build).IsOrderly settings :=
  isOrderly_session.bind fun _ => (isOrderly_ended _).bind fun sql => query_orderly sql .null

end Pool

namespace Step

open SqlGateway.Action

variable {settings : Settings}

theorem isOrderly_change (changes : List ScriptChange) :
    (Action.modify fun s => { s with script := changes.foldl Script.change s.script }).IsOrderly
      settings := fun _ _ => ⟨rfl, rfl, .of_same rfl rfl rfl rfl⟩

mutual

/-- Every step is orderly. -/
theorem perform_orderly : ∀ step : Step, step.perform.IsOrderly settings
  | .change changes => by
    rw [perform]
    exact (isOrderly_change changes).bind fun _ => isOrderly_ended _
  | .query sql parameters => by
    rw [perform]
    exact (Pool.query_orderly sql parameters).map _
  | .insert .. | .update .. | .delete .. | .select .. => by
    rw [perform]
    exact (Pool.queryBuilt_orderly _).map _
  | .selectOne .. => by
    rw [perform]
    exact ((Pool.queryBuilt_orderly _).bind fun _ => isOrderly_ended _).map _
  | .literal _ => by
    rw [perform]
    exact (isOrderly_session.bind fun _ => isOrderly_ended _).map _
  | .timestamp _ => by
    rw [perform]
    exact (isOrderly_ended _).map _
  | .shutdown => by
    rw [perform]
    exact Gateway.shutdown_orderly.bind fun _ => isOrderly_ended _
  | .withConnection steps raised => by
    rw [perform]
    exact Pool.withConnection_orderly fun n => (performAll_orderly steps).bind fun _ =>
      (isOrderly_signal raised).bind fun _ => isOrderly_ended _
  | .acquire => by
    rw [perform]
    exact Gateway.acquire_orderly.map _
  | .release n => by
    rw [perform]
    exact (Gateway.release_orderly n).bind fun _ => isOrderly_ended _
  | .execute n sql parameters => by
    rw [perform]
    exact (Gateway.execute_orderly n sql parameters).map _
  | .together steps => by
    rw [perform]
    exact fun s _ => ⟨rfl, does_refl s, fun _ s' _ => ⟨rfl, does_refl s'⟩⟩
  | .faulty _ => by
    rw [perform]
    exact isOrderly_ended _
termination_by structural step => step

/-- So are steps in a row. -/
theorem performAll_orderly : ∀ steps : List Step, (performAll steps).IsOrderly settings
  | [] => by
    rw [performAll]
    exact isOrderly_ended _
  | step :: rest => by
    rw [performAll]
    exact (perform_orderly step).capture.bind fun _ => (performAll_orderly rest).bind fun _ =>
      isOrderly_ended _
termination_by structural steps => steps

end

end Step

end SqlGateway
