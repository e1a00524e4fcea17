import SqlGateway.Session.Gateway

/-!
# Pools that were opened and pools that were let go

The log has a line for every pool that was opened and for every one that was let go, so the numbers
of both can be read off a session (`Session.opened`, `Session.letGo`). This module says what may
become of them while something is done: `Unopened` if no pool is opened, `Opening` for the pieces in
which one is, and `Course` for both, one after the other. All say that the pools that were opened
stay in balance with those that were let go and the one that is held.
-/

namespace SqlGateway

namespace Event

/-- The event asks the server for a pool. -/
def isCreation : Event → Bool
  | .createPool _ => true
  | _ => false

/-- The event leases a connection. -/
def isLease : Event → Bool
  | .acquire _ => true
  | _ => false

end Event

namespace Session

/-! ## Counts -/

/-- The line of the log for a pool that has been let go. -/
def letGoLine : Text := "MySQL pool closed".toList

/-- The line of the log for a statement. -/
def statementLine (sql : Text) : Text := "Query: ".toList ++ sql

/-- How many pools have been opened. -/
def opened (s : Session) : Nat := s.trace.log.count (Gateway.openedLine s.settings)

/-- How many pools have been let go. -/
def letGo (s : Session) : Nat := s.trace.log.count letGoLine

/-- The events that a later session has seen and an earlier one has not. -/
def gained (s s' : Session) : List Event := (s'.trace.since s.trace).events

theorem gained_of_append {s s' : Session} {es : List Event}
    (h : s'.trace.events = s.trace.events ++ es) : gained s s' = es := by
  simp [gained, Trace.since, h]

theorem openedLine_head (settings : Settings) :
    (Gateway.openedLine settings).take 12 = "MySQL pool o".toList := rfl

theorem letGoLine_ne_openedLine (settings : Settings) :
    letGoLine ≠ Gateway.openedLine settings := by
  intro h
  have hhead := congrArg (List.take 12) h
  rw [openedLine_head] at hhead
  exact absurd hhead (by decide)

theorem statementLine_ne_openedLine (sql : Text) (settings : Settings) :
    statementLine sql ≠ Gateway.openedLine settings := by
  intro h
  have hhead : some 'Q' = some 'M' := congrArg List.head? h
  cases hhead

theorem statementLine_ne_letGoLine (sql : Text) : statementLine sql ≠ letGoLine := by
  intro h
  have hhead : some 'Q' = some 'M' := congrArg List.head? h
  cases hhead

/-! ## While no pool is opened -/

/-- No pool is opened between two sessions: the one that is held may be let go, and without one no
connection is leased. -/
structure Unopened (s s' : Session) : Prop where
  backend : s'.backend = s.backend
  settings : s'.settings = s.settings
  log : ∃ lines, s'.trace.log = s.trace.log ++ lines ∧ Gateway.openedLine s.settings ∉ lines ∧
    lines.count letGoLine + s'.holdsPool.toNat = s.holdsPool.toNat
  events : ∃ es, s'.trace.events = s.trace.events ++ es ∧ (∀ e ∈ es, e.isCreation = false) ∧
    (s.holdsPool = false → ∀ e ∈ es, e.isLease = false)

namespace Unopened

variable {s s₁ s₂ s₃ : Session}

/-- What changes neither the pool nor the trace. -/
theorem of_same {s' : Session} (hbackend : s'.backend = s.backend)
    (hsettings : s'.settings = s.settings) (hpool : s'.holdsPool = s.holdsPool)
    (htrace : s'.trace = s.trace) : Unopened s s' := by
  refine ⟨hbackend, hsettings, ⟨[], ?_, List.not_mem_nil, ?_⟩, ⟨[], ?_, nofun, fun _ => nofun⟩⟩
  · rw [htrace, List.append_nil]
  · rw [hpool, List.count_nil, Nat.zero_add]
  · rw [htrace, List.append_nil]

theorem refl (s : Session) : Unopened s s := of_same rfl rfl rfl rfl

/-- What only adds to the trace, and leases nothing. -/
theorem leave {es : List Event} {lines : List Text}
    (hevents : ∀ e ∈ es, e.isCreation = false ∧ e.isLease = false)
    (hopened : Gateway.openedLine s.settings ∉ lines) (hletGo : letGoLine ∉ lines) :
    Unopened s { s with trace := s.trace ++ ⟨es, lines⟩ } where
  backend := rfl
  settings := rfl
  log := ⟨lines, rfl, hopened, by rw [List.count_eq_zero.mpr hletGo, Nat.zero_add]⟩
  events := ⟨es, rfl, fun e he => (hevents e he).1, fun _ e he => (hevents e he).2⟩

theorem holdsPool_eq_false (h : Unopened s₁ s₂) (hpool : s₁.holdsPool = false) :
    s₂.holdsPool = false := by
  obtain ⟨lines, -, -, hcount⟩ := h.log
  rw [hpool, Bool.toNat_false] at hcount
  have hnone : s₂.holdsPool.toNat = 0 := by omega
  simpa using hnone

theorem trans (h : Unopened s₁ s₂) (h' : Unopened s₂ s₃) : Unopened s₁ s₃ := by
  obtain ⟨lines, hlog, hopened, hletGo⟩ := h.log
  obtain ⟨lines', hlog', hopened', hletGo'⟩ := h'.log
  obtain ⟨es, hes, hcreation, hlease⟩ := h.events
  obtain ⟨es', hes', hcreation', hlease'⟩ := h'.events
  refine ⟨h'.backend.trans h.backend, h'.settings.trans h.settings,
    ⟨lines ++ lines', ?_, ?_, ?_⟩, ⟨es ++ es', ?_, ?_, ?_⟩⟩
  · rw [hlog', hlog, List.append_assoc]
  · rw [h.settings] at hopened'
    simp [hopened, hopened']
  · rw [List.count_append]
    omega
  · rw [hes', hes, List.append_assoc]
  · intro e he
    rcases List.mem_append.mp he with he | he
    · exact hcreation e he
    · exact hcreation' e he
  · intro hpool e he
    rcases List.mem_append.mp he with he | he
    · exact hlease hpool e he
    · exact hlease' (h.holdsPool_eq_false hpool) e he

theorem opened_eq (h : Unopened s₁ s₂) : s₂.opened = s₁.opened := by
  obtain ⟨lines, hlog, hopened, -⟩ := h.log
  rw [opened, opened, h.settings, hlog, List.count_append, List.count_eq_zero.mpr hopened,
    Nat.add_zero]

theorem letGo_eq (h : Unopened s₁ s₂) :
    s₂.letGo + s₂.holdsPool.toNat = s₁.letGo + s₁.holdsPool.toNat ∧ s₁.letGo ≤ s₂.letGo := by
  obtain ⟨lines, hlog, -, hletGo⟩ := h.log
  have hcount : s₂.letGo = s₁.letGo + lines.count letGoLine := by
    rw [letGo, letGo, hlog, List.count_append]
  omega

end Unopened

/-! ## While a pool is opened -/

/-- What an action does in one turn while it opens a pool: it waits, it asks the server for the
pool, or it takes the pool over. -/
inductive Opening (s : Session) : Session → Prop
  | waits : Opening s s
  | asks : s.holdsPool = false →
      Opening s { s with trace := s.trace ++ ⟨[.createPool s.settings], []⟩ }
  | takes : s.holdsPool = false → Opening s
      { s with holdsPool := true, trace := s.trace ++ ⟨[], [Gateway.openedLine s.settings]⟩ }

/-! ## Whatever is done -/

/-- The pools that were opened stay in balance with those that were let go and the one that is held.
Pools have the settings of the session, and no connection is leased before there is a pool. -/
structure Course (s s' : Session) : Prop where
  backend : s'.backend = s.backend
  settings : s'.settings = s.settings
  opened_le : s.opened ≤ s'.opened
  letGo_le : s.letGo ≤ s'.letGo
  balance : s'.opened + (s.letGo + s.holdsPool.toNat) =
    s.opened + (s'.letGo + s'.holdsPool.toNat)
  events : ∃ es, s'.trace.events = s.trace.events ++ es ∧
    (∀ e ∈ es, e.isCreation = true → e = .createPool s.settings) ∧
    (s.holdsPool = false → s'.opened = s.opened → ∀ e ∈ es, e.isLease = false)

theorem Unopened.course {s s' : Session} (h : Unopened s s') : Course s s' := by
  obtain ⟨es, hes, hcreation, hlease⟩ := h.events
  have hopened := h.opened_eq
  obtain ⟨hletGo, hle⟩ := h.letGo_eq
  refine ⟨h.backend, h.settings, Nat.le_of_eq hopened.symm, hle, by omega, ⟨es, hes, ?_, ?_⟩⟩
  · intro e he hasks
    rw [hcreation e he] at hasks
    cases hasks
  · exact fun hpool _ => hlease hpool

theorem Opening.course {s s' : Session} (h : Opening s s') : Course s s' := by
  cases h with
  | waits => exact (Unopened.refl s).course
  | asks hpool =>
    have hlog : (s.trace ++ ⟨[.createPool s.settings], []⟩).log = s.trace.log := List.append_nil _
    refine ⟨rfl, rfl, ?_, ?_, ?_, ⟨[.createPool s.settings], rfl, ?_, ?_⟩⟩
    · simp only [opened, hlog, Nat.le_refl]
    · simp only [letGo, hlog, Nat.le_refl]
    · simp only [opened, letGo, hlog]
    · intro e he _
      exact List.mem_singleton.mp he
    · rintro - - e he
      obtain rfl := List.mem_singleton.mp he
      rfl
  | takes hpool =>
    have hopened : opened { s with
        holdsPool := true
        trace := s.trace ++ ⟨[], [Gateway.openedLine s.settings]⟩ } = s.opened + 1 := by
      simp [opened]
    have hletGo : letGo { s with
        holdsPool := true
        trace := s.trace ++ ⟨[], [Gateway.openedLine s.settings]⟩ } = s.letGo := by
      simp [letGo, (letGoLine_ne_openedLine s.settings).symm]
    refine ⟨rfl, rfl, ?_, ?_, ?_, ⟨[], rfl, nofun, fun _ _ => nofun⟩⟩
    · omega
    · omega
    · rw [hopened, hletGo, hpool]
      simp only [Bool.toNat_true, Bool.toNat_false]
      omega

namespace Course

variable {s s₁ s₂ s₃ : Session}

theorem refl (s : Session) : Course s s := (Unopened.refl s).course

theorem trans (h : Course s₁ s₂) (h' : Course s₂ s₃) : Course s₁ s₃ := by
  have hopened := h.opened_le
  have hopened' := h'.opened_le
  have hletGo := h.letGo_le
  have hletGo' := h'.letGo_le
  have hbalance := h.balance
  have hbalance' := h'.balance
  obtain ⟨es, hes, hcreation, hlease⟩ := h.events
  obtain ⟨es', hes', hcreation', hlease'⟩ := h'.events
  refine ⟨h'.backend.trans h.backend, h'.settings.trans h.settings, by omega, by omega, by omega,
    ⟨es ++ es', ?_, ?_, ?_⟩⟩
  · rw [hes', hes, List.append_assoc]
  · intro e he hasks
    rcases List.mem_append.mp he with he | he
    · exact hcreation e he hasks
    · rw [hcreation' e he hasks, h.settings]
  · intro hpool hsame e he
    rcases List.mem_append.mp he with he | he
    · exact hlease hpool (by omega) e he
    · have hstill : s₂.holdsPool = false := by
        rw [hpool, Bool.toNat_false] at hbalance
        have hnone : s₂.holdsPool.toNat = 0 := by omega
        simpa using hnone
      exact hlease' hstill (by omega) e he

/-- From the beginning of a session on, all pools that were opened have been let go but the one that
is held. -/
theorem balanced {settings : Settings}
    (h : Course { settings := settings, backend := .server } s) :
    s.opened = s.letGo + s.holdsPool.toNat := by
  have hbalance := h.balance
  have hopened : opened { settings := settings, backend := .server } = 0 := rfl
  have hletGo : letGo { settings := settings, backend := .server } = 0 := rfl
  rw [hopened, hletGo, Bool.toNat_false] at hbalance
  omega

end Course

end Session

end SqlGateway
