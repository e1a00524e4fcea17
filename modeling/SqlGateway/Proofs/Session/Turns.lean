import SqlGateway.Proofs.Session.Orderly
import SqlGateway.Session.Crew

/-!
# Orderly actions taking turns

Of the actions that share a session at most one has the right to open a pool, and the right is free
when none of them has it (`Crew.Sound`). This is kept by every turn (`Crew.next_sound`), so it holds
after any number of them, and in each the session does no more than open one pool, and that only if
there was none (`Turn`).
-/

namespace SqlGateway

open Session

variable {settings : Settings}

/-! ## What waits for a turn -/

/-- What is left to be done of an orderly action stands as given. -/
def Job.Fits (settings : Settings) (standing : Standing) : Job → Prop
  | .resume _ rest => ∀ s, OnServer settings s → standing.Knows s →
      rest.Orderly settings standing s s
  | .report _ _ => standing = .outside

/-- Of all that waits for its turn at most one action has the right to open a pool; the right is
free if none has it. -/
inductive Queued (settings : Settings) (s : Session) : List Job → Prop
  | free {jobs : List Job} : s.opening = false → (∀ job ∈ jobs, job.Fits settings .outside) →
      Queued settings s jobs
  | owned {before after : List Job} {job : Job} {standing : Standing} : s.opening = true →
      standing ≠ .outside → standing.Knows s → job.Fits settings standing →
      (∀ other ∈ before ++ after, other.Fits settings .outside) →
      Queued settings s (before ++ job :: after)

/-- What waits while an action goes on that stands as given. -/
def Others (settings : Settings) (s : Session) (jobs : List Job) : Standing → Prop
  | .outside => Queued settings s jobs
  | _ => s.opening = true ∧ ∀ job ∈ jobs, job.Fits settings .outside

theorem Standing.Does.opening_eq {standing : Standing} {s s' : Session}
    (h : standing.Does s s') : s'.opening = s.opening := by
  cases standing with
  | opening => exact h.1
  | outside => exact h.1
  | entered => exact h.1

theorem Standing.Does.knows {standing : Standing} {s s' : Session}
    (h : Standing.outside.Does s s') (hknows : standing.Knows s) : standing.Knows s' := by
  cases standing with
  | opening => exact h.2.holdsPool_eq_false hknows
  | outside => trivial
  | entered => trivial

namespace Queued

variable {s s' : Session} {jobs : List Job} {job : Job}

/-- What an action does without the right to open a pool leaves alone what the others rely on. -/
theorem does (h : Queued settings s jobs) (hdoes : Standing.outside.Does s s') :
    Queued settings s' jobs := by
  cases h with
  | free hfree hjobs => exact .free (hdoes.1.trans hfree) hjobs
  | owned hopening hstanding hknows hjob hothers =>
    exact .owned (hdoes.1.trans hopening) hstanding (hdoes.knows hknows) hjob hothers

/-- While the right is free, nobody has it. -/
theorem all_outside (h : Queued settings s jobs) (hfree : s.opening = false) :
    ∀ job ∈ jobs, job.Fits settings .outside := by
  cases h with
  | free _ hjobs => exact hjobs
  | owned hopening =>
    rw [hfree] at hopening
    cases hopening

theorem append (h : Queued settings s jobs) {more : List Job}
    (hmore : ∀ job ∈ more, job.Fits settings .outside) : Queued settings s (jobs ++ more) := by
  cases h with
  | free hfree hjobs =>
    exact .free hfree fun job hmem => (List.mem_append.mp hmem).elim (hjobs job) (hmore job)
  | @owned before after job standing hopening hstanding hknows hjob hothers =>
    rw [List.append_assoc, List.cons_append]
    refine .owned hopening hstanding hknows hjob fun other hmem => ?_
    rw [← List.append_assoc] at hmem
    exact (List.mem_append.mp hmem).elim (hothers other) (hmore other)

/-- Whoever is the next, the others are what waits while it goes on. -/
theorem others (h : Queued settings s (job :: jobs)) :
    ∃ standing : Standing, job.Fits settings standing ∧ standing.Knows s ∧
      Others settings s jobs standing := by
  generalize hall : job :: jobs = all at h
  cases h with
  | free hfree hjobs =>
    subst hall
    obtain ⟨hjob, hrest⟩ := List.forall_mem_cons.mp hjobs
    exact ⟨.outside, hjob, trivial, .free hfree hrest⟩
  | @owned before after owner standing hopening hstanding hknows howner hothers =>
    cases before with
    | nil =>
      cases hall
      refine ⟨standing, howner, hknows, ?_⟩
      cases standing with
      | outside => exact absurd rfl hstanding
      | entered => exact ⟨hopening, hothers⟩
      | opening => exact ⟨hopening, hothers⟩
    | cons first before =>
      cases hall
      obtain ⟨hjob, hrest⟩ := List.forall_mem_cons.mp hothers
      exact ⟨.outside, hjob, trivial, .owned hopening hstanding hknows howner hrest⟩

theorem opening_eq_false (h : Queued settings s []) : s.opening = false := by
  generalize hall : [] = all at h
  cases h with
  | free hfree _ => exact hfree
  | @owned before => cases before <;> cases hall

end Queued

namespace Others

variable {s s' : Session} {jobs : List Job} {standing : Standing}

theorem of_inside (hstanding : standing ≠ .outside) (h : Others settings s jobs standing) :
    s.opening = true ∧ ∀ job ∈ jobs, job.Fits settings .outside := by
  cases standing with
  | outside => exact absurd rfl hstanding
  | entered => exact h
  | opening => exact h

/-- An action that gives way joins the others. -/
theorem queued (h : Others settings s jobs standing) (hdoes : standing.Does s s')
    (hknows : standing.next.Knows s') {job : Job} (hjob : job.Fits settings standing.next) :
    Queued settings s' (jobs ++ [job]) := by
  have hinside (hopening : s'.opening = s.opening)
      (h : s.opening = true ∧ ∀ job ∈ jobs, job.Fits settings .outside)
      (hknows : Standing.opening.Knows s') (hjob : job.Fits settings .opening) :
      Queued settings s' (jobs ++ [job]) :=
    .owned (hopening.trans h.1) (nofun : Standing.opening ≠ .outside) hknows hjob
      (by rw [List.append_nil]; exact h.2)
  cases standing with
  | outside => exact (Queued.does h hdoes).append (List.forall_mem_singleton.mpr hjob)
  | entered => exact hinside hdoes.1 h hknows hjob
  | opening => exact hinside hdoes.1 h hknows hjob

end Others

/-! ## One turn -/

theorem Session.Unopened.of_opening (s : Session) (b : Bool) :
    Unopened s { s with opening := b } := .of_same rfl rfl rfl rfl

/-- What becomes of a session in one turn: no more than the opening of one pool, and then what opens
none. -/
def Turn (s s' : Session) : Prop := ∃ s₁, Opening s s₁ ∧ Unopened s₁ s'

/-- What becomes of it in the rest of a turn. -/
def Standing.Finishes : Standing → Session → Session → Prop
  | opening => Turn
  | _ => Unopened

theorem Turn.course {s s' : Session} (h : Turn s s') : Course s s' := by
  obtain ⟨s₁, hopening, hrest⟩ := h
  exact hopening.course.trans hrest.course

/-- A pool is asked for only in a turn that finds none. -/
theorem Turn.creates {s s' : Session} (h : Turn s s') :
    ∃ es, s'.trace.events = s.trace.events ++ es ∧
      ∀ e ∈ es, e.isCreation = true → s.holdsPool = false ∧ e = .createPool s.settings := by
  obtain ⟨s₁, hopening, hrest⟩ := h
  obtain ⟨es, hes, hcreation, -⟩ := hrest.events
  have hnone : ∀ e ∈ es, e.isCreation = true → s.holdsPool = false ∧
      e = .createPool s.settings := fun e he hasks =>
    absurd (hasks.symm.trans (hcreation e he)) nofun
  cases hopening with
  | waits => exact ⟨es, hes, hnone⟩
  | asks hpool =>
    refine ⟨.createPool s.settings :: es, ?_, fun e he hasks => ?_⟩
    · simpa using hes
    · rcases List.mem_cons.mp he with rfl | he
      · exact ⟨hpool, rfl⟩
      · exact hnone e he hasks
  | takes hpool => exact ⟨es, by simpa using hes, hnone⟩

namespace Standing

variable {standing : Standing} {s s₁ s' : Session}

theorem Finishes.turn (h : standing.Finishes s s') : Turn s s' := by
  cases standing with
  | opening => exact h
  | outside => exact ⟨s, .waits, h⟩
  | entered => exact ⟨s, .waits, h⟩

theorem Does.finishes (h : standing.Does s s₁) (h' : Unopened s₁ s') : standing.Finishes s s' := by
  cases standing with
  | opening => exact ⟨s₁, h.2, h'⟩
  | outside => exact h.2.trans h'
  | entered => exact h.2.trans h'

theorem Does.course (h : standing.Does s s') : Course s s' :=
  (h.finishes (.refl s')).turn.course

end Standing

/-- What goes on when it gets the right to open a pool, or when steps that it started are through,
is orderly from there on. -/
structure Crew.Waits (settings : Settings) (crew : Crew) : Prop where
  locked : ∀ job ∈ crew.locked, job.Fits settings .entered
  parties : ∀ party ∈ crew.parties, ∀ place rest, party.waiting = some (place, rest) →
    ∀ outcomes, (rest outcomes).IsOrderly settings

/-- At most one of the actions has the right to open a pool, and what is left to be done of each is
orderly. -/
structure Crew.Sound (settings : Settings) (crew : Crew) : Prop where
  server : OnServer settings crew.session
  queue : Queued settings crew.session crew.queue
  waits : crew.Waits settings

namespace Crew

theorem fits_outside {place : Place} {rest : Action Reply} :
    (Job.resume place rest).Fits settings .outside ↔ rest.IsOrderly settings :=
  ⟨fun h s hs => h s hs trivial, fun h s hs _ => h s hs⟩

theorem beginnings_fit (party : Nat) (steps : List Step) :
    ∀ job ∈ beginnings party steps, job.Fits settings .outside := by
  intro job hjob
  obtain ⟨index, hindex, rfl⟩ := List.mem_mapIdx.mp hjob
  exact fits_outside.mpr (Step.perform_orderly _)

theorem Sound.start {crew : Crew} (h : crew.Sound settings) (steps : List Step)
    {waiting : Option (Place × (List Outcome → Action Reply))}
    (hwaiting : ∀ place rest, waiting = some (place, rest) →
      ∀ outcomes, (rest outcomes).IsOrderly settings) :
    (crew.start steps waiting).Sound settings where
  server := h.server
  queue := h.queue.append (beginnings_fit _ steps)
  waits := by
    refine ⟨h.waits.locked, fun party hparty => ?_⟩
    rcases List.mem_append.mp hparty with hparty | hparty
    · exact h.waits.parties party hparty
    · obtain rfl := List.mem_singleton.mp hparty
      exact hwaiting

/-- An action goes on as it stands while the others wait. -/
theorem advance_sound (place : Place) (x : Action Reply) (standing : Standing) (s : Session)
    (crew : Crew) (hs : OnServer settings s) (hx : x.Orderly settings standing s crew.session)
    (hqueue : Others settings s crew.queue standing) (hwaits : crew.Waits settings) :
    (advance place x crew).Sound settings ∧
      standing.Finishes s (advance place x crew).session := by
  have hinside : Standing.entered ≠ .outside := nofun
  induction x generalizing standing s crew with
  | ended outcome =>
    obtain ⟨rfl, hdoes⟩ := hx
    exact ⟨⟨hdoes.onServer hs, Others.queued hqueue hdoes trivial rfl, hwaits.locked,
      hwaits.parties⟩,
      hdoes.finishes (.refl _)⟩
  | act change rest ih =>
    exact ih crew.session standing s { crew with session := change crew.session } hs hx hqueue
      ⟨hwaits.locked, hwaits.parties⟩
  | turn rest ih =>
    obtain ⟨hdoes, hknows, hrest⟩ := hx
    exact ⟨⟨hdoes.onServer hs, hqueue.queued hdoes hknows hrest, hwaits.locked, hwaits.parties⟩,
      hdoes.finishes (.refl _)⟩
  | lock rest ih =>
    obtain ⟨rfl, hdoes, hrest⟩ := hx
    have hserver := hdoes.onServer hs
    have hqueued := Queued.does hqueue hdoes
    rw [advance]
    split
    · refine ⟨⟨hserver, hqueued, fun job hjob => ?_, hwaits.parties⟩, hdoes.finishes (.refl _)⟩
      rcases List.mem_append.mp hjob with hjob | hjob
      · exact hwaits.locked job hjob
      · obtain rfl := List.mem_singleton.mp hjob
        exact fun s' hs' _ => hrest s' hs'
    · next hfree =>
      -- Nobody has the right, so all others are outside of it.
      have hothers := hqueued.all_outside (Bool.not_eq_true _ ▸ hfree)
      have hserver' : OnServer settings { crew.session with opening := true } :=
        ⟨hserver.backend, hserver.settings⟩
      obtain ⟨hsound, hfinishes⟩ := ih .entered { crew.session with opening := true }
        { crew with session := { crew.session with opening := true } } hserver'
        (hrest _ hserver') ⟨rfl, hothers⟩ ⟨hwaits.locked, hwaits.parties⟩
      exact ⟨hsound, hdoes.finishes ((Unopened.of_opening _ true).trans hfinishes)⟩
  | unlock rest ih =>
    obtain ⟨hstanding, hdoes, hrest⟩ := hx
    have hserver := hdoes.onServer hs
    obtain ⟨hopening, hothers⟩ := hqueue.of_inside hstanding
    rw [advance]
    split
    · obtain ⟨hsound, hfinishes⟩ := ih .outside { crew.session with opening := false }
        { crew with session := { crew.session with opening := false } }
        ⟨hserver.backend, hserver.settings⟩ (hrest false) (.free rfl hothers)
        ⟨hwaits.locked, hwaits.parties⟩
      exact ⟨hsound, hdoes.finishes ((Unopened.of_opening _ false).trans hfinishes)⟩
    · next next others hnext =>
      obtain ⟨hnext', hothers'⟩ := List.forall_mem_cons.mp (hnext ▸ hwaits.locked)
      -- The right is handed on, so the session stays as it is.
      have hkept : crew.session.opening = true := (hdoes.opening_eq).trans hopening
      have hsame : { crew.session with opening := true } = crew.session := by rw [← hkept]
      have hqueued : Queued settings crew.session (crew.queue ++ [next]) :=
        .owned hkept hinside trivial hnext' (by rw [List.append_nil]; exact hothers)
      have hgoes := hrest true
      rw [hsame] at hgoes
      obtain ⟨hsound, hfinishes⟩ := ih .outside crew.session
        (enqueue { crew with locked := others } next) hserver hgoes hqueued
        ⟨hothers', hwaits.parties⟩
      exact ⟨hsound, hdoes.finishes hfinishes⟩
  | together steps rest ih =>
    obtain ⟨rfl, hdoes, hrest⟩ := hx
    have hserver := hdoes.onServer hs
    have hqueued := Queued.does hqueue hdoes
    cases steps with
    | nil =>
      rw [advance]
      obtain ⟨hsound, hfinishes⟩ := ih [] .outside _ crew hserver (hrest [] _ hserver) hqueued
        hwaits
      exact ⟨hsound, hdoes.finishes hfinishes⟩
    | cons step steps =>
      rw [advance]
      have hsound : crew.Sound settings := ⟨hserver, hqueued, hwaits⟩
      refine ⟨hsound.start _ ?_, hdoes.finishes (.refl _)⟩
      rintro place rest' ⟨⟩ outcomes s' hs'
      exact hrest outcomes s' hs'

theorem Sound.hear {crew : Crew} (h : crew.Sound settings) (place : Place) (outcome : Outcome) :
    (crew.hear place outcome).Sound settings ∧
      (crew.hear place outcome).session = crew.session := by
  rw [Crew.hear]
  split
  · exact ⟨h, rfl⟩
  · next party hparty =>
    have hmem : party ∈ crew.parties := List.mem_of_getElem? hparty
    have hparties : ∀ other ∈ crew.parties.set place.party (party.record place.index outcome),
        ∀ place rest, other.waiting = some (place, rest) →
          ∀ outcomes, (rest outcomes).IsOrderly settings := by
      intro other hother
      rcases List.mem_or_eq_of_mem_set hother with hother | rfl
      · exact h.waits.parties other hother
      · exact h.waits.parties party hmem
    dsimp only
    split
    · next outcomes waiting rest _ hwaiting =>
      refine ⟨⟨h.server, h.queue.append ?_, h.waits.locked, hparties⟩, rfl⟩
      exact List.forall_mem_singleton.mpr
        (fits_outside.mpr (h.waits.parties party hmem waiting rest hwaiting outcomes))
    · exact ⟨⟨h.server, h.queue, h.waits.locked, hparties⟩, rfl⟩

/-! ## Turn after turn -/

/-- The crew after the turn of the next, if there is one. -/
def next (crew : Crew) : Crew :=
  match crew.queue with
  | [] => crew
  | job :: queue => { crew with queue := queue }.turn job

/-- Every turn keeps the right to open a pool with one action, and does no more than open one. -/
theorem next_sound {crew : Crew} (h : crew.Sound settings) :
    crew.next.Sound settings ∧ Turn crew.session crew.next.session := by
  have hqueue := h.queue
  rw [next]
  split
  · exact ⟨h, crew.session, .waits, .refl _⟩
  · next job jobs hjobs =>
    rw [hjobs] at hqueue
    obtain ⟨standing, hjob, hknows, hothers⟩ := hqueue.others
    cases job with
    | resume place rest =>
      obtain ⟨hsound, hfinishes⟩ := advance_sound place rest standing crew.session
        { crew with queue := jobs } h.server (hjob crew.session h.server hknows) hothers
        ⟨h.waits.locked, h.waits.parties⟩
      exact ⟨hsound, hfinishes.turn⟩
    | report place outcome =>
      obtain rfl := hjob
      have hrest : Sound settings { crew with queue := jobs } :=
        ⟨h.server, hothers, h.waits.locked, h.waits.parties⟩
      obtain ⟨hsound, hsession⟩ := hrest.hear place outcome
      exact ⟨hsound, crew.session, .waits, .of_same (congrArg _ hsession) (congrArg _ hsession)
        (congrArg _ hsession) (congrArg _ hsession)⟩

theorem turns_of_queue_nil {crew : Crew} (h : crew.queue = []) (n : Nat) :
    turns n crew = crew := by
  cases n with
  | zero => rfl
  | succ n => rw [turns, h]

theorem turns_next (n : Nat) (crew : Crew) : turns (n + 1) crew = turns n crew.next := by
  cases hqueue : crew.queue with
  | nil =>
    have hnext : crew.next = crew := by rw [next, hqueue]
    rw [hnext, turns_of_queue_nil hqueue, turns_of_queue_nil hqueue]
  | cons job jobs => rw [turns, next, hqueue]

/-- The last of some turns is a turn as well. -/
theorem turns_succ (n : Nat) (crew : Crew) : turns (n + 1) crew = (turns n crew).next := by
  induction n generalizing crew with
  | zero => rw [turns_next, turns, turns]
  | succ n ih => rw [turns_next, ih, turns_next]

theorem turns_sound {crew : Crew} (h : crew.Sound settings) (n : Nat) :
    (turns n crew).Sound settings ∧ Course crew.session (turns n crew).session := by
  induction n with
  | zero => exact ⟨h, .refl _⟩
  | succ n ih =>
    obtain ⟨hsound, hturn⟩ := next_sound ih.1
    rw [turns_succ]
    exact ⟨hsound, ih.2.trans hturn.course⟩

/-- Steps that are about to begin in a session in which nobody has the right to open a pool. -/
theorem sound_start {s : Session} (hs : OnServer settings s) (hfree : s.opening = false)
    (steps : List Step) : (start ⟨s, [], [], []⟩ steps none).Sound settings :=
  Sound.start ⟨hs, .free hfree (List.forall_mem_nil _), List.forall_mem_nil _,
    List.forall_mem_nil _⟩ steps nofun

end Crew

end SqlGateway
