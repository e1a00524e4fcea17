import SqlGateway.Proofs.List
import SqlGateway.Proofs.Session.Follow
import SqlGateway.Proofs.Session.Holding
import SqlGateway.Proofs.Session.Lease

/-!
# The password flows to the server only

Two sessions whose settings differ in nothing but the password go on alike turn by turn: what waits
in the one follows what waits in the other, job for job and party for party (`Crew.Follows`). So
steps that are started together end in the image of the session (`Crew.gather_withPassword`), and
whatever is done in it leaves the image of the answers and of the trace: only the events in which a
pool is opened show which of the passwords it was (`Session.answers_withPassword`).
-/

namespace SqlGateway

variable {password : Value}

/-! ## Crews that follow -/

/-- What waits for its turn in the second session follows what waits in the first one. -/
inductive Job.Follows (password : Value) : Job → Job → Prop
  | resume (place : Place) {rest rest' : Action Reply} :
      rest.Follows password (Reply.withPassword password) rest' →
      Job.Follows password (.resume place rest) (.resume place rest')
  | report (place : Place) (outcome : Outcome) :
      Job.Follows password (.report place outcome)
        (.report place (outcome.map (Reply.withPassword password)))

/-- An action that waits for the outcomes of a party goes on with their images. -/
def Place.Follows (password : Value) (waiting waiting' : Place × (List Outcome → Action Reply)) :
    Prop :=
  waiting'.1 = waiting.1 ∧ ∀ outcomes, (waiting.2 outcomes).Follows password
    (Reply.withPassword password)
    (waiting'.2 (outcomes.map (Except.map (Reply.withPassword password))))

structure Party.Follows (password : Value) (party party' : Party) : Prop where
  outcomes : party'.outcomes =
    party.outcomes.map (Option.map (Except.map (Reply.withPassword password)))
  waiting : Option.Rel (Place.Follows password) party.waiting party'.waiting

structure Crew.Follows (password : Value) (crew crew' : Crew) : Prop where
  session : crew'.session = crew.session.withPassword password
  queue : List.Forall₂ (Job.Follows password) crew.queue crew'.queue
  locked : List.Forall₂ (Job.Follows password) crew.locked crew'.locked
  parties : List.Forall₂ (Party.Follows password) crew.parties crew'.parties

/-! ## Parties -/

namespace Party.Follows

variable {party party' : Party}

theorem record (h : party.Follows password party') (index : Nat) (outcome : Outcome) :
    (party.record index outcome).Follows password
      (party'.record index (outcome.map (Reply.withPassword password))) where
  outcomes := by
    have hcollected : (outcome.map (Reply.withPassword password)).mapError Fault.collected =
        (outcome.mapError Fault.collected).map (Reply.withPassword password) := by
      cases outcome <;> rfl
    rw [Party.record, Party.record, h.outcomes, List.map_set, hcollected]
    rfl
  waiting := h.waiting

theorem complete? (h : party.Follows password party') : party'.complete? =
    party.complete?.map (List.map (Except.map (Reply.withPassword password))) := by
  rw [Party.complete?, h.outcomes, mapM_id_map]
  rfl

end Party.Follows

/-! ## Turns -/

namespace Crew

variable {crew crew' : Crew}

theorem Follows.enqueue (h : crew.Follows password crew') {job job' : Job}
    (hjob : job.Follows password job') :
    (crew.enqueue job).Follows password (crew'.enqueue job') where
  session := h.session
  queue := List.rel_append h.queue (.cons hjob .nil)
  locked := h.locked
  parties := h.parties

theorem beginnings_follow (party : Nat) (steps : List Step) :
    List.Forall₂ (Job.Follows password) (beginnings party steps) (beginnings party steps) := by
  rw [List.forall₂_same]
  intro job hjob
  obtain ⟨index, hindex, rfl⟩ := List.mem_mapIdx.mp hjob
  exact .resume _ (Step.perform_follows _)

theorem Follows.start (h : crew.Follows password crew') (steps : List Step)
    {waiting waiting' : Option (Place × (List Outcome → Action Reply))}
    (hwaiting : Option.Rel (Place.Follows password) waiting waiting') :
    (crew.start steps waiting).Follows password (crew'.start steps waiting') where
  session := h.session
  queue := by
    have hnumber : crew.parties.length = crew'.parties.length := h.parties.length_eq
    rw [Crew.start, Crew.start, ← hnumber]
    exact List.rel_append h.queue (beginnings_follow _ steps)
  locked := h.locked
  parties := by
    refine List.rel_append h.parties (.cons ⟨?_, hwaiting⟩ .nil)
    rw [List.map_map]
    rfl

theorem Follows.withSession (h : crew.Follows password crew') (s : Session) :
    Follows password { crew with session := s }
      { crew' with session := s.withPassword password } :=
  ⟨rfl, h.queue, h.locked, h.parties⟩

theorem Follows.withQueue (h : crew.Follows password crew') {queue queue' : List Job}
    (hqueue : List.Forall₂ (Job.Follows password) queue queue') :
    Follows password { crew with queue := queue } { crew' with queue := queue' } :=
  ⟨h.session, hqueue, h.locked, h.parties⟩

theorem Follows.withLocked (h : crew.Follows password crew') {locked locked' : List Job}
    (hlocked : List.Forall₂ (Job.Follows password) locked locked') :
    Follows password { crew with locked := locked } { crew' with locked := locked' } :=
  ⟨h.session, h.queue, hlocked, h.parties⟩

theorem Follows.withParties (h : crew.Follows password crew') {parties parties' : List Party}
    (hparties : List.Forall₂ (Party.Follows password) parties parties') :
    Follows password { crew with parties := parties } { crew' with parties := parties' } :=
  ⟨h.session, h.queue, h.locked, hparties⟩

theorem Follows.opening (h : crew.Follows password crew') :
    crew'.session.opening = crew.session.opening := by
  rw [h.session]
  rfl

theorem Follows.advance (place : Place) {x x' : Action Reply}
    (hx : x.Follows password (Reply.withPassword password) x') (h : crew.Follows password crew') :
    (advance place x crew).Follows password (advance place x' crew') := by
  induction hx generalizing crew crew' with
  | ended heq =>
    subst heq
    exact h.enqueue (.report place _)
  | act hchange _ ih =>
    rw [Crew.advance, Crew.advance, h.session, hchange]
    exact ih crew.session (h.withSession _)
  | turn hrest _ => exact h.enqueue (.resume place hrest)
  | lock hrest ih =>
    -- The right to open a pool is taken in both sessions or in neither.
    rw [Crew.advance, Crew.advance, h.opening]
    split
    · exact h.withLocked (List.rel_append h.locked (.cons (.resume place hrest) .nil))
    · rw [h.session]
      exact ih (h.withSession { crew.session with opening := true })
  | unlock _ ih =>
    rw [Crew.advance, Crew.advance]
    obtain ⟨s, queue, locked, parties⟩ := crew
    obtain ⟨s', queue', locked', parties'⟩ := crew'
    obtain rfl := h.session
    cases h.locked with
    | nil => exact ih (h.withSession { s with opening := false })
    | cons hnext hothers => exact ih ((h.withLocked hothers).enqueue hnext)
  | @together steps rest rest' hrest ih =>
    cases steps with
    | nil => exact ih [] h
    | cons step steps => exact h.start (step :: steps) (.some ⟨rfl, hrest⟩)

/-- The action of a party goes on once all outcomes of the party are known. -/
theorem Follows.ready (h : crew.Follows password crew') {party party' : Party}
    (hparty : party.Follows password party') :
    Follows password
      (match party.complete?, party.waiting with
        | some outcomes, some (waiting, rest) => crew.enqueue (.resume waiting (rest outcomes))
        | _, _ => crew)
      (match party'.complete?, party'.waiting with
        | some outcomes, some (waiting, rest) => crew'.enqueue (.resume waiting (rest outcomes))
        | _, _ => crew') := by
  have hwaiting := hparty.waiting
  rw [hparty.complete?]
  generalize party.waiting = waiting at hwaiting ⊢
  generalize party'.waiting = waiting' at hwaiting ⊢
  cases party.complete? with
  | none => exact h
  | some outcomes =>
    cases hwaiting with
    | none => exact h
    | @some waiting waiting' hrest =>
      obtain ⟨place, rest⟩ := waiting
      obtain ⟨place', rest'⟩ := waiting'
      obtain ⟨rfl, hrest⟩ := hrest
      exact h.enqueue (.resume _ (hrest outcomes))

theorem Follows.hear (h : crew.Follows password crew') (place : Place) (outcome : Outcome) :
    (crew.hear place outcome).Follows password
      (crew'.hear place (outcome.map (Reply.withPassword password))) := by
  have hfound := rel_getElem? h.parties place.party
  rw [Crew.hear, Crew.hear]
  generalize crew.parties[place.party]? = found at hfound ⊢
  generalize crew'.parties[place.party]? = found' at hfound ⊢
  cases hfound with
  | none => exact h
  | some hparty =>
    have hrecord := hparty.record place.index outcome
    exact (h.withParties (forall₂_set_set h.parties hrecord place.party)).ready hrecord

theorem Follows.turns (h : crew.Follows password crew') (n : Nat) :
    (turns n crew).Follows password (turns n crew') := by
  induction n generalizing crew crew' with
  | zero => exact h
  | succ n ih =>
    obtain ⟨s, queue, locked, parties⟩ := crew
    obtain ⟨s', queue', locked', parties'⟩ := crew'
    cases h.queue with
    | nil => exact h
    | cons hjob hrest =>
      cases hjob with
      | resume place hx => exact ih ((h.withQueue hrest).advance place hx)
      | report place outcome => exact ih ((h.withQueue hrest).hear place outcome)

/-- Steps that are started together in the image of a session end with the images of their outcomes
and leave the image of the session. -/
theorem gather_withPassword (steps : List Step) (s : Session) :
    gather steps (s.withPassword password) =
      ((gather steps s).1.map (Except.map (Reply.withPassword password)),
        (gather steps s).2.withPassword password) := by
  have hbegin : Follows password ⟨s, [], [], []⟩ ⟨s.withPassword password, [], [], []⟩ :=
    ⟨rfl, .nil, .nil, .nil⟩
  have hend := (hbegin.start steps .none).turns (spanAll steps)
  have hfirst := rel_getElem? hend.parties 0
  rw [gather, gather]
  dsimp only
  rw [hend.session, List.head?_eq_getElem?, List.head?_eq_getElem?, Prod.mk.injEq]
  refine ⟨?_, rfl⟩
  generalize (Crew.parties _)[0]? = first at hfirst ⊢
  generalize (Crew.parties _)[0]? = first' at hfirst ⊢
  cases hfirst with
  | none => rfl
  | some hparty =>
    rw [Option.bind_some, Option.bind_some, hparty.complete?]
    cases Party.complete? _ <;> rfl

end Crew

/-! ## Whole sessions -/

/-- An action that follows itself ends in the image of a session with the image of its outcome, and
leaves the image of the session. -/
theorem Action.Follows.run {α : Type} {image : α → α} {x : Action α}
    (h : x.Follows password image x) (s : Session) :
    x.run (s.withPassword password) =
      ⟨(x.run s).outcome.map image, (x.run s).session.withPassword password⟩ :=
  h.runWith Crew.gather_withPassword s

/-- Every step is answered. -/
theorem Step.exists_answers (steps : List Step) (s : Session) :
    ∃ answers, ((performAll steps).run s).outcome = .ok answers ∧
      answers.length = steps.length := by
  induction steps generalizing s with
  | nil => exact ⟨[], rfl, rfl⟩
  | cons step rest ih =>
    obtain ⟨answers, hanswers, hlength⟩ := ih (step.perform.run s).session
    have hrest : (performAll rest).runWith Crew.gather (step.perform.run s).session =
        ⟨.ok answers, ((performAll rest).run (step.perform.run s).session).session⟩ := by
      rw [← hanswers]
      rfl
    refine ⟨step.answer ((step.perform.run s).outcome,
      (step.perform.run s).session.trace.since s.trace) :: answers, ?_, congrArg (· + 1) hlength⟩
    rw [performAll, Action.run, Action.runWith_bind, Action.runWith_capture]
    change ((performAll rest >>= _).runWith Crew.gather (step.perform.run s).session).outcome = _
    rw [Action.runWith_bind, hrest]
    rfl

namespace Session

variable {settings : Settings} {backend : Backend} {s : Session}

/-- No requirement looks at the password. -/
theorem met_withPassword (settings : Settings) (password : Value) (r : Settings.Requirement) :
    r.Met (settings.withPassword password) ↔ r.Met settings := by
  cases r <;> exact Iff.rfl

theorem start_withPassword (password : Value) (h : Session.start settings backend = .ok s) :
    Session.start (settings.withPassword password) backend = .ok (s.withPassword password) := by
  have hfresh := start_eq_ok h
  obtain ⟨checked, hvalid, hrest⟩ := bind_eq_ok.mp h
  obtain ⟨rfl, hmet⟩ := Settings.validate_eq_ok.mp hvalid
  have hvalid' : (checked.withPassword password).validate = .ok (checked.withPassword password) :=
    Settings.validate_eq_ok.mpr ⟨rfl, fun r => (met_withPassword _ _ r).mpr (hmet r)⟩
  subst hfresh
  refine bind_eq_ok.mpr ⟨_, hvalid', ?_⟩
  cases backend with
  | supplied => rfl
  | server =>
    obtain ⟨_, hdriver, -⟩ := bind_eq_ok.mp hrest
    exact bind_eq_ok.mpr ⟨(), hdriver, rfl⟩

/-- Of two sessions whose settings differ in the password only, the one begins if the other does,
with the same line in the log, and shows the same settings apart from the password. Whatever steps
are done in both, the answers with their results and faults, the events and the lines of the log are
the same, apart from the password in the events in which a pool is opened. -/
theorem answers_withPassword (hstart : Session.start settings backend = .ok s) (password : Value) :
    ∃ t, Session.start { settings with password := password } backend = .ok t ∧
      t.startLine = s.startLine ∧
      t.settings.toList = s.settings.toList.map (fun (name, v) =>
        (name, if name = "password" then password else v)) ∧
      ∀ steps, t.answers steps = (s.answers steps).map (Answer.withPassword password) ∧
        ((Step.performAll steps).run t).session.trace.events =
          ((Step.performAll steps).run s).session.trace.events.map (Event.withPassword password) ∧
        ((Step.performAll steps).run t).session.trace.log =
          ((Step.performAll steps).run s).session.trace.log := by
  refine ⟨s.withPassword password, start_withPassword password hstart, rfl, rfl, fun steps => ?_⟩
  have hfollows : (Step.performAll steps).Follows password
      (List.map (Answer.withPassword password)) (Step.performAll steps) :=
    Step.performAll_follows steps
  have hrun := hfollows.run s
  obtain ⟨replies, hreplies, -⟩ := Step.exists_answers steps s
  -- That the steps are answered at all keeps the default for a fault out of both answers.
  rw [Session.answers, Session.answers, hrun, hreplies]
  exact ⟨rfl, rfl, rfl⟩

/-- A statement on a server, for an app that has a password and for one that has none. -/
theorem answers_withPassword_local :
    Session.start Step.localSession.settings .server = .ok Step.localSession ∧
      ∃ t, Session.start { Step.localSession.settings with password := .text "secret".toList }
          .server = .ok t ∧
        t.answers [.query "DO 1".toList .null] =
          (Step.localSession.answers [.query "DO 1".toList .null]).map
            (Answer.withPassword (.text "secret".toList)) := by
  have hstart : Session.start Step.localSession.settings .server = .ok Step.localSession := rfl
  obtain ⟨t, ht, -, -, hsteps⟩ := answers_withPassword hstart (.text "secret".toList)
  exact ⟨hstart, t, ht, (hsteps [.query "DO 1".toList .null]).1⟩

end Session

end SqlGateway
