import SqlGateway.Proofs.List
import SqlGateway.Proofs.Session.Turns

/-!
# Actions among others

`Action.Ends` tells how an action may end that shares its session with others: whenever it has
waited it goes on in a session that the others have left. Nothing is said about what they do, apart
from the sessions in which the action may find itself, so what holds of every such end holds however
turns are taken.

The outcomes of steps that are started together are ends of these steps, in sessions that they reach
turn by turn (`Crew.gather_ends`). What is left to be done of a step keeps to this: every end of it
is an end of the step (`Job.Stands`).
-/

namespace SqlGateway

mutual

/-- The action, carried out among others from a session on, ends with the outcome and leaves the
last session. The sessions that it may find when it has waited are given. -/
inductive Action.Ends (finds : Session → Prop) :
    {α : Type} → Action α → Session → Except Fault α → Session → Prop
  | ended {α : Type} {outcome : Except Fault α} {s : Session} :
      Action.Ends finds (.ended outcome) s outcome s
  | act {α : Type} {change : Session → Session} {rest : Session → Action α} {s t : Session}
      {outcome : Except Fault α} : Action.Ends finds (rest s) (change s) outcome t →
      Action.Ends finds (.act change rest) s outcome t
  | turn {α : Type} {rest : Action α} {s s' t : Session} {outcome : Except Fault α} : finds s' →
      Action.Ends finds rest s' outcome t → Action.Ends finds (.turn rest) s outcome t
  | lock {α : Type} {rest : Action α} {s t : Session} {outcome : Except Fault α} :
      Action.Ends finds rest { s with opening := true } outcome t →
      Action.Ends finds (.lock rest) s outcome t
  | wait {α : Type} {rest : Action α} {s s' t : Session} {outcome : Except Fault α} : finds s' →
      Action.Ends finds rest s' outcome t → Action.Ends finds (.lock rest) s outcome t
  | unlock {α : Type} {rest : Action α} {s t : Session} {outcome : Except Fault α} :
      Action.Ends finds rest { s with opening := false } outcome t →
      Action.Ends finds (.unlock rest) s outcome t
  | handOn {α : Type} {rest : Action α} {s t : Session} {outcome : Except Fault α} :
      Action.Ends finds rest s outcome t → Action.Ends finds (.unlock rest) s outcome t
  | alone {α : Type} {rest : List Outcome → Action α} {s t : Session} {outcome : Except Fault α} :
      Action.Ends finds (rest []) s outcome t → Action.Ends finds (.together [] rest) s outcome t
  | together {α : Type} {steps : List Step} {rest : List Outcome → Action α}
      {outcomes : List Outcome} {s s' t : Session} {outcome : Except Fault α} :
      Step.AllEnd finds steps outcomes → finds s' → Action.Ends finds (rest outcomes) s' outcome t →
      Action.Ends finds (.together steps rest) s outcome t

/-- Each of the steps ends among the others, and its outcome is collected. -/
inductive Step.AllEnd (finds : Session → Prop) : List Step → List Outcome → Prop
  | nil : Step.AllEnd finds [] []
  | cons {step : Step} {steps : List Step} {s t : Session} {outcome : Outcome}
      {outcomes : List Outcome} : finds s → Action.Ends finds step.perform s outcome t →
      Step.AllEnd finds steps outcomes →
      Step.AllEnd finds (step :: steps) (outcome.mapError Fault.collected :: outcomes)

end

variable {finds : Session → Prop}

/-! ## Parts of an action -/

namespace Action

variable {α β : Type} {s t : Session}

/-- A sequence ends when its second part ends, or its first part with a fault. -/
theorem Ends.of_bind {x : Action α} {f : α → Action β} {outcome : Except Fault β}
    (h : (x >>= f).Ends finds s outcome t) :
    ∃ first p, x.Ends finds s first p ∧ (ofExcept first >>= f).Ends finds p outcome t := by
  change (x.bind f).Ends finds s outcome t at h
  induction x generalizing s with
  | ended first => exact ⟨first, s, .ended, h⟩
  | act change rest ih =>
    cases h with
    | act h =>
      obtain ⟨first, p, hx, hf⟩ := ih s h
      exact ⟨first, p, .act hx, hf⟩
  | turn rest ih =>
    cases h with
    | turn hfinds h =>
      obtain ⟨first, p, hx, hf⟩ := ih h
      exact ⟨first, p, .turn hfinds hx, hf⟩
  | lock rest ih =>
    cases h with
    | lock h =>
      obtain ⟨first, p, hx, hf⟩ := ih h
      exact ⟨first, p, .lock hx, hf⟩
    | wait hfinds h =>
      obtain ⟨first, p, hx, hf⟩ := ih h
      exact ⟨first, p, .wait hfinds hx, hf⟩
  | unlock rest ih =>
    cases h with
    | unlock h =>
      obtain ⟨first, p, hx, hf⟩ := ih h
      exact ⟨first, p, .unlock hx, hf⟩
    | handOn h =>
      obtain ⟨first, p, hx, hf⟩ := ih h
      exact ⟨first, p, .handOn hx, hf⟩
  | together steps rest ih =>
    cases h with
    | alone h =>
      obtain ⟨first, p, hx, hf⟩ := ih [] h
      exact ⟨first, p, .alone hx, hf⟩
    | together hall hfinds h =>
      obtain ⟨first, p, hx, hf⟩ := ih _ h
      exact ⟨first, p, .together hall hfinds hx, hf⟩

theorem Ends.of_attempt {x : Action α} {result : Except Fault (Except Fault α)}
    (h : x.attempt.Ends finds s result t) :
    ∃ outcome, result = .ok outcome ∧ x.Ends finds s outcome t := by
  induction x generalizing s with
  | ended outcome =>
    cases h
    exact ⟨outcome, rfl, .ended⟩
  | act change rest ih =>
    cases h with
    | act h =>
      obtain ⟨outcome, hresult, hx⟩ := ih s h
      exact ⟨outcome, hresult, .act hx⟩
  | turn rest ih =>
    cases h with
    | turn hfinds h =>
      obtain ⟨outcome, hresult, hx⟩ := ih h
      exact ⟨outcome, hresult, .turn hfinds hx⟩
  | lock rest ih =>
    cases h with
    | lock h =>
      obtain ⟨outcome, hresult, hx⟩ := ih h
      exact ⟨outcome, hresult, .lock hx⟩
    | wait hfinds h =>
      obtain ⟨outcome, hresult, hx⟩ := ih h
      exact ⟨outcome, hresult, .wait hfinds hx⟩
  | unlock rest ih =>
    cases h with
    | unlock h =>
      obtain ⟨outcome, hresult, hx⟩ := ih h
      exact ⟨outcome, hresult, .unlock hx⟩
    | handOn h =>
      obtain ⟨outcome, hresult, hx⟩ := ih h
      exact ⟨outcome, hresult, .handOn hx⟩
  | together steps rest ih =>
    cases h with
    | alone h =>
      obtain ⟨outcome, hresult, hx⟩ := ih [] h
      exact ⟨outcome, hresult, .alone hx⟩
    | together hall hfinds h =>
      obtain ⟨outcome, hresult, hx⟩ := ih _ h
      exact ⟨outcome, hresult, .together hall hfinds hx⟩

theorem Ends.of_map {x : Action α} {f : α → β} {outcome : Except Fault β}
    (h : (f <$> x).Ends finds s outcome t) :
    ∃ first, x.Ends finds s first t ∧ outcome = first.map f := by
  rw [← bind_pure_comp] at h
  obtain ⟨first, p, hx, hrest⟩ := h.of_bind
  cases first <;> cases hrest <;> exact ⟨_, hx, rfl⟩

theorem Ends.of_mapFault {x : Action α} {f : Fault → Fault} {outcome : Except Fault α}
    (h : (x.mapFault f).Ends finds s outcome t) :
    ∃ first, x.Ends finds s first t ∧ outcome = first.mapError f := by
  obtain ⟨result, p, hx, hrest⟩ := h.of_bind
  obtain ⟨first, rfl, hfirst⟩ := hx.of_attempt
  cases hrest
  exact ⟨first, hfirst, rfl⟩

/-- The closing action follows in the session that the first one leaves, and decides over the
outcome if it has a fault. -/
theorem Ends.of_ensure {x : Action α} {closing : Action Unit} {outcome : Except Fault α}
    (h : (x.ensure closing).Ends finds s outcome t) :
    ∃ first p closed, x.Ends finds s first p ∧ closing.Ends finds p closed t ∧
      outcome = closed.bind fun _ => first := by
  obtain ⟨result, p, hx, hrest⟩ := h.of_bind
  obtain ⟨first, rfl, hfirst⟩ := hx.of_attempt
  obtain ⟨closed, q, hclosing, hlast⟩ := Ends.of_bind (x := closing) hrest
  refine ⟨first, p, closed, hfirst, ?_⟩
  cases closed <;> cases hlast <;> exact ⟨hclosing, rfl⟩

theorem Ends.of_session {f : Session → Action α} {outcome : Except Fault α}
    (h : (session >>= f).Ends finds s outcome t) : (f s).Ends finds s outcome t := by
  change (Action.act id f).Ends finds s outcome t at h
  cases h with
  | act h => exact h

theorem Ends.of_modify {change : Session → Session} {f : Unit → Action α}
    {outcome : Except Fault α} (h : (modify change >>= f).Ends finds s outcome t) :
    (f ()).Ends finds (change s) outcome t := by
  change (Action.act change fun _ => f ()).Ends finds s outcome t at h
  cases h with
  | act h => exact h

theorem Ends.of_giveWay {f : Unit → Action α} {outcome : Except Fault α}
    (h : (giveWay >>= f).Ends finds s outcome t) :
    ∃ s', finds s' ∧ (f ()).Ends finds s' outcome t := by
  change (Action.turn (f ())).Ends finds s outcome t at h
  cases h with
  | turn hfinds h => exact ⟨_, hfinds, h⟩

/-- The action never waits. -/
def IsPrompt : Action α → Prop
  | ended _ => True
  | act _ rest => ∀ s, (rest s).IsPrompt
  | _ => False

/-- An action that never waits does among others what it does by itself. -/
theorem Ends.run_eq {x : Action α} (hx : x.IsPrompt) {outcome : Except Fault α}
    (h : x.Ends finds s outcome t) : x.run s = ⟨outcome, t⟩ := by
  induction x generalizing s with
  | ended first =>
    cases h
    rfl
  | act change rest ih =>
    cases h with
    | act h => exact ih s (hx s) h
  | turn | lock | unlock | together => exact hx.elim

theorem IsPrompt.bind {x : Action α} {f : α → Action β} (hx : x.IsPrompt)
    (hf : ∀ a, (f a).IsPrompt) : (x >>= f).IsPrompt := by
  change (x.bind f).IsPrompt
  induction x with
  | ended first =>
    cases first with
    | ok a => exact hf a
    | error e => trivial
  | act change rest ih => exact fun s => ih s (hx s)
  | turn | lock | unlock | together => exact hx.elim

theorem IsPrompt.attempt {x : Action α} (hx : x.IsPrompt) : x.attempt.IsPrompt := by
  induction x with
  | ended first => trivial
  | act change rest ih => exact fun s => ih s (hx s)
  | turn | lock | unlock | together => exact hx.elim

theorem IsPrompt.ensure {x : Action α} {closing : Action Unit} (hx : x.IsPrompt)
    (hclosing : closing.IsPrompt) : (x.ensure closing).IsPrompt :=
  hx.attempt.bind fun _ => hclosing.bind fun _ => trivial

theorem isPrompt_session : session.IsPrompt := fun _ => trivial

theorem isPrompt_modify (f : Session → Session) : (modify f).IsPrompt := fun _ => trivial

theorem isPrompt_signal (error : Option Signal) : (signal error).IsPrompt := by
  cases error <;> trivial

end Action

/-! ## Steps of a crew -/

/-- The outcome is one that the step ends with among the others. -/
def Step.EndsIn (finds : Session → Prop) (step : Step) (outcome : Outcome) : Prop :=
  ∃ s t, finds s ∧ step.perform.Ends finds s outcome t

theorem Step.AllEnd.endsIn {steps : List Step} {outcomes : List Outcome}
    (h : Step.AllEnd finds steps outcomes) {i : Nat} {step : Step} {outcome : Outcome}
    (hstep : steps[i]? = some step) (houtcome : outcomes[i]? = some outcome) :
    ∃ ended, step.EndsIn finds ended ∧ outcome = ended.mapError Fault.collected := by
  induction steps generalizing outcomes i with
  | nil => cases hstep
  | cons first steps ih =>
    cases h with
    | cons hfinds hends hall =>
      cases i with
      | zero =>
        cases hstep
        cases houtcome
        exact ⟨_, ⟨_, _, hfinds, hends⟩, rfl⟩
      | succ i => exact ih hall hstep houtcome

/-- The step that was started at a place; the steps of every party are given. -/
def Place.Starts (place : Place) (started : List (List Step)) (step : Step) : Prop :=
  ∃ steps, started[place.party]? = some steps ∧ steps[place.index]? = some step

/-- Every end of the action from a session on is an end of the step. -/
def Action.Finishes (finds : Session → Prop) (rest : Action Reply) (s : Session) (step : Step) :
    Prop :=
  ∀ outcome t, rest.Ends finds s outcome t → step.EndsIn finds outcome

/-- What is left to be done of a step is left of that step. -/
def Job.Stands (finds : Session → Prop) (started : List (List Step)) : Job → Prop
  | .resume place rest => ∃ step, place.Starts started step ∧
      ∀ s, finds s → rest.Finishes finds s step
  | .report place outcome => ∃ step, place.Starts started step ∧ step.EndsIn finds outcome

/-- The outcomes of a party as far as they are known are those of its steps, and the action that
waits for them goes on with them. -/
structure Party.Stands (finds : Session → Prop) (started : List (List Step)) (steps : List Step)
    (party : Party) : Prop where
  known : List.Forall₂ (fun step known => ∀ outcome ∈ known,
    ∃ ended, step.EndsIn finds ended ∧ outcome = ended.mapError Fault.collected) steps
      party.outcomes
  waiting : ∀ place rest, party.waiting = some (place, rest) → ∃ step, place.Starts started step ∧
    ∀ outcomes s, Step.AllEnd finds steps outcomes → finds s →
      (rest outcomes).Finishes finds s step

/-- All that goes on stands for the steps that were started. -/
structure Crew.Stands (finds : Session → Prop) (started : List (List Step)) (crew : Crew) :
    Prop where
  queue : ∀ job ∈ crew.queue, job.Stands finds started
  locked : ∀ job ∈ crew.locked, job.Stands finds started
  parties : List.Forall₂ (Party.Stands finds started) started crew.parties

section Started

variable {started : List (List Step)}

theorem Place.Starts.append {place : Place} {step : Step} (h : place.Starts started step)
    (more : List (List Step)) : place.Starts (started ++ more) step := by
  obtain ⟨steps, hsteps, hstep⟩ := h
  have hlt := (List.getElem?_eq_some_iff.mp hsteps).1
  exact ⟨steps, (List.getElem?_append_left hlt).trans hsteps, hstep⟩

theorem Job.Stands.append {job : Job} (h : job.Stands finds started) (more : List (List Step)) :
    job.Stands finds (started ++ more) := by
  cases job with
  | resume place rest =>
    obtain ⟨step, hplace, hrest⟩ := h
    exact ⟨step, hplace.append more, hrest⟩
  | report place outcome =>
    obtain ⟨step, hplace, hends⟩ := h
    exact ⟨step, hplace.append more, hends⟩

theorem Party.Stands.append {steps : List Step} {party : Party}
    (h : party.Stands finds started steps) (more : List (List Step)) :
    party.Stands finds (started ++ more) steps where
  known := h.known
  waiting := by
    intro place rest hwaiting
    obtain ⟨step, hplace, hrest⟩ := h.waiting place rest hwaiting
    exact ⟨step, hplace.append more, hrest⟩

end Started

/-- A party of which all outcomes are known has the outcomes of its steps. -/
theorem Party.Stands.allEnd {started : List (List Step)} {steps : List Step} {party : Party}
    (h : party.Stands finds started steps) {outcomes : List Outcome}
    (hcomplete : party.complete? = some outcomes) : Step.AllEnd finds steps outcomes := by
  obtain ⟨known, waiting⟩ := party
  have hknown := h.known
  rw [Party.complete?] at hcomplete
  dsimp only at hknown hcomplete
  clear h
  induction hknown generalizing outcomes with
  | nil =>
    cases hcomplete
    exact .nil
  | @cons step first steps rest hfirst hrest ih =>
    rw [List.mapM_cons] at hcomplete
    cases first with
    | none => cases hcomplete
    | some outcome =>
      cases hothers : rest.mapM id with
      | none =>
        rw [hothers] at hcomplete
        cases hcomplete
      | some others =>
        rw [hothers] at hcomplete
        cases hcomplete
        obtain ⟨ended, ⟨s, t, hfinds, hends⟩, rfl⟩ := hfirst outcome rfl
        exact .cons hfinds hends (ih hothers)

namespace Crew

variable {started : List (List Step)} {crew : Crew}

theorem Stands.start (h : crew.Stands finds started) (steps : List Step)
    {waiting : Option (Place × (List Outcome → Action Reply))}
    (hwaiting : ∀ place rest, waiting = some (place, rest) → ∃ step, place.Starts started step ∧
      ∀ outcomes s, Step.AllEnd finds steps outcomes → finds s →
        (rest outcomes).Finishes finds s step) :
    (crew.start steps waiting).Stands finds (started ++ [steps]) where
  queue := by
    intro job hjob
    rcases List.mem_append.mp hjob with hjob | hjob
    · exact (h.queue job hjob).append [steps]
    · obtain ⟨index, hindex, rfl⟩ := List.mem_mapIdx.mp hjob
      refine ⟨steps[index], ⟨steps, ?_, List.getElem?_eq_getElem hindex⟩, ?_⟩
      · rw [← h.parties.length_eq]
        exact List.getElem?_concat_length
      · exact fun s hfinds outcome t hends => ⟨s, t, hfinds, hends⟩
  locked := fun job hjob => (h.locked job hjob).append [steps]
  parties := by
    refine List.rel_append (h.parties.imp fun _ _ hparty => hparty.append [steps]) (.cons ?_ .nil)
    refine ⟨?_, fun place rest hrest => ?_⟩
    · rw [List.forall₂_map_right_iff, List.forall₂_same]
      exact fun _ _ => nofun
    · obtain ⟨step, hplace, hgoes⟩ := hwaiting place rest hrest
      exact ⟨step, hplace.append [steps], hgoes⟩

theorem Stands.enqueue (h : crew.Stands finds started) {job : Job}
    (hjob : job.Stands finds started) : (crew.enqueue job).Stands finds started where
  queue := List.forall_mem_append.mpr ⟨h.queue, List.forall_mem_singleton.mpr hjob⟩
  locked := h.locked
  parties := h.parties

/-- Whatever a turn does, what is left of the step after it is left of that step. -/
theorem advance_stands (place : Place) (x : Action Reply) {step : Step} (crew : Crew)
    (h : crew.Stands finds started) (hplace : place.Starts started step)
    (hx : x.Finishes finds crew.session step) :
    ∃ more, (advance place x crew).Stands finds (started ++ more) := by
  have hstays {crew : Crew} (h : crew.Stands finds started) :
      ∃ more, crew.Stands finds (started ++ more) := ⟨[], by rwa [List.append_nil]⟩
  induction x generalizing crew with
  | ended outcome =>
    exact hstays (h.enqueue ⟨step, hplace, hx outcome crew.session .ended⟩)
  | act change rest ih =>
    exact ih crew.session { crew with session := change crew.session }
      ⟨h.queue, h.locked, h.parties⟩ fun outcome t hends => hx outcome t (.act hends)
  | turn rest ih =>
    exact hstays (h.enqueue ⟨step, hplace, fun s hfinds outcome t hends =>
      hx outcome t (.turn hfinds hends)⟩)
  | lock rest ih =>
    rw [advance]
    split
    · have hjob : Job.Stands finds started (.resume place rest) :=
        ⟨step, hplace, fun s hfinds outcome t hends => hx outcome t (.wait hfinds hends)⟩
      exact hstays ⟨h.queue, List.forall_mem_append.mpr
        ⟨h.locked, List.forall_mem_singleton.mpr hjob⟩, h.parties⟩
    · exact ih { crew with session := { crew.session with opening := true } }
        ⟨h.queue, h.locked, h.parties⟩ fun outcome t hends => hx outcome t (.lock hends)
  | unlock rest ih =>
    rw [advance]
    split
    · exact ih { crew with session := { crew.session with opening := false } }
        ⟨h.queue, h.locked, h.parties⟩ fun outcome t hends => hx outcome t (.unlock hends)
    · next next others hnext =>
      obtain ⟨hnext', hothers⟩ := List.forall_mem_cons.mp (hnext ▸ h.locked)
      have hrest : { crew with locked := others }.Stands finds started :=
        ⟨h.queue, hothers, h.parties⟩
      exact ih (enqueue { crew with locked := others } next) (hrest.enqueue hnext')
        fun outcome t hends => hx outcome t (.handOn hends)
  | together steps rest ih =>
    cases steps with
    | nil =>
      rw [advance]
      exact ih [] crew h fun outcome t hends => hx outcome t (.alone hends)
    | cons first steps =>
      rw [advance]
      refine ⟨[first :: steps], h.start _ ?_⟩
      rintro place' rest' ⟨⟩
      exact ⟨step, hplace, fun outcomes s hall hfinds outcome t hends =>
        hx outcome t (.together hall hfinds hends)⟩

/-- The news of a step is news of that step. -/
theorem Stands.hear (h : crew.Stands finds started) {place : Place} {outcome : Outcome}
    {step : Step} (hplace : place.Starts started step) (hends : step.EndsIn finds outcome) :
    (crew.hear place outcome).Stands finds started := by
  rw [Crew.hear]
  split
  · exact h
  · next party hparty =>
    have hrecord : ∀ steps, started[place.party]? = some steps →
        (party.record place.index outcome).Stands finds started steps := by
      intro steps hsteps
      have hstands := forall₂_getElem? h.parties hsteps hparty
      refine ⟨forall₂_set hstands.known fun step' hstep' => ?_, hstands.waiting⟩
      obtain ⟨steps', hsteps', hstep⟩ := hplace
      cases hsteps.symm.trans hsteps'
      cases hstep.symm.trans hstep'
      rintro _ ⟨⟩
      exact ⟨outcome, hends, rfl⟩
    have hheard : Stands finds started
        { crew with parties := crew.parties.set place.party (party.record place.index outcome) } :=
      ⟨h.queue, h.locked, forall₂_set h.parties hrecord⟩
    dsimp only
    split
    · next outcomes waiting rest hcomplete hwaiting =>
      obtain ⟨steps, hsteps, -⟩ := id hplace
      have hstands := hrecord steps hsteps
      obtain ⟨step', hplace', hrest⟩ := hstands.waiting waiting rest hwaiting
      exact hheard.enqueue ⟨step', hplace', fun s hfinds =>
        hrest outcomes s (hstands.allEnd hcomplete) hfinds⟩
    · exact hheard

theorem next_stands (h : crew.Stands finds started) (hfinds : finds crew.session) :
    ∃ more, crew.next.Stands finds (started ++ more) := by
  have hqueue := h.queue
  rw [next]
  split
  · exact ⟨[], by rwa [List.append_nil]⟩
  · next job jobs hjobs =>
    rw [hjobs] at hqueue
    obtain ⟨hjob, hrest⟩ := List.forall_mem_cons.mp hqueue
    have hothers : Stands finds started { crew with queue := jobs } :=
      ⟨hrest, h.locked, h.parties⟩
    cases job with
    | resume place rest =>
      obtain ⟨step, hplace, hstep⟩ := hjob
      exact advance_stands place rest { crew with queue := jobs } hothers hplace
        (hstep crew.session hfinds)
    | report place outcome =>
      obtain ⟨step, hplace, hends⟩ := hjob
      exact ⟨[], by rw [List.append_nil]; exact hothers.hear hplace hends⟩

/-- Steps that are started together in the first session have come to the second one after some of
their turns. -/
def Reached (steps : List Step) (s s' : Session) : Prop :=
  ∃ n, (turns n (Crew.start ⟨s, [], [], []⟩ steps none)).session = s'

theorem turns_stands (steps : List Step) (s : Session) (n : Nat) :
    ∃ more, (turns n (Crew.start ⟨s, [], [], []⟩ steps none)).Stands (Reached steps s)
      (steps :: more) := by
  induction n with
  | zero =>
    have hnone : Stands (Reached steps s) [] ⟨s, [], [], []⟩ :=
      ⟨List.forall_mem_nil _, List.forall_mem_nil _, .nil⟩
    exact ⟨[], hnone.start steps nofun⟩
  | succ n ih =>
    obtain ⟨more, hstands⟩ := ih
    obtain ⟨further, hnext⟩ := next_stands hstands ⟨n, rfl⟩
    rw [turns_succ]
    exact ⟨more ++ further, hnext⟩

/-- The outcomes of steps that are started together are those with which each of them ends among
the others. -/
theorem gather_ends (steps : List Step) (s : Session) :
    (gather steps s).1 = [] ∨ Step.AllEnd (Reached steps s) steps (gather steps s).1 := by
  obtain ⟨more, hstands⟩ := turns_stands steps s (spanAll steps)
  rw [gather]
  obtain ⟨party, parties, hparty, hrest, hparties⟩ :=
    List.forall₂_cons_left_iff.mp hstands.parties
  dsimp only
  rw [hparties, List.head?_cons, Option.bind_some]
  cases hcomplete : party.complete? with
  | none => exact Or.inl rfl
  | some outcomes => exact Or.inr (hparty.allEnd hcomplete)

end Crew

end SqlGateway
