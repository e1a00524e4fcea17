import SqlGateway.Session.Perform

/-!
# Taking turns

Steps that are started together share the session. They form a queue: the first in it goes on until
it has to wait, then the next has its turn, and whatever becomes ready joins the queue at its end.
An action that waits for the right to open a pool gets it when it is given back, before all that
ask for it later. One that has started steps of its own goes on when the last of them has been
heard of, which takes a turn after its end.

`Crew.gather` gives the outcomes of the steps in their order, whatever the order in which they
ended, and the session that they leave.
-/

namespace SqlGateway

/-- Where an outcome belongs: a step of a party. -/
structure Place where
  party : Nat
  index : Nat

/-- What waits for its turn. -/
inductive Job where
  /-- An action that goes on; the outcome belongs to the place. -/
  | resume (place : Place) (rest : Action Reply)
  /-- The news that the action of the place has ended. -/
  | report (place : Place) (outcome : Outcome)

/-- Steps that were started together: their outcomes as far as they are known, and the action that
waits for all of them, if there is one. -/
structure Party where
  outcomes : List (Option Outcome)
  waiting : Option (Place × (List Outcome → Action Reply))

/-- All that goes on in a session. -/
structure Crew where
  session : Session
  /-- What is ready, in the order of its turns. -/
  queue : List Job := []
  /-- What waits for the right to open a pool. -/
  locked : List Job := []
  /-- All that were started together so far. -/
  parties : List Party := []

/-- The party with one more outcome. -/
def Party.record (party : Party) (index : Nat) (outcome : Outcome) : Party :=
  { party with outcomes := party.outcomes.set index (some (outcome.mapError Fault.collected)) }

/-- The outcomes of a party, once all are known. -/
def Party.complete? (party : Party) : Option (List Outcome) := party.outcomes.mapM id

namespace Crew

/-- A job joins the queue at its end. -/
def enqueue (crew : Crew) (job : Job) : Crew := { crew with queue := crew.queue ++ [job] }

/-- The beginnings of the steps of a party. -/
def beginnings (party : Nat) (steps : List Step) : List Job :=
  steps.mapIdx fun index step => .resume ⟨party, index⟩ step.perform

/-- Starts steps together for an action that waits for them. -/
def start (crew : Crew) (steps : List Step)
    (waiting : Option (Place × (List Outcome → Action Reply))) : Crew :=
  { crew with
    queue := crew.queue ++ beginnings crew.parties.length steps
    parties := crew.parties ++ [⟨steps.map fun _ => none, waiting⟩] }

/-- An action goes on until it ends or has to wait. -/
def advance (place : Place) : Action Reply → Crew → Crew
  | .ended outcome, crew => crew.enqueue (.report place outcome)
  | .act change rest, crew =>
    advance place (rest crew.session) { crew with session := change crew.session }
  | .turn rest, crew => crew.enqueue (.resume place rest)
  | .lock rest, crew =>
    if crew.session.opening then { crew with locked := crew.locked ++ [.resume place rest] }
    else advance place rest { crew with session := { crew.session with opening := true } }
  | .unlock rest, crew =>
    match crew.locked with
    | [] => advance place rest { crew with session := { crew.session with opening := false } }
    | next :: others => advance place rest ({ crew with locked := others }.enqueue next)
  | .together [] rest, crew => advance place (rest []) crew
  | .together (step :: steps) rest, crew => crew.start (step :: steps) (some (place, rest))
termination_by structural action => action

/-- The news that an action has ended reaches its party, and when it was the last of the party,
the action that waits for it is ready. -/
def hear (crew : Crew) (place : Place) (outcome : Outcome) : Crew :=
  match crew.parties[place.party]? with
  | none => crew
  | some party =>
    let party := party.record place.index outcome
    let crew := { crew with parties := crew.parties.set place.party party }
    match party.complete?, party.waiting with
    | some outcomes, some (waiting, rest) => crew.enqueue (.resume waiting (rest outcomes))
    | _, _ => crew

/-- One turn. -/
def turn (crew : Crew) : Job → Crew
  | .resume place rest => advance place rest crew
  | .report place outcome => crew.hear place outcome

/-- A number of turns, fewer if nothing is left to be done. -/
def turns : Nat → Crew → Crew
  | 0, crew => crew
  | n + 1, crew =>
    match crew.queue with
    | [] => crew
    | job :: queue => turns n ({ crew with queue := queue }.turn job)

mutual

/-- More turns than a step can have: of its own it has at most one to begin, one when it gets the
right to open a pool, three to open it, two to give a connection back, one when steps that it has
started are through, and one to be heard of. -/
def span : Step → Nat
  | .withConnection steps _ | .together steps => 10 + spanAll steps
  | _ => 10
termination_by structural step => step

/-- More turns than several steps can have. -/
def spanAll : List Step → Nat
  | [] => 0
  | step :: steps => span step + spanAll steps
termination_by structural steps => steps

end

/-- The outcomes of steps that are started together, and the session that they leave. -/
def gather (steps : List Step) (s : Session) : List Outcome × Session :=
  let crew := turns (spanAll steps) (start ⟨s, [], [], []⟩ steps none)
  (((crew.parties.head?.bind Party.complete?).getD []), crew.session)

end Crew

/-- What becomes of a session when an action is carried out in it. -/
def Action.run {α : Type} (x : Action α) (s : Session) : Action.Run α := x.runWith Crew.gather s

/-- The answers of a session to its steps. -/
def Session.answers (s : Session) (steps : List Step) : List Answer :=
  match ((Step.performAll steps).run s).outcome with
  | .ok answers => answers
  | .error _ => []

end SqlGateway
