import Mathlib.Data.List.Nodup
import SqlGateway.Proofs.List
import SqlGateway.Session.Crew

/-!
# The span of steps

Steps that are started together are all through after their span (`Crew.queue_gathered`): nothing
is left that waits for its turn. An action has a bounded number of turns whatever it meets in them
(`Action.Takes`), and a step at most as many as its span says (`Step.perform_takes`). What a crew
still has to do is counted as its tasks, each with its place, of which no two are alike; a turn
leaves one turn less to be had (`Crew.Left.next`).
-/

namespace SqlGateway

/-! ## Turns of one action -/

/-- The action has at most so many turns before it ends, those of steps that it starts included. -/
def Action.Takes {α : Type} : Action α → Nat → Prop
  | .ended _, _ => True
  | .act _ rest, k => ∀ s, (rest s).Takes k
  | .turn rest, k | .lock rest, k => ∃ j, j + 1 ≤ k ∧ rest.Takes j
  | .unlock rest, k => rest.Takes k
  | .together steps rest, k =>
    ∃ j, Crew.spanAll steps + 1 + j ≤ k ∧ ∀ outcomes, (rest outcomes).Takes j
termination_by structural x => x

namespace Action

variable {α β : Type} {j k : Nat}

theorem takes_ended (outcome : Except Fault α) : (ended outcome).Takes k := trivial

theorem Takes.mono {x : Action α} (hx : x.Takes j) (hjk : j ≤ k) : x.Takes k := by
  induction x with
  | ended outcome => trivial
  | act change rest ih => exact fun s => ih s (hx s)
  | turn rest | lock rest =>
    obtain ⟨i, hi, hrest⟩ := hx
    exact ⟨i, by omega, hrest⟩
  | unlock rest ih => exact ih hx
  | together steps rest =>
    obtain ⟨i, hi, hrest⟩ := hx
    exact ⟨i, by omega, hrest⟩

theorem Takes.bind {x : Action α} {f : α → Action β} (hx : x.Takes j)
    (hf : ∀ a, (f a).Takes k) : (x >>= f).Takes (j + k) := by
  change (x.bind f).Takes (j + k)
  induction x generalizing j with
  | ended outcome =>
    cases outcome with
    | error e => trivial
    | ok a => exact (hf a).mono (Nat.le_add_left k j)
  | act change rest ih => exact fun s => ih s (hx s)
  | turn rest ih | lock rest ih =>
    obtain ⟨i, hi, hrest⟩ := hx
    exact ⟨i + k, by omega, ih hrest⟩
  | unlock rest ih => exact ih hx
  | together steps rest ih =>
    obtain ⟨i, hi, hrest⟩ := hx
    exact ⟨i + k, by omega, fun outcomes => ih outcomes (hrest outcomes)⟩

theorem Takes.attempt {x : Action α} (hx : x.Takes k) : x.attempt.Takes k := by
  induction x generalizing k with
  | ended outcome => trivial
  | act change rest ih => exact fun s => ih s (hx s)
  | turn rest ih | lock rest ih =>
    obtain ⟨i, hi, hrest⟩ := hx
    exact ⟨i, hi, ih hrest⟩
  | unlock rest ih => exact ih hx
  | together steps rest ih =>
    obtain ⟨i, hi, hrest⟩ := hx
    exact ⟨i, hi, fun outcomes => ih outcomes (hrest outcomes)⟩

theorem Takes.map {x : Action α} (f : α → β) (hx : x.Takes k) : (f <$> x).Takes k := by
  rw [← bind_pure_comp]
  exact hx.bind (k := 0) fun _ => takes_ended _

theorem Takes.mapFault {x : Action α} (f : Fault → Fault) (hx : x.Takes k) :
    (x.mapFault f).Takes k := hx.attempt.bind (k := 0) fun _ => takes_ended _

theorem Takes.ensure {x : Action α} {closing : Action Unit} (hx : x.Takes j)
    (hclosing : closing.Takes k) : (x.ensure closing).Takes (j + k) :=
  hx.attempt.bind fun _ => hclosing.bind (k := 0) fun _ => takes_ended _

/-- What needs no turn does not delay what follows. -/
theorem Takes.after {x : Action α} {f : α → Action β} (hx : x.Takes 0)
    (hf : ∀ a, (f a).Takes k) : (x >>= f).Takes k :=
  (hx.bind hf).mono (by omega)

theorem takes_session : session.Takes 0 := fun _ => trivial

theorem Takes.capture {x : Action α} (hx : x.Takes k) : x.capture.Takes k :=
  takes_session.after fun _ => hx.attempt.bind (k := 0) fun _ =>
    takes_session.after fun _ => takes_ended _

theorem takes_modify (f : Session → Session) : (modify f).Takes 0 := fun _ => trivial

theorem takes_signal (error : Option Signal) : (signal error).Takes 0 := by
  cases error <;> trivial

theorem takes_giveWay : giveWay.Takes 1 := ⟨0, Nat.le_refl 1, trivial⟩

/-- The right to open a pool is waited for in one turn. -/
theorem Takes.exclusively {x : Action α} (hx : x.Takes k) : x.exclusively.Takes (k + 1) := by
  have hunlock : (unlock (ended (.ok ()))).Takes 0 := trivial
  exact ⟨k, Nat.le_refl _, hx.ensure hunlock⟩

end Action

namespace Gateway

open SqlGateway.Action

theorem openPool_takes : openPool.Takes 3 := by
  refine takes_session.after fun s => ?_
  split
  · trivial
  · exact takes_giveWay.bind (k := 2) fun _ => takes_giveWay.bind (k := 1) fun _ =>
      takes_giveWay.bind (k := 0) fun _ => takes_ended _
  · refine takes_giveWay.bind (k := 2) fun _ => takes_session.after fun asked =>
      (takes_modify _).after fun _ => takes_giveWay.bind (k := 1) fun _ =>
        takes_giveWay.bind (k := 0) fun _ => ?_
    split
    · trivial
    · exact (takes_modify _).after fun _ => takes_modify _

theorem acquire_takes : acquire.Takes 4 := by
  have hensure : ensurePool.Takes 4 := by
    refine takes_session.after fun s => ?_
    split
    · trivial
    · split
      · trivial
      · refine Takes.exclusively (takes_session.after fun s => ?_)
        split
        · trivial
        · exact openPool_takes
  exact hensure.bind (k := 0) fun _ => takes_session.after fun s => (takes_signal _).after fun _ =>
    (takes_modify _).after fun _ => (takes_modify _).after fun _ => takes_ended _

theorem release_takes (n : Nat) : (release n).Takes 2 := by
  refine takes_session.after fun s => ?_
  split
  · exact (takes_modify _).after fun _ => (takes_signal _).mono (Nat.zero_le 2)
  · split
    · exact (takes_modify _).after fun _ => (takes_signal _).after fun _ =>
        takes_giveWay.bind (k := 1) fun _ => (takes_modify _).after fun _ => takes_giveWay
    · exact (takes_modify _).mono (Nat.zero_le 2)

theorem execute_takes (n : Nat) (sql : Text) (parameters : Value) :
    (execute n sql parameters).Takes 0 := by
  refine takes_session.after fun s => ?_
  split
  · exact (takes_modify _).after fun _ => (takes_signal _).after fun _ => takes_ended _
  · refine takes_session.after fun s => Takes.ensure (k := 0) ?_ (takes_modify _)
    refine (takes_modify _).after fun _ => (takes_signal _).after fun _ => ?_
    split
    · exact (takes_modify _).after fun _ => takes_ended _
    · trivial

theorem shutdown_takes : shutdown.Takes 0 := by
  refine takes_session.after fun s => ?_
  split
  · exact (takes_modify _).after fun _ => takes_signal _
  · split
    · exact (takes_modify _).after fun _ => (takes_modify _).after fun _ =>
        (takes_signal _).after fun _ => (takes_modify _).after fun _ => takes_modify _
    · trivial

end Gateway

namespace Pool

open SqlGateway.Action

theorem withConnection_takes {α : Type} {body : Nat → Action α} {k : Nat}
    (hbody : ∀ n, (body n).Takes k) : (withConnection body).Takes (4 + (k + 2)) :=
  (Gateway.acquire_takes.mapFault _).bind fun n => (hbody n).ensure (Gateway.release_takes n)

theorem query_takes (sql : Text) (parameters : Value) : (query sql parameters).Takes 6 :=
  withConnection_takes (k := 0) fun n =>
    (takes_modify _).after fun _ => Gateway.execute_takes n sql parameters

theorem queryBuilt_takes (build : ZoneChoice → Except Fault Text) : (queryBuilt build).Takes 6 :=
  takes_session.after fun _ => Takes.after (trivial : Takes (ofExcept _) 0) fun sql =>
    query_takes sql .null

end Pool

namespace Step

open SqlGateway.Action Crew

theorem ten_le_span (step : Step) : 10 ≤ span step := by
  cases step with
  | withConnection steps raised | together steps =>
    rw [span]
    exact Nat.le_add_right 10 _
  | _ => exact Nat.le_refl 10

/-- What takes few turns does so in the span of any step. -/
theorem takes_span {α : Type} {x : Action α} {k : Nat} (hx : x.Takes k) (hk : k ≤ 8) (step : Step) :
    x.Takes (span step - 2) := by
  have hspan := ten_le_span step
  exact hx.mono (by omega)

mutual

/-- A step ends within its span, which leaves it a turn to begin in and one to be heard of. -/
theorem perform_takes : ∀ step : Step, step.perform.Takes (span step - 2)
  | .change _ => by
    rw [perform]
    exact takes_span ((takes_modify _).after (k := 0) fun _ => takes_ended _) (by omega) _
  | .query sql parameters => by
    rw [perform]
    exact takes_span ((Pool.query_takes sql parameters).map _) (by omega) _
  | .insert .. | .update .. | .delete .. | .select .. => by
    rw [perform]
    exact takes_span ((Pool.queryBuilt_takes _).map _) (by omega) _
  | .selectOne .. => by
    rw [perform]
    exact takes_span (((Pool.queryBuilt_takes _).bind (k := 0) fun _ => takes_ended _).map _)
      (by omega) _
  | .literal _ => by
    rw [perform]
    exact takes_span (Takes.map _ (takes_session.after (k := 0) fun _ => takes_ended _))
      (by omega) _
  | .timestamp _ => by
    rw [perform]
    exact Takes.map _ (takes_ended _)
  | .shutdown => by
    rw [perform]
    exact takes_span (Gateway.shutdown_takes.after (k := 0) fun _ => takes_ended _) (by omega) _
  | .withConnection steps raised => by
    rw [perform, span]
    refine (Pool.withConnection_takes (k := spanAll steps) fun n => ?_).mono (by omega)
    exact (performAll_takes steps).bind (k := 0) fun _ =>
      (takes_signal raised).after fun _ => takes_ended _
  | .acquire => by
    rw [perform]
    exact takes_span (Gateway.acquire_takes.map _) (by omega) _
  | .release n => by
    rw [perform]
    exact takes_span ((Gateway.release_takes n).bind (k := 0) fun _ => takes_ended _) (by omega) _
  | .execute n sql parameters => by
    rw [perform]
    exact takes_span ((Gateway.execute_takes n sql parameters).map _) (by omega) _
  | .together steps => by
    rw [perform, span]
    exact ⟨0, by omega, fun _ => trivial⟩
  | .faulty _ => by
    rw [perform]
    exact takes_ended _
termination_by structural step => step

theorem performAll_takes : ∀ steps : List Step, (performAll steps).Takes (spanAll steps)
  | [] => by
    rw [performAll]
    exact takes_ended _
  | step :: rest => by
    rw [performAll, spanAll]
    refine Takes.bind ((perform_takes step).capture.mono (by omega)) fun _ => ?_
    exact (performAll_takes rest).bind (k := 0) fun _ => takes_ended _
termination_by structural steps => steps

end

end Step

/-! ## Turns of a crew -/

/-- The job is a task: something has still to be heard of a place, and that takes at most so many
turns. -/
inductive Job.IsTask : Job → Place × Nat → Prop
  | resume {place : Place} {rest : Action Reply} {j k : Nat} : rest.Takes j → j + 2 ≤ k →
      IsTask (.resume place rest) (place, k)
  | report {place : Place} {outcome : Outcome} {k : Nat} : 1 ≤ k →
      IsTask (.report place outcome) (place, k)

/-- The tasks of the actions that wait for steps which they started and which are not through. -/
inductive Owed : List Party → List (Place × Nat) → Prop
  | nil : Owed [] []
  | idle {party : Party} {parties : List Party} {tasks : List (Place × Nat)} :
      party.complete? ≠ none ∨ party.waiting = none → Owed parties tasks →
        Owed (party :: parties) tasks
  | waits {party : Party} {parties : List Party} {tasks : List (Place × Nat)} {place : Place}
      {rest : List Outcome → Action Reply} {j k : Nat} :
      party.complete? = none → party.waiting = some (place, rest) →
        (∀ outcomes, (rest outcomes).Takes j) → j + 2 ≤ k → Owed parties tasks →
        Owed (party :: parties) ((place, k) :: tasks)

/-- The outcome that belongs to the place is not known. -/
def Unheard (parties : List Party) (place : Place) : Prop :=
  ∃ party, parties[place.party]? = some party ∧ party.outcomes[place.index]? = some none

/-- How many turns tasks take together. -/
def turnsDue : List (Place × Nat) → Nat
  | [] => 0
  | task :: tasks => task.2 + turnsDue tasks

theorem turnsDue_append (tasks tasks' : List (Place × Nat)) :
    turnsDue (tasks ++ tasks') = turnsDue tasks + turnsDue tasks' := by
  induction tasks with
  | nil => exact (Nat.zero_add _).symm
  | cons task tasks ih => rw [List.cons_append, turnsDue, turnsDue, ih, Nat.add_assoc]

theorem turnsDue_perm {tasks tasks' : List (Place × Nat)} (h : tasks.Perm tasks') :
    turnsDue tasks = turnsDue tasks' := by
  induction h with
  | nil => rfl
  | cons task _ ih => rw [turnsDue, turnsDue, ih]
  | swap task task' tasks => exact Nat.add_left_comm ..
  | trans _ _ ih ih' => exact ih.trans ih'

/-- No two tasks have one place, the outcome of none is known, and together they take at most so
many turns. -/
structure Tasks (parties : List Party) (tasks : List (Place × Nat)) (n : Nat) : Prop where
  apart : (tasks.map Prod.fst).Nodup
  unheard : ∀ task ∈ tasks, Unheard parties task.1
  due_le : turnsDue tasks ≤ n

/-- At most so many turns are left to the crew. -/
def Crew.Left (n : Nat) (crew : Crew) : Prop :=
  ∃ ready locked owed, List.Forall₂ Job.IsTask crew.queue ready ∧
    List.Forall₂ Job.IsTask crew.locked locked ∧ Owed crew.parties owed ∧
    Tasks crew.parties (ready ++ locked ++ owed) n

/-- A task that takes fewer turns leaves fewer. -/
theorem Tasks.lower {parties : List Party} {tasks : List (Place × Nat)} {place : Place}
    {j k m n : Nat} (h : Tasks parties ((place, k) :: tasks) n) (hn : j + n ≤ k + m) :
    Tasks parties ((place, j) :: tasks) m where
  apart := h.apart
  unheard := List.forall_mem_cons.mpr (List.forall_mem_cons.mp h.unheard)
  due_le := by
    have hdue := h.due_le
    rw [turnsDue] at hdue ⊢
    omega

theorem Party.complete?_of_unheard {party : Party} {i : Nat}
    (h : party.outcomes[i]? = some none) : party.complete? = none :=
  mapM_id_eq_none (List.mem_of_getElem? h)

/-- When the news of a place is heard, the outcomes of the other tasks stay unknown. -/
theorem Tasks.heard {parties : List Party} {tasks : List (Place × Nat)} {place : Place} {k n : Nat}
    (h : Tasks parties ((place, k) :: tasks) n) (outcome : Outcome) :
    Unheard parties place ∧ ∀ party, parties[place.party]? = some party →
      Tasks (parties.set place.party (party.record place.index outcome)) tasks n := by
  obtain ⟨hplace, hapart⟩ := List.nodup_cons.mp h.apart
  obtain ⟨hunheard, hothers⟩ := List.forall_mem_cons.mp h.unheard
  refine ⟨hunheard, fun party hparty => ⟨hapart, fun task htask => ?_, ?_⟩⟩
  · obtain ⟨other, hother, hnone⟩ := hothers task htask
    have hne : place ≠ task.1 := by
      rintro rfl
      exact hplace (List.mem_map.mpr ⟨task, htask, rfl⟩)
    by_cases hsame : place.party = task.1.party
    · rw [← hsame, hparty] at hother
      cases hother
      have hindex : place.index ≠ task.1.index := by
        intro hindex
        obtain ⟨⟨p, i⟩, k⟩ := task
        cases place
        cases hsame
        cases hindex
        exact hne rfl
      have hlt := (List.getElem?_eq_some_iff.mp hparty).1
      refine ⟨party.record place.index outcome, ?_, ?_⟩
      · rw [← hsame, List.getElem?_set_self hlt]
      · exact (List.getElem?_set_ne hindex).trans hnone
    · exact ⟨other, (List.getElem?_set_ne hsame).trans hother, hnone⟩
  · have hdue := h.due_le
    rw [turnsDue] at hdue
    omega

theorem Tasks.perm {parties : List Party} {tasks tasks' : List (Place × Nat)} {n : Nat}
    (h : Tasks parties tasks n) (hperm : tasks.Perm tasks') : Tasks parties tasks' n where
  apart := (hperm.map Prod.fst).nodup_iff.mp h.apart
  unheard := fun task htask => h.unheard task (hperm.mem_iff.mpr htask)
  due_le := by
    rw [← turnsDue_perm hperm]
    exact h.due_le

namespace Owed

variable {parties : List Party} {tasks : List (Place × Nat)} {party party' : Party} {i : Nat}

theorem append {more : List Party} {tasks' : List (Place × Nat)} (h : Owed parties tasks)
    (h' : Owed more tasks') : Owed (parties ++ more) (tasks ++ tasks') := by
  induction h with
  | nil => exact h'
  | idle hidle _ ih => exact .idle hidle ih
  | waits hcomplete hwaiting hrest hk _ ih => exact .waits hcomplete hwaiting hrest hk ih

/-- A party that lacks an outcome before and after one becomes known. -/
theorem keep (h : Owed parties tasks) (hparty : parties[i]? = some party)
    (hwaiting : party'.waiting = party.waiting) (hbefore : party.complete? = none)
    (hafter : party'.complete? = none ∨ party.waiting = none) :
    Owed (parties.set i party') tasks := by
  induction h generalizing i with
  | nil => cases hparty
  | idle hidle hrest ih =>
    cases i with
    | succ i => exact .idle hidle (ih hparty)
    | zero =>
      cases hparty
      refine .idle (Or.inr ?_) hrest
      rw [hwaiting]
      exact hidle.resolve_left (absurd hbefore)
  | waits hcomplete hwaits hrest hk hothers ih =>
    cases i with
    | succ i => exact .waits hcomplete hwaits hrest hk (ih hparty)
    | zero =>
      cases hparty
      refine .waits (hafter.resolve_right ?_) (hwaiting.trans hwaits) hrest hk hothers
      rw [hwaits]
      nofun

/-- When the last outcome of a party becomes known, the action that waits for it may go on. -/
theorem take (h : Owed parties tasks) (hparty : parties[i]? = some party)
    (hbefore : party.complete? = none) (hafter : party'.complete? ≠ none) {place : Place}
    {rest : List Outcome → Action Reply} (hwaits : party.waiting = some (place, rest)) :
    ∃ k tasks', (∀ outcomes, Job.IsTask (.resume place (rest outcomes)) (place, k)) ∧
      tasks.Perm ((place, k) :: tasks') ∧ Owed (parties.set i party') tasks' := by
  induction h generalizing i with
  | nil => cases hparty
  | @idle other parties tasks hidle _ ih =>
    cases i with
    | succ i =>
      obtain ⟨k, tasks', htask, hperm, howed⟩ := ih hparty
      exact ⟨k, tasks', htask, hperm, .idle hidle howed⟩
    | zero =>
      cases hparty
      rcases hidle with hidle | hidle
      · exact absurd hbefore hidle
      · rw [hwaits] at hidle
        cases hidle
  | @waits other parties tasks place' rest' j k hcomplete hwaits' hrest hk hothers ih =>
    cases i with
    | succ i =>
      obtain ⟨k', tasks', htask, hperm, howed⟩ := ih hparty
      exact ⟨k', (place', k) :: tasks', htask, (hperm.cons _).trans (.swap ..),
        .waits hcomplete hwaits' hrest hk howed⟩
    | zero =>
      cases hparty
      cases hwaits'.symm.trans hwaits
      exact ⟨k, tasks, fun outcomes => .resume (hrest outcomes) hk, .refl _, .idle (Or.inl hafter)
        hothers⟩

end Owed

namespace Crew

open SqlGateway.Action

/-! ### Beginnings -/

/-- The tasks of steps that are about to begin. -/
def begun (party : Nat) (steps : List Step) : List (Place × Nat) :=
  steps.mapIdx fun index step => (⟨party, index⟩, span step)

theorem beginnings_begun (party : Nat) (steps : List Step) :
    List.Forall₂ Job.IsTask (beginnings party steps) (begun party steps) := by
  refine List.forall₂_iff_get.mpr ⟨by simp [beginnings, begun], fun i h₁ h₂ => ?_⟩
  simp only [beginnings, begun, List.get_eq_getElem, List.getElem_mapIdx]
  have hi : i < steps.length := by simpa [begun] using h₂
  have hspan := Step.ten_le_span steps[i]
  exact .resume (Step.perform_takes _) (by omega)

theorem turnsDue_begun (party : Nat) (steps : List Step) :
    turnsDue (begun party steps) = spanAll steps := by
  have hplaces (place : Nat → Place) :
      turnsDue (steps.mapIdx fun index step => (place index, span step)) = spanAll steps := by
    induction steps generalizing place with
    | nil => rfl
    | cons step steps ih =>
      rw [List.mapIdx_cons, turnsDue, spanAll, ih fun index => place (index + 1)]
  exact hplaces (Place.mk party)

theorem mem_begun {party : Nat} {steps : List Step} {task : Place × Nat}
    (h : task ∈ begun party steps) : task.1.party = party ∧ task.1.index < steps.length := by
  obtain ⟨index, hindex, rfl⟩ := List.mem_mapIdx.mp h
  exact ⟨rfl, hindex⟩

theorem nodup_begun (party : Nat) (steps : List Step) :
    ((begun party steps).map Prod.fst).Nodup := by
  have hplaces : (begun party steps).map Prod.fst =
      (List.range steps.length).map (Place.mk party) :=
    List.ext_getElem (by simp [begun]) fun i _ _ => by simp [begun]
  rw [hplaces]
  exact List.Nodup.map (fun i j h => congrArg Place.index h) List.nodup_range

/-- Steps that begin are tasks at places of their own. -/
theorem tasks_begun {parties : List Party} {tasks : List (Place × Nat)} {n : Nat}
    (h : Tasks parties tasks n) (steps : List Step)
    (waiting : Option (Place × (List Outcome → Action Reply))) :
    Tasks (parties ++ [⟨steps.map fun _ => none, waiting⟩]) (begun parties.length steps ++ tasks)
      (spanAll steps + n) where
  apart := by
    rw [List.map_append, List.nodup_append]
    refine ⟨nodup_begun _ steps, h.apart, ?_⟩
    intro place hbegun place' hplace' hsame
    obtain ⟨other, hother, rfl⟩ := List.mem_map.mp hbegun
    obtain ⟨task, htask, rfl⟩ := List.mem_map.mp hplace'
    obtain ⟨party, hparty, -⟩ := h.unheard task htask
    have hlt := (List.getElem?_eq_some_iff.mp hparty).1
    rw [← hsame, (mem_begun hother).1] at hlt
    exact Nat.lt_irrefl _ hlt
  unheard := by
    intro task htask
    rcases List.mem_append.mp htask with htask | htask
    · obtain ⟨hparty, hindex⟩ := mem_begun htask
      refine ⟨⟨steps.map fun _ => none, waiting⟩, ?_, ?_⟩
      · rw [hparty, List.getElem?_concat_length]
      · simp [hindex]
    · obtain ⟨party, hparty, hunheard⟩ := h.unheard task htask
      have hlt := (List.getElem?_eq_some_iff.mp hparty).1
      exact ⟨party, (List.getElem?_append_left hlt).trans hparty, hunheard⟩
  due_le := by
    rw [turnsDue_append, turnsDue_begun]
    exact Nat.add_le_add_left h.due_le _

/-! ### One turn -/

/-- Steps that an action starts and the action itself, which waits for them. -/
theorem start_left {crew : Crew} {place : Place} {rest : List Outcome → Action Reply} {j n : Nat}
    {ready locked owed : List (Place × Nat)} (hrest : ∀ outcomes, (rest outcomes).Takes j)
    (hready : List.Forall₂ Job.IsTask crew.queue ready)
    (hlocked : List.Forall₂ Job.IsTask crew.locked locked) (howed : Owed crew.parties owed)
    (htasks : Tasks crew.parties ((place, j + 2) :: (ready ++ locked ++ owed)) n) (step : Step)
    (steps : List Step) :
    (crew.start (step :: steps) (some (place, rest))).Left (spanAll (step :: steps) + n) := by
  have hwaits : Owed [⟨(step :: steps).map fun _ => none, some (place, rest)⟩] [(place, j + 2)] :=
    .waits (by simp [Party.complete?]) rfl hrest (Nat.le_refl _) .nil
  refine ⟨_, locked, _, List.rel_append hready (beginnings_begun _ _), hlocked,
    howed.append hwaits, (tasks_begun htasks (step :: steps) (some (place, rest))).perm ?_⟩
  generalize begun crew.parties.length (step :: steps) = begun
  have hlast : (begun ++ (place, j + 2) :: (ready ++ locked ++ owed)).Perm
      (begun ++ ready ++ (locked ++ owed ++ [(place, j + 2)])) := by
    rw [List.append_assoc begun, ← List.append_assoc ready, ← List.append_assoc ready]
    exact (List.perm_append_singleton _ _).symm.append_left begun
  refine hlast.trans ((List.perm_append_comm.append_right _).trans ?_)
  rw [List.append_assoc, List.append_assoc, List.append_assoc, List.append_assoc]

/-- An action that goes on takes the turns that were left to it. -/
theorem advance_left (place : Place) (x : Action Reply) {k n : Nat} (crew : Crew)
    {ready locked owed : List (Place × Nat)} (hx : x.Takes k)
    (hready : List.Forall₂ Job.IsTask crew.queue ready)
    (hlocked : List.Forall₂ Job.IsTask crew.locked locked) (howed : Owed crew.parties owed)
    (htasks : Tasks crew.parties ((place, k + 1) :: (ready ++ locked ++ owed)) n) :
    (advance place x crew).Left n := by
  induction x generalizing k crew ready locked with
  | ended outcome =>
    exact ⟨_, locked, owed, List.rel_append hready (.cons (.report (Nat.le_add_left 1 k)) .nil),
      hlocked, howed, htasks.perm (by simpa using List.perm_middle.symm)⟩
  | act change rest ih =>
    exact ih _ { crew with session := change crew.session } (hx _) hready hlocked howed htasks
  | turn rest ih =>
    obtain ⟨j, hj, hrest⟩ := hx
    have htask : Job.IsTask (.resume place rest) (place, k + 1) := .resume hrest (by omega)
    exact ⟨_, locked, owed, List.rel_append hready (.cons htask .nil), hlocked, howed,
      htasks.perm (by simpa using List.perm_middle.symm)⟩
  | lock rest ih =>
    obtain ⟨j, hj, hrest⟩ := hx
    rw [advance]
    split
    · have htask : Job.IsTask (.resume place rest) (place, k + 1) := .resume hrest (by omega)
      refine ⟨ready, _, owed, hready, List.rel_append hlocked (.cons htask .nil), howed,
        htasks.perm ?_⟩
      rw [← List.append_assoc, List.append_assoc _ [_]]
      exact List.perm_middle.symm
    · exact ih { crew with session := { crew.session with opening := true } }
        (hrest.mono (by omega)) hready hlocked howed htasks
  | unlock rest ih =>
    rw [advance]
    split
    · exact ih { crew with session := { crew.session with opening := false } } hx hready hlocked
        howed htasks
    · next next others hnext =>
      rw [hnext] at hlocked
      obtain ⟨task, tasks, htask, hothers, rfl⟩ := List.forall₂_cons_left_iff.mp hlocked
      exact ih (enqueue { crew with locked := others } next) hx
        (List.rel_append hready (.cons htask .nil)) hothers howed (htasks.perm (by simp))
  | together steps rest ih =>
    obtain ⟨j, hj, hrest⟩ := hx
    cases steps with
    | nil =>
      rw [advance]
      exact ih [] crew ((hrest []).mono (by omega)) hready hlocked howed htasks
    | cons step steps =>
      have hdue := htasks.due_le
      rw [turnsDue] at hdue
      have hn : spanAll (step :: steps) + (n - spanAll (step :: steps)) = n := by omega
      rw [advance, ← hn]
      exact start_left hrest hready hlocked howed (htasks.lower (by omega)) step steps

/-- The news of a place is one task less. -/
theorem hear_left (crew : Crew) {place : Place} {k n : Nat}
    {ready locked owed : List (Place × Nat)} (outcome : Outcome)
    (hready : List.Forall₂ Job.IsTask crew.queue ready)
    (hlocked : List.Forall₂ Job.IsTask crew.locked locked) (howed : Owed crew.parties owed)
    (htasks : Tasks crew.parties ((place, k) :: (ready ++ locked ++ owed)) n) :
    (crew.hear place outcome).Left n := by
  obtain ⟨hunheard, htasks⟩ := htasks.heard outcome
  obtain ⟨party, hparty, hnone⟩ := hunheard
  have hbefore := party.complete?_of_unheard hnone
  rw [hear, hparty]
  dsimp only
  have htasks := htasks party hparty
  split
  · next outcomes waiting rest hafter hwaiting =>
    have hafter' : (party.record place.index outcome).complete? ≠ none := by simp [hafter]
    obtain ⟨j, owed', htask, hperm, howed'⟩ := howed.take hparty hbefore hafter' hwaiting
    refine ⟨_, locked, owed', List.rel_append hready (.cons (htask outcomes) .nil), hlocked, howed',
      htasks.perm ?_⟩
    refine (hperm.append_left _).trans (List.perm_middle.trans ?_)
    simpa using List.perm_middle.symm
  · next hneither =>
    refine ⟨ready, locked, owed, hready, hlocked, howed.keep hparty rfl hbefore ?_, htasks⟩
    by_contra hboth
    obtain ⟨hcomplete, hwaiting⟩ := not_or.mp hboth
    obtain ⟨outcomes, houtcomes⟩ := Option.ne_none_iff_exists'.mp hcomplete
    obtain ⟨⟨waiting, rest⟩, hwaits⟩ := Option.ne_none_iff_exists'.mp hwaiting
    exact hneither outcomes waiting rest houtcomes hwaits

/-- Every turn is one turn less. -/
theorem turn_left {job : Job} {queue : List Job} {n : Nat} {crew : Crew}
    (hqueue : crew.queue = job :: queue) (h : crew.Left (n + 1)) :
    (turn { crew with queue := queue } job).Left n := by
  obtain ⟨ready, locked, owed, hready, hlocked, howed, htasks⟩ := h
  rw [hqueue] at hready
  obtain ⟨task, ready, htask, hrest, rfl⟩ := List.forall₂_cons_left_iff.mp hready
  cases htask with
  | @resume place rest j k htakes hk =>
    exact advance_left place rest { crew with queue := queue } htakes hrest hlocked howed
      (htasks.lower (by omega))
  | @report place outcome k hk =>
    exact hear_left { crew with queue := queue } (k := 0) outcome hrest hlocked howed
      (htasks.lower (by omega))

/-- As many turns as are left are enough. -/
theorem queue_turns {n : Nat} {crew : Crew} (h : crew.Left n) : (turns n crew).queue = [] := by
  induction n generalizing crew with
  | zero =>
    obtain ⟨ready, locked, owed, hready, -, -, htasks⟩ := h
    rw [turns]
    cases hqueue : crew.queue with
    | nil => rfl
    | cons job queue =>
      rw [hqueue] at hready
      obtain ⟨task, ready, htask, -, rfl⟩ := List.forall₂_cons_left_iff.mp hready
      have hdue := htasks.due_le
      have htime : 1 ≤ task.2 := by
        cases htask with
        | resume _ hk => exact Nat.le_of_add_left_le hk
        | report hk => exact hk
      rw [List.cons_append, List.cons_append, turnsDue] at hdue
      omega
  | succ n ih =>
    rw [turns]
    split
    · next hqueue => exact hqueue
    · next job queue hqueue => exact ih (turn_left hqueue h)

/-- When steps that were started together have had the turns of their span, nothing is left that
waits for its turn. -/
theorem queue_gathered (steps : List Step) (s : Session) :
    (turns (spanAll steps) (start ⟨s, [], [], []⟩ steps none)).queue = [] := by
  refine queue_turns ⟨begun 0 steps, [], [], beginnings_begun 0 steps, .nil,
    .idle (Or.inr rfl) .nil, ?_⟩
  have hnone : Tasks [] [] 0 := ⟨.nil, List.forall_mem_nil _, Nat.le_refl 0⟩
  have hall := tasks_begun hnone steps none
  rw [List.append_nil] at hall ⊢
  rw [List.append_nil]
  exact hall

end Crew

end SqlGateway
