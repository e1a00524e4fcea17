import SqlGateway.Proofs.Session.Query

/-!
# Steps of a table

A step that inserts, updates, deletes or selects is nothing but its statement, which is built for
the zone of the session and run as a query without parameters (`Step.perform_eq`). So it does what
the query does, in every session and among steps that take turns, and a statement that cannot be
built does nothing at all (`Step.perform_built`).
-/

namespace SqlGateway

open Session

/-- The event runs a statement. -/
def Event.isExecute : Event → Bool
  | .execute .. => true
  | _ => false

theorem Event.isExecute_of_isQuiet {e : Event} (h : e.isQuiet = true) : e.isExecute = false := by
  cases e <;> first | rfl | cases h

theorem GivesBack.isExecute {backend : Backend} {n : Nat} {e : Event} (h : GivesBack backend n e) :
    e.isExecute = false := by
  cases h <;> rfl

theorem filter_isExecute_quiet {es : List Event} (h : ∀ e ∈ es, e.isQuiet = true) :
    es.filter Event.isExecute = [] := by
  rw [List.filter_eq_nil_iff]
  intro e he
  rw [Event.isExecute_of_isQuiet (h e he)]
  exact Bool.false_ne_true

/-- Nothing but the statement itself is run, and that at most once. -/
theorem Query.Events.executes {backend : Backend} {sql : Text} {parameters : Value}
    {es : List Event} (h : Query.Events backend sql parameters es) :
    es.filter Event.isExecute = [] ∨
      ∃ n, es.filter Event.isExecute = [.execute n sql parameters] := by
  cases h with
  | refused hquiet => exact Or.inl (filter_isExecute_quiet hquiet)
  | @leased before ts after n back hbefore hts hback hafter =>
    refine Or.inr ⟨n, ?_⟩
    have hrest : ts.filter Event.isExecute = [] := by
      cases hts <;> rfl
    rw [List.filter_append, filter_isExecute_quiet hbefore, List.nil_append,
      List.filter_cons_of_neg Bool.false_ne_true, List.filter_cons_of_pos rfl, List.filter_append,
      hrest, List.nil_append, List.filter_cons_of_neg (by simp [hback.isExecute]),
      filter_isExecute_quiet hafter]

namespace Step

/-- How the statement of a step is built for a zone, if it is one that has to be built. -/
def builder? : Step → Option (ZoneChoice → Except Fault Text)
  | .insert table rows missing => some fun zone => Statement.insert zone table rows missing
  | .update table condition data tail =>
    some fun zone => Statement.update zone table condition data tail
  | .delete table condition tail => some fun zone => Statement.delete zone table condition tail
  | .select table fields condition tail =>
    some fun zone => Statement.select zone table fields condition tail
  | .selectOne table fields condition tail => some fun zone => do
    Statement.select zone table fields condition (.text (← Statement.ensureLimit tail))
  | _ => none

/-- What the step makes of the reply to its statement. A step for one row takes the first one, and
can do nothing with a result that has no rows. -/
def reply : Step → Reply → Outcome
  | .selectOne .., .result (.rows []) => .ok .nothing
  | .selectOne .., .result (.rows (row :: _)) => .ok (.row row)
  | .selectOne .., .result (.summary ..) => .error .wrongType
  | _, r => .ok r

variable {step : Step} {build : ZoneChoice → Except Fault Text} {s : Session}

/-- All but a step for one row reply with the result of their statement. -/
theorem map_queryBuilt (build : ZoneChoice → Except Fault Text) :
    Reply.result <$> Pool.queryBuilt build = (do
      let s ← Action.session
      let sql ← Action.ofExcept (build s.settings.zone)
      let r ← perform (.query sql .null)
      Action.ofExcept (.ok r)) := by
  have hpure (x : Action Reply) : (x >>= fun r => Action.ofExcept (.ok r)) = x := bind_pure x
  simp only [perform, Pool.queryBuilt, map_bind, hpure]

/-- A step of a table is a query, once its statement has been built. -/
theorem perform_eq (h : step.builder? = some build) :
    perform step = (do
      let s ← Action.session
      let sql ← Action.ofExcept (build s.settings.zone)
      let r ← perform (.query sql .null)
      Action.ofExcept (step.reply r)) := by
  cases step with
  | insert table rows missing =>
    cases h
    exact map_queryBuilt _
  | update table condition data tail =>
    cases h
    exact map_queryBuilt _
  | delete table condition tail =>
    cases h
    exact map_queryBuilt _
  | select table fields condition tail =>
    cases h
    exact map_queryBuilt _
  | selectOne table fields condition tail =>
    cases h
    have hfirst (result : QueryResult) :
        Reply.ofOption <$> Action.ofExcept (Pool.firstRow result) =
          Action.ofExcept ((selectOne table fields condition tail).reply (.result result)) := by
      cases result with
      | rows rows => cases rows <;> rfl
      | summary affectedRows insertId => rfl
    simp only [perform, Pool.selectOne, Pool.queryBuilt, Statement.selectOne, map_bind, bind_assoc,
      bind_map_left, hfirst]
  | _ => cases h

/-- Looking at the session takes no turn. -/
theorem advance_session (place : Place) (f : Session → Action Reply) (crew : Crew) :
    Crew.advance place (Action.session >>= f) crew = Crew.advance place (f crew.session) crew := rfl

/-- A statement that cannot be built ends the step with its fault, in the session as it was: nothing
is leased, run or logged. Otherwise the step does what its statement does as a query, and replies
with what it makes of the reply to that. Both hold of a step that is carried out by itself, after
whatever steps and in whatever leases, and of one that takes turns with others. -/
theorem perform_built (h : step.builder? = some build) (s : Session) :
    (∀ f, build s.settings.zone = .error f →
      (perform step).run s = ⟨.error f, s⟩ ∧
      ∀ place crew, crew.session = s →
        Crew.advance place (perform step) crew = crew.enqueue (.report place (.error f))) ∧
    ∀ sql, build s.settings.zone = .ok sql →
      let run := (perform (.query sql .null)).run s
      (perform step).run s = ⟨run.outcome >>= step.reply, run.session⟩ ∧
      Query.Events s.backend sql .null (gained s run.session) ∧
      ((gained s run.session).filter Event.isExecute = [] ∨
        ∃ n, (gained s run.session).filter Event.isExecute = [.execute n sql .null]) ∧
      ∀ place crew, crew.session = s →
        Crew.advance place (perform step) crew =
          Crew.advance place
            (perform (.query sql .null) >>= fun r => Action.ofExcept (step.reply r)) crew := by
  rw [perform_eq h]
  refine ⟨fun f hbuild => ⟨?_, ?_⟩, fun sql hbuild => ?_⟩
  · rw [Action.run_session, hbuild]
    rfl
  · rintro place crew rfl
    rw [advance_session, hbuild]
    rfl
  · have hevents : Query.Events s.backend sql .null
        (gained s ((perform (.query sql .null)).run s).session) := by
      rw [perform, Action.session_map]
      exact Pool.query_events sql .null s
    refine ⟨?_, hevents, hevents.executes, ?_⟩
    · rw [Action.run_session, hbuild]
      change (perform (.query sql .null) >>= fun r => Action.ofExcept (step.reply r)).run s = _
      rw [Action.run_bind]
      cases (perform (.query sql .null)).run s with
      | mk outcome s' => cases outcome <;> rfl
    · rintro place crew rfl
      rw [advance_session, hbuild]
      rfl

theorem perform_built_selectOne :
    (perform (.insert (.text ['t']) .null (.text []))).run localSession =
        ⟨.error .rowsExpected, localSession⟩ ∧
      (perform (.selectOne (.text ['t']) .null .null .null)).run localSession =
        ⟨.ok .nothing, ((perform
          (.query "SELECT * FROM `t` LIMIT 1".toList .null)).run localSession).session⟩ := by
  have hinsert : (insert (.text ['t']) .null (.text [])).builder? = some _ := rfl
  have hselect : (selectOne (.text ['t']) .null .null .null).builder? = some _ := rfl
  have hsql : Statement.selectOne localSession.settings.zone (.text ['t']) .null .null .null =
      .ok "SELECT * FROM `t` LIMIT 1".toList := rfl
  exact ⟨((perform_built hinsert localSession).1 _ rfl).1,
    ((perform_built hselect localSession).2 _ hsql).1⟩

end Step

end SqlGateway
