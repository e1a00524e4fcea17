import SqlGateway.Proofs.Session.Lease
import SqlGateway.Proofs.Session.Span
import SqlGateway.Proofs.Session.Turns

/-!
# What a session reaches

A session reaches others by steps that are carried out one after the other, and by turns of steps
that are started together (`Session.Reaches`). On a server every session that is reached lies on a
`Session.Course`, and whenever a step has ended the right to open a pool is free
(`Step.performAll_course`).
-/

namespace SqlGateway

open Session

variable {settings : Settings} {s : Session}

namespace Session.Course

theorem onServer {s s' : Session} (h : Course s s') (hs : OnServer settings s) :
    OnServer settings s' := ⟨h.backend.trans hs.backend, h.settings.trans hs.settings⟩

end Session.Course

/-- Steps that were started together are through when their outcomes are gathered, so nobody has the
right to open a pool then. -/
theorem Crew.gather_course (hs : OnServer settings s) (hfree : s.opening = false)
    (steps : List Step) :
    Course s (gather steps s).2 ∧ (gather steps s).2.opening = false := by
  obtain ⟨hsound, hcourse⟩ := turns_sound (sound_start hs hfree steps) (spanAll steps)
  have hqueue := hsound.queue
  rw [queue_gathered] at hqueue
  exact ⟨hcourse, hqueue.opening_eq_false⟩

namespace Action

variable {α : Type}

/-- An action that is carried out by itself has the right to open a pool as long as it stands inside
of it, and gives it back in the end. -/
theorem run_orderly (x : Action α) (standing : Standing) (s₀ s : Session)
    (hs : OnServer settings s₀) (hx : x.Orderly settings standing s₀ s)
    (hopening : standing = .outside → s₀.opening = false) :
    Course s₀ (x.run s).session ∧ (x.run s).session.opening = false := by
  induction x generalizing standing s₀ s with
  | ended outcome =>
    obtain ⟨rfl, hdoes⟩ := hx
    exact ⟨hdoes.course, hdoes.opening_eq.trans (hopening rfl)⟩
  | act change rest ih => exact ih s standing s₀ (change s) hs hx hopening
  | turn rest ih =>
    obtain ⟨hdoes, hknows, hrest⟩ := hx
    have hserver := hdoes.onServer hs
    obtain ⟨hcourse, hfree⟩ := ih standing.next s s hserver (hrest s hserver hknows) fun hnext => by
      cases standing with
      | outside => exact hdoes.opening_eq.trans (hopening rfl)
      | entered => cases hnext
      | opening => cases hnext
    exact ⟨hdoes.course.trans hcourse, hfree⟩
  | lock rest ih =>
    obtain ⟨rfl, hdoes, hrest⟩ := hx
    have hserver := hdoes.onServer hs
    have hserver' : OnServer settings { s with opening := true } :=
      ⟨hserver.backend, hserver.settings⟩
    obtain ⟨hcourse, hfree⟩ := ih .entered _ _ hserver' (hrest _ hserver') nofun
    exact ⟨hdoes.course.trans ((Unopened.of_opening s true).course.trans hcourse), hfree⟩
  | unlock rest ih =>
    obtain ⟨-, hdoes, hrest⟩ := hx
    have hserver := hdoes.onServer hs
    have hserver' : OnServer settings { s with opening := false } :=
      ⟨hserver.backend, hserver.settings⟩
    obtain ⟨hcourse, hfree⟩ := ih .outside _ _ hserver' (hrest false) fun _ => rfl
    exact ⟨hdoes.course.trans ((Unopened.of_opening s false).course.trans hcourse), hfree⟩
  | together steps rest ih =>
    obtain ⟨rfl, hdoes, hrest⟩ := hx
    have hserver := hdoes.onServer hs
    obtain ⟨hgather, hgathered⟩ := Crew.gather_course hserver
      (hdoes.opening_eq.trans (hopening rfl)) steps
    have hserver' := hgather.onServer hserver
    obtain ⟨hcourse, hfree⟩ := ih _ .outside _ _ hserver' (hrest (Crew.gather steps s).1 _ hserver')
      fun _ => hgathered
    exact ⟨hdoes.course.trans (hgather.trans hcourse), hfree⟩

end Action

/-- Whatever steps are carried out, the right to open a pool is free before and after them. -/
theorem Step.performAll_course (hs : OnServer settings s) (hfree : s.opening = false)
    (steps : List Step) :
    Course s ((performAll steps).run s).session ∧
      ((performAll steps).run s).session.opening = false :=
  Action.run_orderly _ .outside s s hs (performAll_orderly steps s hs) fun _ => hfree

/-- The sessions in which one finds oneself later: after some steps, and between two turns of steps
that were started together after these. -/
inductive Session.Reaches (s : Session) : Session → Prop
  | after (steps : List Step) : Reaches s ((Step.performAll steps).run s).session
  | among (before steps : List Step) (n : Nat) : Reaches s
      (Crew.turns n (Crew.start ⟨((Step.performAll before).run s).session, [], [], []⟩ steps
        none)).session

theorem Session.Reaches.course {s s' : Session} (h : Reaches s s') (hs : OnServer settings s)
    (hfree : s.opening = false) : Course s s' := by
  cases h with
  | after steps => exact (Step.performAll_course hs hfree steps).1
  | among before steps n =>
    obtain ⟨hcourse, hfree⟩ := Step.performAll_course hs hfree before
    exact hcourse.trans
      (Crew.turns_sound (Crew.sound_start (hcourse.onServer hs) hfree steps) n).2

end SqlGateway
