import SqlGateway.Proofs.Outcome

/-!
# Outcomes of two runs

Two computations end alike if they have the same fault, or results that stand in a given relation
(`Alike`). Where faults are excused, nothing is asked of the second computation if the first has a
fault, so that all that is said is that a success carries over. Either way the relation goes through
a sequence: where the first parts end alike and what follows ends alike for related results, so do
the whole computations (`Alike.bind`).
-/

namespace SqlGateway

variable {ε α β γ δ : Type}

/-- The same fault, or results that are related. If faults are `excused`, anything may stand beside
a fault of the first computation. -/
inductive Alike (excused : Prop) (R : α → β → Prop) : Except ε α → Except ε β → Prop
  | fault (f : ε) : Alike excused R (.error f) (.error f)
  | result {a : α} {b : β} : R a b → Alike excused R (.ok a) (.ok b)
  | excuse (f : ε) (y : Except ε β) : excused → Alike excused R (.error f) y

namespace Alike

variable {excused : Prop} {R : α → β → Prop} {S : γ → δ → Prop} {x : Except ε α} {y : Except ε β}

theorem bind (h : Alike excused R x y) {f : α → Except ε γ} {g : β → Except ε δ}
    (hfg : ∀ a b, R a b → Alike excused S (f a) (g b)) :
    Alike excused S (x >>= f) (y >>= g) := by
  cases h with
  | fault e => exact .fault e
  | result hab => exact hfg _ _ hab
  | excuse e y h => exact .excuse e _ h

theorem map (h : Alike excused R x y) {f : α → γ} {g : β → δ}
    (hfg : ∀ a b, R a b → S (f a) (g b)) : Alike excused S (x.map f) (y.map g) := by
  cases h with
  | fault e => exact .fault e
  | result hab => exact .result (hfg _ _ hab)
  | excuse e y h => exact .excuse e _ h

theorem refl {R : α → α → Prop} (hR : ∀ a, R a a) (x : Except ε α) : Alike excused R x x := by
  cases x with
  | error e => exact .fault e
  | ok a => exact .result (hR a)

/-- The same run comes first in both. -/
theorem after (x : Except ε α) {f : α → Except ε γ} {g : α → Except ε δ}
    (hfg : ∀ a, Alike excused S (f a) (g a)) : Alike excused S (x >>= f) (x >>= g) := by
  cases x with
  | error e => exact .fault e
  | ok a => exact hfg a

/-- Where no fault is excused and only equal results are related, the outcomes are the same. -/
theorem eq {R : α → α → Prop} {x y : Except ε α} (h : Alike False R x y)
    (hR : ∀ a b, R a b → a = b) : x = y := by
  cases h with
  | fault e => rfl
  | result hab => exact congrArg Except.ok (hR _ _ hab)
  | excuse e y h => exact h.elim

/-- If the first run has a result, so does the other. -/
theorem exists_ok (h : Alike excused R x y) {a : α} (hx : x = .ok a) :
    ∃ b, y = .ok b ∧ R a b := by
  subst hx
  cases h with
  | result hab => exact ⟨_, rfl, hab⟩

theorem mapM {as : List γ} {f : γ → Except ε α} {g : γ → Except ε β}
    (h : ∀ c ∈ as, Alike excused R (f c) (g c)) :
    Alike excused (List.Forall₂ R) (as.mapM f) (as.mapM g) := by
  induction as with
  | nil => exact .result .nil
  | cons c as ih =>
    rw [List.mapM_cons, List.mapM_cons]
    refine (h c (List.mem_cons_self ..)).bind fun a b hab => ?_
    refine (ih fun c hc => h c (List.mem_cons_of_mem _ hc)).bind fun rest others hrest => ?_
    exact .result (.cons hab hrest)

end Alike

end SqlGateway
