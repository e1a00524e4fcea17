import SqlGateway.Proofs.List
import SqlGateway.Text.Basic

/-!
# Scanners

A scanner takes something from the front of a text and leaves the rest. A good one makes progress,
and it decides by what it has seen: when a closing parenthesis is put behind the text, it takes the
same and leaves as much more (`Scanner`). That is what lets an expression be put into parentheses
without being read anew.
-/

namespace SqlGateway.Sql

/-- What holds of every character of a text is decided along the text, not over all characters. -/
instance (priority := 2000) decidableAlong (p : Char → Prop) [DecidablePred p] (s : Text) :
    Decidable (∀ c ∈ s, p c) :=
  List.decidableBAll p s

/-- Text that may stand behind a literal: nothing, a space, a comma or a closing parenthesis. -/
def IsBoundary (t : Text) : Prop := ∀ c ∈ t.head?, c = ' ' ∨ c = ',' ∨ c = ')'

theorem isBoundary_nil : IsBoundary [] := by
  intro c hc
  cases hc

theorem isBoundary_space (t : Text) : IsBoundary (' ' :: t) := by
  intro c hc
  cases hc
  exact Or.inl rfl

theorem isBoundary_comma (t : Text) : IsBoundary (',' :: t) := by
  intro c hc
  cases hc
  exact Or.inr (Or.inl rfl)

theorem isBoundary_close (t : Text) : IsBoundary (')' :: t) := by
  intro c hc
  cases hc
  exact Or.inr (Or.inr rfl)

theorem IsBoundary.head_ne {t : Text} (ht : IsBoundary t) {c : Char}
    (hc : c ≠ ' ' ∧ c ≠ ',' ∧ c ≠ ')') : t.head? ≠ some c := by
  intro h
  rcases ht c h with rfl | rfl | rfl
  · exact hc.1 rfl
  · exact hc.2.1 rfl
  · exact hc.2.2 rfl

/-- A scanner makes progress, and a closing parenthesis behind the text does not change what it
takes. -/
structure Scanner {α : Type} (scan : Text → Option (α × Text)) : Prop where
  shorter : ∀ {s a r}, scan s = some (a, r) → r.length < s.length
  more : ∀ {s a r}, scan s = some (a, r) → ∀ t, scan (s ++ ')' :: t) = some (a, r ++ ')' :: t)

theorem Scanner.map {α β : Type} {scan : Text → Option (α × Text)} (h : Scanner scan)
    (f : α → β) : Scanner fun s => (scan s).map fun (a, r) => (f a, r) := by
  constructor
  · intro s b r hs
    obtain ⟨⟨a, r'⟩, ha, he⟩ := Option.map_eq_some_iff.mp hs
    cases he
    exact h.shorter ha
  · intro s b r hs t
    obtain ⟨⟨a, r'⟩, ha, he⟩ := Option.map_eq_some_iff.mp hs
    cases he
    simp only [h.more ha t, Option.map_some]

/-- One scanner after the other is a scanner. -/
theorem Scanner.bind {α β : Type} {first : Text → Option (α × Text)}
    {next : α → Text → Option (β × Text)} (h : Scanner first) (hnext : ∀ a, Scanner (next a)) :
    Scanner fun s => (first s).bind fun (a, r) => next a r := by
  constructor
  · intro s b r hs
    obtain ⟨⟨a, r'⟩, ha, hb⟩ := Option.bind_eq_some_iff.mp hs
    exact Nat.lt_trans ((hnext a).shorter hb) (h.shorter ha)
  · intro s b r hs t
    obtain ⟨⟨a, r'⟩, ha, hb⟩ := Option.bind_eq_some_iff.mp hs
    simp only [h.more ha t, Option.bind_some]
    exact (hnext a).more hb t

/-- A scanner may refuse some of what it takes. -/
theorem Scanner.filterMap {α β γ : Type} {scan : Text → Option (α × Text)} (h : Scanner scan)
    (f : α → Option β) (g : β → γ) :
    Scanner fun s => (scan s).bind fun (a, r) => (f a).map fun b => (g b, r) := by
  constructor
  · intro s c r hs
    obtain ⟨⟨a, r'⟩, ha, hs⟩ := Option.bind_eq_some_iff.mp hs
    obtain ⟨b, -, he⟩ := Option.map_eq_some_iff.mp hs
    cases he
    exact h.shorter ha
  · intro s c r hs t
    obtain ⟨⟨a, r'⟩, ha, hs⟩ := Option.bind_eq_some_iff.mp hs
    obtain ⟨b, hb, he⟩ := Option.map_eq_some_iff.mp hs
    cases he
    simp only [h.more ha t, Option.bind_some, hb, Option.map_some]

/-- A fixed word that stands for something is a scanner. -/
theorem scanner_dropPrefix? {α : Type} (c : Char) (word : Text) (a : α) :
    Scanner fun s => (s.dropPrefix? (c :: word)).map fun r => (a, r) := by
  constructor
  · intro s b r hs
    obtain ⟨r', hr, he⟩ := Option.map_eq_some_iff.mp hs
    cases he
    exact length_dropPrefix?_lt (List.cons_ne_nil c word) hr
  · intro s b r hs t
    obtain ⟨r', hr, he⟩ := Option.map_eq_some_iff.mp hs
    cases he
    simp only [dropPrefix?_more hr, Option.map_some]

end SqlGateway.Sql
