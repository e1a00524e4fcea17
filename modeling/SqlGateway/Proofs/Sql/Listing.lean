import SqlGateway.Proofs.Sql.Separated

/-!
# Items between separators

`listed?` reads items with a given separator between neighbours, as many as there are. What may
stand behind an item differs: an identifier must not be followed by a back-quote, a literal only by
a boundary. `ReadsBefore` says it of one item; if a separator may follow every item, then texts
joined by it are read back as the list of what they read as (`listed?_texts`).

Identifiers are written in one way only (`Canonical`). A list of such items is read from the text
that it is written as and from no other, and only before what may follow it
(`listed?_eq_some_iff`).
-/

namespace SqlGateway.Sql

section

variable {α : Type} (separator : Text) (item : Text → Option (α × Text))

/-- The items at the front of a text, and what follows them. -/
def listed? (s : Text) : Option (List α × Text) :=
  match item s with
  | none => none
  | some (a, rest) =>
    match rest.dropPrefix? separator with
    | none => some ([a], rest)
    | some next =>
      if next.length < s.length then (listed? next).map fun (more, after) => (a :: more, after)
      else none
termination_by s.length

/-- The text is not empty, and it reads as the item before everything that may follow. -/
def ReadsBefore (follows : Text → Prop) (s : Text) (a : α) : Prop :=
  s ≠ [] ∧ ∀ t, follows t → item (s ++ t) = some (a, t)

end

variable {α : Type} {separator : Text} {item : Text → Option (α × Text)} {follows : Text → Prop}

theorem listed?_last {s t : Text} {a : α} (h : item s = some (a, t))
    (ht : t.dropPrefix? separator = none) : listed? separator item s = some ([a], t) := by
  rw [listed?, h]
  simp only [ht]

theorem listed?_next {s t : Text} {a : α} (h : item s = some (a, separator ++ t))
    (hlength : t.length < s.length) : listed? separator item s =
      (listed? separator item t).map fun (more, after) => (a :: more, after) := by
  rw [listed?, h]
  simp only [dropPrefix?_append]
  exact if_pos hlength

/-- Texts joined by the separator are read one by one, and what follows them is left. -/
theorem listed?_texts {s : Text} {texts : List Text} {a : α} {as : List α}
    (hseparator : ∀ t, follows (separator ++ t)) (hs : ReadsBefore item follows s a)
    (htexts : List.Forall₂ (ReadsBefore item follows) texts as) {t : Text} (ht : follows t)
    (hend : t.dropPrefix? separator = none) :
    listed? separator item (separator.intercalate (s :: texts) ++ t) = some (a :: as, t) := by
  induction htexts generalizing s a with
  | nil =>
    rw [List.intercalate_singleton]
    exact listed?_last (hs.2 t ht) hend
  | @cons next b texts as hnext _ ih =>
    have htext : separator.intercalate (s :: next :: texts) ++ t =
        s ++ (separator ++ (separator.intercalate (next :: texts) ++ t)) := by
      simp
    have hpos : 0 < s.length := List.length_pos_iff.mpr hs.1
    rw [htext, listed?_next (hs.2 _ (hseparator _)), ih hnext, Option.map_some]
    simp only [List.length_append]
    omega

/-! ## Items with one written form -/

/-- The scanner takes what an item is written as and nothing else, and only before what may
follow. -/
structure Canonical {α : Type} (item : Text → Option (α × Text)) (follows : Text → Prop)
    (write : α → Text) : Prop where
  before : ∀ a, ReadsBefore item follows (write a) a
  parts : ∀ {s a t}, item s = some (a, t) → s = write a ++ t ∧ follows t

section

variable {write : α → Text}

/-- What is read as a list is the items as they are written, joined by the separator, and neither a
separator nor anything else that would be taken follows it. -/
theorem listed?_parts (h : Canonical item follows write) {s t : Text} {as : List α}
    (hs : listed? separator item s = some (as, t)) :
    as ≠ [] ∧ s = separator.intercalate (as.map write) ++ t ∧ follows t ∧
      t.dropPrefix? separator = none := by
  fun_induction listed? separator item s generalizing as t with
  | case1 s hitem => cases hs
  | case2 s a rest hitem hend =>
    cases hs
    obtain ⟨htext, hrest⟩ := h.parts hitem
    exact ⟨List.cons_ne_nil _ _, by simpa using htext, hrest, hend⟩
  | case3 s a rest hitem next hnext hlength ih =>
    obtain ⟨⟨more, after⟩, hmore, he⟩ := Option.map_eq_some_iff.mp hs
    cases he
    obtain ⟨hne, hmore, hrest⟩ := ih hmore
    obtain ⟨b, more, rfl⟩ := List.exists_cons_of_ne_nil hne
    refine ⟨List.cons_ne_nil _ _, ?_, hrest⟩
    rw [(h.parts hitem).1, eq_of_dropPrefix? hnext, hmore]
    simp
  | case4 s a rest hitem next hnext hlength => cases hs

theorem listed?_eq_some_iff (h : Canonical item follows write)
    (hseparator : ∀ t, follows (separator ++ t)) {s t : Text} {as : List α} (hne : as ≠ []) :
    listed? separator item s = some (as, t) ↔
      s = separator.intercalate (as.map write) ++ t ∧ follows t ∧ ¬separator <+: t := by
  constructor
  · intro hs
    obtain ⟨-, htext, ht, hend⟩ := listed?_parts h hs
    exact ⟨htext, ht, dropPrefix?_eq_none_iff.mp hend⟩
  · rintro ⟨rfl, ht, hend⟩
    obtain ⟨a, as, rfl⟩ := List.exists_cons_of_ne_nil hne
    have htexts : List.Forall₂ (ReadsBefore item follows) (as.map write) as := by
      rw [List.forall₂_map_left_iff, List.forall₂_same]
      exact fun b _ => h.before b
    exact listed?_texts hseparator (h.before a) htexts ht (dropPrefix?_eq_none_iff.mpr hend)

end

/-- A text that may stand behind an identifier. -/
def AfterIdentifier (t : Text) : Prop := t.head? ≠ some Identifier.backQuote

theorem readsBefore_identifier (name : Text) :
    ReadsBefore Identifier.scan? AfterIdentifier (Identifier.quote name) name :=
  ⟨List.cons_ne_nil _ _, fun _ ht => Identifier.scan?_quote name ht⟩

theorem canonical_identifier : Canonical Identifier.scan? AfterIdentifier Identifier.quote :=
  ⟨readsBefore_identifier, Identifier.scan?_parts⟩

end SqlGateway.Sql
