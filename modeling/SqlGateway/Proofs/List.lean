import Mathlib.Data.List.Basic
import Mathlib.Data.List.Forall2
import Mathlib.Tactic.Tauto

/-!
# Lists

Facts about lists that know nothing of sessions and statements: where a run at the front ends, what
stands between separators, lists that are related member by member, their order, and lists of
options of which all are wanted.
-/

namespace SqlGateway

variable {α β : Type}

/-! ## Runs at the front -/

section

variable {p : α → Bool} {a : α} {as bs : List α}

theorem takeWhile_append_cons (ha : p a = false) (as bs : List α) :
    (as ++ a :: bs).takeWhile p = as.takeWhile p := by
  induction as with
  | nil => simp [ha]
  | cons b as ih => simp only [List.cons_append, List.takeWhile_cons, ih]

theorem dropWhile_append_cons (ha : p a = false) (as bs : List α) :
    (as ++ a :: bs).dropWhile p = as.dropWhile p ++ a :: bs := by
  induction as with
  | nil => simp [ha]
  | cons b as ih =>
    simp only [List.cons_append, List.dropWhile_cons]
    split
    · exact ih
    · rfl

theorem takeWhile_stop (has : ∀ a ∈ as, p a = true) (hbs : ∀ b ∈ bs.head?, p b = false) :
    (as ++ bs).takeWhile p = as := by
  rw [List.takeWhile_append_of_pos has]
  cases bs with
  | nil => simp
  | cons b bs => simp [hbs b rfl]

theorem dropWhile_stop (has : ∀ a ∈ as, p a = true) (hbs : ∀ b ∈ bs.head?, p b = false) :
    (as ++ bs).dropWhile p = bs := by
  rw [List.dropWhile_append_of_pos has]
  cases bs with
  | nil => rfl
  | cons b bs => simp [hbs b rfl]

theorem length_dropWhile_lt (h : as.takeWhile p ≠ []) : (as.dropWhile p).length < as.length := by
  have hlength := congrArg List.length (List.takeWhile_append_dropWhile (p := p) (l := as))
  have hpos := List.length_pos_iff.mpr h
  rw [List.length_append] at hlength
  omega

end

/-! ## A list at the front -/

section

variable [BEq α] [LawfulBEq α] {as bs rest : List α}

theorem dropPrefix?_append (as bs : List α) : (as ++ bs).dropPrefix? as = some bs :=
  List.dropPrefix?_append_of_beq bs (beq_self_eq_true as)

theorem eq_of_dropPrefix? (h : bs.dropPrefix? as = some rest) : bs = as ++ rest := by
  obtain ⟨front, hbs, hfront⟩ := List.dropPrefix?_eq_some_iff.mp h
  rw [hbs, eq_of_beq hfront]

theorem dropPrefix?_eq_none_iff : bs.dropPrefix? as = none ↔ ¬as <+: bs := by
  constructor
  · rintro h ⟨rest, rfl⟩
    rw [dropPrefix?_append] at h
    cases h
  · intro h
    cases hrest : bs.dropPrefix? as with
    | none => rfl
    | some rest => exact absurd ⟨rest, (eq_of_dropPrefix? hrest).symm⟩ h

theorem dropPrefix?_more (h : bs.dropPrefix? as = some rest) (cs : List α) :
    (bs ++ cs).dropPrefix? as = some (rest ++ cs) := by
  rw [eq_of_dropPrefix? h, List.append_assoc, dropPrefix?_append]

theorem length_dropPrefix?_lt (has : as ≠ []) (h : bs.dropPrefix? as = some rest) :
    rest.length < bs.length := by
  rw [eq_of_dropPrefix? h, List.length_append]
  exact Nat.lt_add_of_pos_left (List.length_pos_of_ne_nil has)

end

/-! ## Lists with a separator

All parts but the first stand behind a separator. What holds of parts in a row is read off this.
-/

section

variable {separator part : List α} {parts front rest : List (List α)}

theorem intercalate_cons (separator part : List α) (parts : List (List α)) :
    separator.intercalate (part :: parts) =
      part ++ parts.flatMap fun next => separator ++ next := by
  induction parts generalizing part with
  | nil => simp
  | cons next parts ih =>
    rw [List.intercalate_cons_cons, ih, List.flatMap_cons]
    simp only [List.append_assoc]

theorem intercalate_ne_nil (h : part ≠ []) : separator.intercalate (part :: parts) ≠ [] := by
  rw [intercalate_cons]
  exact List.append_ne_nil_of_left_ne_nil h _

theorem mem_intercalate {a : α} (h : a ∈ separator.intercalate parts) :
    a ∈ separator ∨ ∃ part ∈ parts, a ∈ part := by
  cases parts with
  | nil => cases h
  | cons first parts =>
    rw [intercalate_cons, List.mem_append] at h
    rcases h with ha | ha
    · exact Or.inr ⟨first, List.mem_cons_self .., ha⟩
    · obtain ⟨part, hpart, ha⟩ := List.mem_flatMap.mp ha
      rcases List.mem_append.mp ha with ha | ha
      · exact Or.inl ha
      · exact Or.inr ⟨part, List.mem_cons_of_mem _ hpart, ha⟩

theorem infix_intercalate (h : part ∈ parts) : part <:+: separator.intercalate parts := by
  induction parts with
  | nil => cases h
  | cons first rest ih =>
    rcases List.mem_cons.mp h with rfl | hrest
    · rw [intercalate_cons]
      exact (List.prefix_append _ _).isInfix
    · rw [List.intercalate_cons_of_ne_nil (List.ne_nil_of_mem hrest)]
      exact (ih hrest).trans (List.suffix_append _ _).isInfix

theorem map_intercalate (f : α → β) (separator : List α) (parts : List (List α)) :
    (separator.intercalate parts).map f =
      (separator.map f).intercalate (parts.map fun part => part.map f) := by
  cases parts with
  | nil => rfl
  | cons part parts =>
    rw [List.map_cons, intercalate_cons, intercalate_cons, List.map_append, List.map_flatMap,
      List.flatMap_map]
    simp only [List.map_append]

theorem intercalate_append (hfront : front ≠ []) (hrest : rest ≠ []) :
    separator.intercalate (front ++ rest) =
      separator.intercalate front ++ separator ++ separator.intercalate rest := by
  obtain ⟨first, front, rfl⟩ := List.exists_cons_of_ne_nil hfront
  obtain ⟨next, rest, rfl⟩ := List.exists_cons_of_ne_nil hrest
  rw [List.cons_append, intercalate_cons, intercalate_cons, intercalate_cons, List.flatMap_append,
    List.flatMap_cons]
  simp only [List.append_assoc]

theorem intercalate_flatten {lists : List (List (List α))} (h : ∀ parts ∈ lists, parts ≠ []) :
    separator.intercalate (lists.map separator.intercalate) =
      separator.intercalate lists.flatten := by
  induction lists with
  | nil => rfl
  | cons parts lists ih =>
    obtain ⟨hparts, hlists⟩ := List.forall_mem_cons.mp h
    cases lists with
    | nil => simp
    | cons next lists =>
      have hrest : (next :: lists).flatten ≠ [] := by
        have hnext := hlists next (List.mem_cons_self ..)
        rw [List.flatten_cons]
        exact List.append_ne_nil_of_left_ne_nil hnext _
      rw [List.flatten_cons, intercalate_append hparts hrest, ← ih hlists]
      exact List.intercalate_cons_cons

end

/-! ## Related lists -/

section

variable {R : α → β → Prop} {as : List α} {bs : List β}

theorem forall_mem_right {P : β → Prop} (h : List.Forall₂ R as bs)
    (hP : ∀ a ∈ as, ∀ b, R a b → P b) : ∀ b ∈ bs, P b := by
  induction h with
  | nil => exact List.forall_mem_nil P
  | cons hab _ ih =>
    rw [List.forall_mem_cons]
    exact ⟨hP _ (List.mem_cons_self ..) _ hab, ih fun a ha => hP a (List.mem_cons_of_mem _ ha)⟩

theorem rel_getElem? (h : List.Forall₂ R as bs) (i : Nat) : Option.Rel R as[i]? bs[i]? := by
  induction h generalizing i with
  | nil => exact .none
  | cons hab _ ih =>
    cases i with
    | zero => exact .some hab
    | succ i => exact ih i

theorem forall₂_getElem? (h : List.Forall₂ R as bs) {i : Nat} {a : α} {b : β}
    (ha : as[i]? = some a) (hb : bs[i]? = some b) : R a b := by
  have hab := rel_getElem? h i
  rw [ha, hb] at hab
  cases hab with
  | some hab => exact hab

/-- Related lists stay related when a member takes the place of another. -/
theorem forall₂_set (h : List.Forall₂ R as bs) {i : Nat} {b : β}
    (hb : ∀ a, as[i]? = some a → R a b) : List.Forall₂ R as (bs.set i b) := by
  induction h generalizing i with
  | nil => exact .nil
  | cons hfirst hrest ih =>
    cases i with
    | zero => exact .cons (hb _ rfl) hrest
    | succ i => exact .cons hfirst (ih hb)

theorem forall₂_set_set (h : List.Forall₂ R as bs) {a : α} {b : β} (hab : R a b) (i : Nat) :
    List.Forall₂ R (as.set i a) (bs.set i b) := by
  induction h generalizing i with
  | nil => exact .nil
  | cons hfirst hrest ih =>
    cases i with
    | zero => exact .cons hab hrest
    | succ i => exact .cons hfirst (ih i)

end

/-! ## Order -/

theorem append_lt_append_iff [LT α] {as bs cs ds : List α} (h : as.length = bs.length) :
    as ++ cs < bs ++ ds ↔ as < bs ∨ as = bs ∧ cs < ds := by
  induction as generalizing bs with
  | nil =>
    obtain rfl := List.length_eq_zero_iff.mp h.symm
    simp
  | cons a as ih =>
    cases bs with
    | nil => exact absurd h (Nat.succ_ne_zero _)
    | cons b bs =>
      rw [List.cons_append, List.cons_append, List.cons_lt_cons_iff, List.cons_lt_cons_iff,
        ih (Nat.succ.inj h), List.cons.injEq]
      tauto

/-- Lists that begin with the next numbers are in the same order. -/
theorem lex_succ {m n : Nat} {ms ns : List Nat} (h : List.Lex (· < ·) (m :: ms) (n :: ns)) :
    List.Lex (· < ·) ((m + 1) :: ms) ((n + 1) :: ns) := by
  cases h with
  | rel hlt => exact .rel (Nat.succ_lt_succ hlt)
  | cons h => exact .cons h

/-! ## Options -/

theorem eq_of_rel {a? b? : Option α} (h : Option.Rel (· = ·) a? b?) : a? = b? := by
  cases h with
  | none => rfl
  | some hab => exact congrArg some hab

theorem mapM_id_map (f : α → β) (as : List (Option α)) :
    (as.map (Option.map f)).mapM id = (as.mapM id).map (List.map f) := by
  induction as with
  | nil => rfl
  | cons a as ih =>
    rw [List.map_cons, List.mapM_cons, List.mapM_cons, ih]
    cases a with
    | none => rfl
    | some a => cases as.mapM id <;> rfl

theorem mapM_id_eq_none {as : List (Option α)} (h : none ∈ as) : as.mapM id = none := by
  induction as with
  | nil => cases h
  | cons a as ih =>
    rw [List.mapM_cons]
    cases a with
    | none => rfl
    | some a =>
      rw [ih ((List.mem_cons.mp h).resolve_left nofun)]
      rfl

end SqlGateway
