import SqlGateway.Proofs.Alike
import SqlGateway.Proofs.List
import SqlGateway.Sql.Literal

/-!
# Atoms of literals

The literal of a value is put together from the literals of its atoms, the values in it that are
written whole (`Literal.atoms`): what stands in a list or in a mapping of assignments, at any depth,
but nothing inside a nested mapping or an object, which are written as strings. The literal of every
atom is a part of the whole (`Literal.ofValue_holds`). Only dates and moments among the atoms look
at the zone, so if these are written alike in two zones, the whole literal is
(`Literal.ofValue_alike`).

Alike may mean equal, or only that both texts are empty or both are not. What is asked of the
relation is that it goes through the ways in which texts are put together (`Congruence`).
-/

namespace SqlGateway

/-- A date or a moment. -/
def Value.IsDated : Value → Prop
  | .date _ | .moment _ => True
  | _ => False

/-- A moment whose distance from UTC is known. -/
def Value.IsAware : Value → Prop
  | .moment m => m.offset ≠ none
  | _ => False

/-! ## Relations between texts -/

/-- A relation that is kept when related texts are put together in the same way. -/
structure Congruence (R : Text → Text → Prop) : Prop where
  refl : ∀ s, R s s
  append : ∀ {s t u v}, R s t → R u v → R (s ++ u) (t ++ v)
  empty : ∀ {s t}, R s t → (s = [] ↔ t = [])

theorem congruence_eq : Congruence (· = ·) where
  refl _ := rfl
  append hst huv := by rw [hst, huv]
  empty hst := by rw [hst]

/-- Both texts are empty, or both are not. -/
def SameEmptiness (s t : Text) : Prop := s = [] ↔ t = []

theorem congruence_sameEmptiness : Congruence SameEmptiness where
  refl _ := Iff.rfl
  append hst huv := by
    unfold SameEmptiness at *
    rw [List.append_eq_nil_iff, List.append_eq_nil_iff, hst, huv]
  empty hst := hst

namespace Congruence

variable {R : Text → Text → Prop} (hR : Congruence R) {s t : Text} {ss ts : List Text}

include hR

theorem refl_all (ss : List Text) : List.Forall₂ R ss ss :=
  List.forall₂_same.mpr fun s _ => hR.refl s

theorem cons (c : Char) (h : R s t) : R (c :: s) (c :: t) := hR.append (hR.refl [c]) h

theorem wrap (before after : Text) (h : R s t) : R (before ++ s ++ after) (before ++ t ++ after) :=
  hR.append (hR.append (hR.refl before) h) (hR.refl after)

theorem intercalate (separator : Text) (h : List.Forall₂ R ss ts) :
    R (separator.intercalate ss) (separator.intercalate ts) := by
  induction h with
  | nil => exact hR.refl []
  | @cons s t ss ts hst hrest ih =>
    cases hrest with
    | nil =>
      rw [List.intercalate_singleton, List.intercalate_singleton]
      exact hst
    | cons hnext hothers =>
      rw [List.intercalate_cons_cons, List.intercalate_cons_cons]
      exact hR.append (hR.append hst (hR.refl separator)) ih

end Congruence

/-! ## Atoms -/

namespace Sql.Literal

mutual

/-- The values that are written whole in the literal of a value, from left to right. -/
def atoms (nested : Bool) : Value → List Value
  | .mapping entries => if nested then [.mapping entries] else entryAtoms entries
  | .group _ items => itemAtoms items
  | .span s => s.toList.map fun n => .number (.integer n) none
  | v => [v]
termination_by structural v => v

/-- The atoms of nested values. -/
def itemAtoms : List Value → List Value
  | [] => []
  | v :: rest => atoms true v ++ itemAtoms rest
termination_by structural vs => vs

/-- The atoms of the values of assignments. -/
def entryAtoms : List (Value × Value) → List Value
  | [] => []
  | (_, v) :: rest => atoms true v ++ entryAtoms rest
termination_by structural es => es

end

/-! ## Atoms in the text -/

/-- The literal of the value is a part of the text. -/
def Holds (zone : ZoneChoice) (s : Text) (a : Value) : Prop :=
  ∃ t, ofValue zone true a = .ok t ∧ t <:+: s

/-- The literal of the value is a part of one of the texts. -/
def HeldBy (zone : ZoneChoice) (texts : List Text) (a : Value) : Prop :=
  ∃ s ∈ texts, Holds zone s a

section

variable {zone : ZoneChoice} {s t : Text} {texts : List Text} {a : Value}

theorem Holds.within (h : Holds zone s a) (hst : s <:+: t) : Holds zone t a := by
  obtain ⟨u, hu, hus⟩ := h
  exact ⟨u, hu, hus.trans hst⟩

theorem HeldBy.first (h : Holds zone s a) : HeldBy zone (s :: texts) a :=
  ⟨s, List.mem_cons_self .., h⟩

theorem HeldBy.later (h : HeldBy zone texts a) : HeldBy zone (s :: texts) a := by
  obtain ⟨t, ht, ha⟩ := h
  exact ⟨t, List.mem_cons_of_mem _ ht, ha⟩

theorem HeldBy.intercalate (separator : Text) (h : HeldBy zone texts a) :
    Holds zone (separator.intercalate texts) a := by
  obtain ⟨s, hs, ha⟩ := h
  exact ha.within (infix_intercalate hs)

theorem HeldBy.listText (h : HeldBy zone texts a) : Holds zone (listText texts) a :=
  (h.intercalate ", ".toList).within (List.infix_append ['('] _ [')'])

/-- A text behind the name of a column. -/
theorem Holds.assigned (h : Holds zone s a) (column : Text) :
    Holds zone (column ++ '=' :: s) a :=
  h.within ((List.suffix_cons _ _).isInfix.trans (List.suffix_append _ _).isInfix)

mutual

/-- The literal of every atom is a part of the literal of the value. -/
theorem ofValue_holds : ∀ {v : Value} {nested : Bool} {s : Text},
    ofValue zone nested v = .ok s → ∀ a ∈ atoms nested v, Holds zone s a
  | .group _ items, _, _, h, a, ha => by
    obtain ⟨texts, htexts, rfl⟩ := map_eq_ok.mp h
    exact (ofItems_holds htexts a ha).listText
  | .mapping entries, false, _, h, a, ha => by
    obtain ⟨texts, htexts, rfl⟩ := map_eq_ok.mp h
    exact (ofEntries_holds htexts a ha).intercalate _
  | .span range, _, _, h, a, ha => by
    cases h
    obtain ⟨n, hn, rfl⟩ := List.mem_map.mp ha
    have hheld : HeldBy zone (range.toList.map Text.ofInt) (.number (.integer n) none) :=
      ⟨Text.ofInt n, List.mem_map_of_mem hn, _, rfl, List.infix_refl _⟩
    exact hheld.listText
  | .mapping _, true, _, h, _, ha | .null, _, _, h, _, ha | .bool _, _, _, h, _, ha
  | .number _ _, _, _, h, _, ha | .text _, _, _, h, _, ha | .date _, _, _, h, _, ha
  | .moment _, _, _, h, _, ha | .blob _ _, _, _, h, _, ha | .foreign _ _ _, _, _, h, _, ha
  | .node _, _, _, h, _, ha => by
    obtain rfl := List.mem_singleton.mp ha
    exact ⟨_, h, List.infix_refl _⟩
termination_by structural v => v

theorem ofItems_holds : ∀ {items : List Value} {texts : List Text},
    ofItems zone items = .ok texts → ∀ a ∈ itemAtoms items, HeldBy zone texts a
  | [], _, _, _, ha => by cases ha
  | v :: rest, _, h, a, ha => by
    obtain ⟨s, hs, h⟩ := bind_eq_ok.mp h
    obtain ⟨others, hothers, h⟩ := bind_eq_ok.mp h
    cases h
    rcases List.mem_append.mp ha with hv | hrest
    · exact .first (ofValue_holds hs a hv)
    · exact .later (ofItems_holds hothers a hrest)
termination_by structural items => items

theorem ofEntries_holds : ∀ {entries : List (Value × Value)} {texts : List Text},
    ofEntries zone entries = .ok texts → ∀ a ∈ entryAtoms entries, HeldBy zone texts a
  | [], _, _, _, ha => by cases ha
  | (k, v) :: rest, _, h, a, ha => by
    obtain ⟨s, hs, h⟩ := bind_eq_ok.mp h
    obtain ⟨others, hothers, h⟩ := bind_eq_ok.mp h
    cases h
    rcases List.mem_append.mp ha with hv | hrest
    · exact .first ((ofValue_holds hs a hv).assigned _)
    · exact .later (ofEntries_holds hothers a hrest)
termination_by structural entries => entries

end

end

/-! ## Literals in two zones -/

/-- In both zones the date or the moment has the same fault or related texts; any other value has
nothing to do with the zone. -/
def DatedAlike (excused : Prop) (R : Text → Text → Prop) (zone zone' : ZoneChoice) : Value → Prop
  | .date d =>
    Alike excused R ((dateText zone d).map Quoted.quote) ((dateText zone' d).map Quoted.quote)
  | .moment m =>
    Alike excused R ((momentText zone m).map Quoted.quote) ((momentText zone' m).map Quoted.quote)
  | _ => True

section

variable {excused : Prop} {R : Text → Text → Prop} {zone zone' : ZoneChoice}

theorem DatedAlike.of_undated {v : Value} (h : ¬v.IsDated) :
    DatedAlike excused R zone zone' v := by
  cases v with
  | date d => exact absurd trivial h
  | moment m => exact absurd trivial h
  | _ => trivial

theorem momentText_ok (z : Zone) (m : Moment) :
    momentText (.ok z) m = (m.inOffset z.offset).map Moment.text := by
  change (m.inOffset z.offset >>= fun n => .ok n.text) = _
  cases m.inOffset z.offset <;> rfl

theorem momentText_unaware (z : Zone) {m : Moment} (h : m.offset = none) :
    momentText (.ok z) m = .ok m.text := by
  have hstays : m.inOffset z.offset = .ok m := by rw [Moment.inOffset, h]
  rw [momentText_ok, hstays]
  rfl

/-- The same is written in any two zones for a date, and for a moment that is not aware. -/
theorem DatedAlike.of_unaware (hR : Congruence R) {v : Value} (h : ¬v.IsAware) (z z' : Zone) :
    DatedAlike excused R (.ok z) (.ok z') v := by
  cases v with
  | date d => exact .refl hR.refl _
  | moment m =>
    have hoffset : m.offset = none := not_not.mp h
    rw [DatedAlike, momentText_unaware z hoffset, momentText_unaware z' hoffset]
    exact .refl hR.refl _
  | _ => trivial

theorem listText_alike (hR : Congruence R) {ss ts : List Text} (h : List.Forall₂ R ss ts) :
    R (listText ss) (listText ts) := hR.wrap ['('] [')'] (hR.intercalate _ h)

mutual

/-- If the dates and moments among the atoms are written alike in two zones, so is the value. -/
theorem ofValue_alike (hR : Congruence R) : ∀ {v : Value} {nested : Bool},
    (∀ a ∈ atoms nested v, DatedAlike excused R zone zone' a) →
      Alike excused R (ofValue zone nested v) (ofValue zone' nested v)
  | .date d, _, h => h (.date d) (List.mem_singleton_self _)
  | .moment m, _, h => h (.moment m) (List.mem_singleton_self _)
  | .group _ _, _, h => (ofItems_alike hR h).map fun _ _ => listText_alike hR
  | .mapping _, false, h => (ofEntries_alike hR h).map fun _ _ => hR.intercalate _
  | .mapping _, true, _ => .refl hR.refl _
  | .null, _, _ | .bool _, _, _ | .number _ _, _, _ | .text _, _, _ | .blob _ _, _, _
  | .span _, _, _ | .foreign _ _ _, _, _ | .node _, _, _ => .refl hR.refl _
termination_by structural v => v

/-- So are nested values. -/
theorem ofItems_alike (hR : Congruence R) : ∀ {items : List Value},
    (∀ a ∈ itemAtoms items, DatedAlike excused R zone zone' a) →
      Alike excused (List.Forall₂ R) (ofItems zone items) (ofItems zone' items)
  | [], _ => .result .nil
  | v :: rest, h => by
    obtain ⟨hv, hrest⟩ := List.forall_mem_append.mp h
    refine (ofValue_alike hR hv).bind fun s t hst => ?_
    refine (ofItems_alike hR hrest).bind fun ss ts hss => ?_
    exact .result (.cons hst hss)
termination_by structural items => items

/-- So are assignments. -/
theorem ofEntries_alike (hR : Congruence R) : ∀ {entries : List (Value × Value)},
    (∀ a ∈ entryAtoms entries, DatedAlike excused R zone zone' a) →
      Alike excused (List.Forall₂ R) (ofEntries zone entries) (ofEntries zone' entries)
  | [], _ => .result .nil
  | (k, v) :: rest, h => by
    obtain ⟨hv, hrest⟩ := List.forall_mem_append.mp h
    refine (ofValue_alike hR hv).bind fun s t hst => ?_
    refine (ofEntries_alike hR hrest).bind fun ss ts hss => ?_
    exact .result (.cons (hR.append (hR.refl _) (hR.cons '=' hst)) hss)
termination_by structural entries => entries

end

end

end Sql.Literal

end SqlGateway
