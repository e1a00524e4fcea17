import Mathlib.Data.List.Lex
import SqlGateway.Proofs.Calendar.Conversion
import SqlGateway.Proofs.List

/-!
# Values without a literal

A value has no literal exactly if something in it that must be written cannot be. What must be
written stands at the rendered positions: the value itself, the elements of lists at any depth, and
the values of assignments, but nothing inside a nested mapping or an object (`RenderedAt`). What
cannot be written is an infinite or undefined number, a date or a moment where no zone is named, and
an aware moment whose instant has no reading (`Unwritable`). The fault is that of the first such
position from left to right (`ofValue_error_first`).

The induction is on the value. `Decided` says of the rendered positions of a value, or of a list of
values, what came of writing them, and it goes through each way in which literals are put together.
-/

namespace SqlGateway

/-- The number has digits. -/
def Number.IsFinite : Number → Prop
  | .integer _ => True
  | .binary x => x.isFinite = true
  | .decimal d => d.isFinite = true

namespace Sql.Literal

/-! ## Positions -/

/-- What stands at a rendered position of a value. A position is the way to it: which element to
take at each step. -/
inductive RenderedAt : Bool → Value → List Nat → Value → Prop
  | here {nested : Bool} {v : Value} : RenderedAt nested v [] v
  | element {nested : Bool} {kind : GroupKind} {items : List Value} {i : Nat} {w : Value}
      {p : List Nat} {a : Value} : items[i]? = some w → RenderedAt true w p a →
      RenderedAt nested (.group kind items) (i :: p) a
  | integer {nested : Bool} {s : Span} {i : Nat} {n : Int} : s.toList[i]? = some n →
      RenderedAt nested (.span s) [i] (.number (.integer n) none)
  | assigned {entries : List (Value × Value)} {i : Nat} {k w : Value} {p : List Nat} {a : Value} :
      entries[i]? = some (k, w) → RenderedAt true w p a →
      RenderedAt false (.mapping entries) (i :: p) a

/-- The value has no literal of its own, for the reason given. -/
inductive Unwritable (zone : ZoneChoice) : Value → Fault → Prop
  | number {n : Number} {label : Option Label} : ¬n.IsFinite →
      Unwritable zone (.number n label) (.notRepresentable n.display)
  | date {d : Date} {f : Fault} : zone = .error f → Unwritable zone (.date d) f
  | moment {m : Moment} {f : Fault} : zone = .error f → Unwritable zone (.moment m) f
  | outside {m : Moment} {z : Zone} {offset : Int} : zone = .ok z → m.offset = some offset →
      ¬(Moment.ShownAt (m.instant offset) 0 ∧ Moment.ShownAt (m.instant offset) z.offset) →
      Unwritable zone (.moment m) .outsideCalendar

/-- At the position stands a value without a literal, and at no position further left. -/
def FirstAt (zone : ZoneChoice) (At : List Nat → Value → Prop) (p : List Nat) (a : Value)
    (f : Fault) : Prop :=
  At p a ∧ Unwritable zone a f ∧
    ∀ q b g, At q b → Unwritable zone b g → q = p ∨ List.Lex (· < ·) p q

/-- What came of writing the values at the positions is right: there is no text unless all can be
written, and the fault is that of the first that cannot. -/
def Decided {α : Type} (zone : ZoneChoice) (At : List Nat → Value → Prop) : Except Fault α → Prop
  | .ok _ => ∀ p a f, At p a → ¬Unwritable zone a f
  | .error f => ∃ p a, FirstAt zone At p a f

/-- What stands at a position in a list of nested values. -/
def ItemAt (items : List Value) (p : List Nat) (a : Value) : Prop :=
  ∃ i w q, p = i :: q ∧ items[i]? = some w ∧ RenderedAt true w q a

section

variable {α β γ : Type} {zone : ZoneChoice} {At At' : List Nat → Value → Prop} {nested : Bool}
  {v : Value} {items rest : List Value} {p q : List Nat} {a b : Value} {f g : Fault}

theorem RenderedAt.unique (h : RenderedAt nested v p a) (h' : RenderedAt nested v p b) : a = b := by
  induction h with
  | here =>
    cases h'
    rfl
  | element hi _ ih =>
    cases h' with
    | element hi' h' =>
      obtain rfl := Option.some.inj (hi.symm.trans hi')
      exact ih h'
  | integer hi =>
    cases h' with
    | integer hi' => rw [Option.some.inj (hi.symm.trans hi')]
  | assigned hi _ ih =>
    cases h' with
    | assigned hi' h' =>
      obtain ⟨-, rfl⟩ := Prod.mk.inj (Option.some.inj (hi.symm.trans hi'))
      exact ih h'

theorem Unwritable.unique (h : Unwritable zone a f) (h' : Unwritable zone a g) : f = g := by
  cases h with
  | number _ =>
    cases h'
    rfl
  | date hzone =>
    cases h' with
    | date hzone' => exact Except.error.inj (hzone.symm.trans hzone')
  | moment hzone =>
    cases h' with
    | moment hzone' => exact Except.error.inj (hzone.symm.trans hzone')
    | outside hzone' _ _ => cases hzone.symm.trans hzone'
  | outside hzone _ _ =>
    cases h' with
    | moment hzone' => cases hzone.symm.trans hzone'
    | outside _ _ _ => rfl

/-- There is one first position. -/
theorem FirstAt.unique (h : FirstAt zone (RenderedAt nested v) p a f)
    (h' : FirstAt zone (RenderedAt nested v) q b g) : f = g := by
  obtain ⟨hat, hfault, hfirst⟩ := h
  obtain ⟨hat', hfault', hfirst'⟩ := h'
  have hsame : q = p := by
    rcases hfirst q b g hat' hfault' with hsame | hbefore
    · exact hsame
    · rcases hfirst' p a f hat hfault with hsame | hafter
      · exact hsame.symm
      · exact absurd hafter (asymm hbefore)
  subst hsame
  obtain rfl := hat.unique hat'
  exact hfault.unique hfault'

/-! ## Putting literals together -/

theorem Decided.map {x : Except Fault α} (h : Decided zone At x) (k : α → β) :
    Decided zone At (x.map k) := by
  cases x <;> exact h

/-- Only the positions of values without a literal count. -/
theorem Decided.congr {x : Except Fault α}
    (hat : ∀ p a f, Unwritable zone a f → (At p a ↔ At' p a)) (h : Decided zone At x) :
    Decided zone At' x := by
  cases x with
  | ok s => exact fun p a f ha hf => h p a f ((hat p a f hf).mpr ha) hf
  | error f =>
    obtain ⟨p, a, ha, hf, hfirst⟩ := h
    refine ⟨p, a, (hat p a f hf).mp ha, hf, fun q b g hb hg => ?_⟩
    exact hfirst q b g ((hat q b g hg).mpr hb) hg

theorem itemAt_cons : ItemAt (v :: rest) p a ↔
    (∃ q, p = 0 :: q ∧ RenderedAt true v q a) ∨
      ∃ i q, p = (i + 1) :: q ∧ ItemAt rest (i :: q) a := by
  constructor
  · rintro ⟨i, w, q, rfl, hi, hw⟩
    cases i with
    | zero =>
      obtain rfl := Option.some.inj hi
      exact Or.inl ⟨q, rfl, hw⟩
    | succ i => exact Or.inr ⟨i, q, rfl, i, w, q, rfl, hi, hw⟩
  · rintro (⟨q, rfl, hv⟩ | ⟨i, q, rfl, j, w, q', hq, hi, hw⟩)
    · exact ⟨0, v, q, rfl, rfl, hv⟩
    · obtain ⟨rfl, rfl⟩ := List.cons.inj hq
      exact ⟨i + 1, w, q, rfl, hi, hw⟩

/-- The first of a list decides before the others. -/
theorem FirstAt.head (h : FirstAt zone (RenderedAt true v) p a f) :
    FirstAt zone (ItemAt (v :: rest)) (0 :: p) a f := by
  obtain ⟨ha, hf, hfirst⟩ := h
  refine ⟨itemAt_cons.mpr (Or.inl ⟨p, rfl, ha⟩), hf, fun q b g hb hg => ?_⟩
  rcases itemAt_cons.mp hb with ⟨q, rfl, hhead⟩ | ⟨i, q, rfl, -⟩
  · rcases hfirst q b g hhead hg with rfl | hlater
    · exact Or.inl rfl
    · exact Or.inr (.cons hlater)
  · exact Or.inr (.rel (Nat.succ_pos i))

/-- If the first of a list can be written, the others decide. -/
theorem FirstAt.tail (hv : ∀ p a f, RenderedAt true v p a → ¬Unwritable zone a f)
    (h : FirstAt zone (ItemAt rest) p a f) : ∃ p, FirstAt zone (ItemAt (v :: rest)) p a f := by
  obtain ⟨ha, hf, hfirst⟩ := h
  obtain ⟨i, w, p, rfl, -⟩ := id ha
  refine ⟨(i + 1) :: p, itemAt_cons.mpr (Or.inr ⟨i, p, rfl, ha⟩), hf, fun q b g hb hg => ?_⟩
  rcases itemAt_cons.mp hb with ⟨q, rfl, hhead⟩ | ⟨j, q, rfl, htail⟩
  · exact absurd hg (hv q b g hhead)
  · rcases hfirst (j :: q) b g htail hg with hsame | hlater
    · obtain ⟨rfl, rfl⟩ := List.cons.inj hsame
      exact Or.inl rfl
    · exact Or.inr (lex_succ hlater)

/-- The first value is written and then the others. -/
theorem Decided.cons {x : Except Fault α} {y : Except Fault β} {k : α → β → γ}
    (hx : Decided zone (RenderedAt true v) x) (hy : Decided zone (ItemAt rest) y) :
    Decided zone (ItemAt (v :: rest)) (x >>= fun s => y >>= fun t => .ok (k s t)) := by
  cases x with
  | error f =>
    obtain ⟨p, a, hfirst⟩ := hx
    exact ⟨0 :: p, a, hfirst.head⟩
  | ok s =>
    cases y with
    | error f =>
      obtain ⟨p, a, hfirst⟩ := hy
      obtain ⟨q, hfirst⟩ := hfirst.tail hx
      exact ⟨q, a, hfirst⟩
    | ok t =>
      intro p a f ha
      rcases itemAt_cons.mp ha with ⟨q, -, ha⟩ | ⟨i, q, -, ha⟩
      · exact hx q a f ha
      · exact hy _ a f ha

/-! ## Values that are written whole -/

/-- The value has no parts with literals of their own. -/
def IsWhole (nested : Bool) : Value → Prop
  | .group .. | .span _ => False
  | .mapping _ => nested = true
  | _ => True

theorem RenderedAt.of_isWhole (hv : IsWhole nested v) (h : RenderedAt nested v p a) :
    p = [] ∧ a = v := by
  cases h with
  | here => exact ⟨rfl, rfl⟩
  | element _ _ | integer _ => exact hv.elim
  | assigned _ _ => cases hv

theorem decided_whole {x : Except Fault α} (hv : IsWhole nested v)
    (hx : ∀ f, x = .error f ↔ Unwritable zone v f) : Decided zone (RenderedAt nested v) x := by
  cases x with
  | error f =>
    exact ⟨[], v, .here, (hx f).mp rfl, fun q b g hb _ => Or.inl (hb.of_isWhole hv).1⟩
  | ok s =>
    intro p a f ha hf
    obtain ⟨-, rfl⟩ := ha.of_isWhole hv
    cases (hx f).mpr hf

theorem ofNumber_error {n : Number} {label : Option Label} :
    ofNumber n = .error f ↔ Unwritable zone (.number n label) f := by
  have hrefused : ofNumber n = .error f → ¬n.IsFinite ∧ f = .notRepresentable n.display := by
    intro h
    cases n with
    | integer n => cases h
    | binary x =>
      rw [ofNumber] at h
      split_ifs at h with hx
      exact ⟨hx, (Except.error.inj h).symm⟩
    | decimal d =>
      rw [ofNumber] at h
      split_ifs at h with hd
      exact ⟨hd, (Except.error.inj h).symm⟩
  constructor
  · intro h
    obtain ⟨hn, rfl⟩ := hrefused h
    exact .number hn
  · intro h
    cases h with
    | number hn =>
      cases n with
      | integer n => exact absurd trivial hn
      | binary x => exact if_neg hn
      | decimal d => exact if_neg hn

theorem dateText_error {d : Date} : dateText zone d = .error f ↔ Unwritable zone (.date d) f := by
  rw [dateText, bind_eq_error]
  constructor
  · rintro (hzone | ⟨z, -, h⟩)
    · exact .date hzone
    · cases h
  · intro h
    cases h with
    | date hzone => exact Or.inl hzone

theorem momentText_error {tz : Value} {m : Moment} (hm : m.Valid) :
    momentText (Zone.ofValue tz) m = .error f ↔ Unwritable (Zone.ofValue tz) (.moment m) f := by
  cases hzone : Zone.ofValue tz with
  | error e =>
    constructor
    · intro h
      cases h
      exact .moment rfl
    · intro h
      cases h with
      | moment hzone =>
        cases hzone
        rfl
      | outside hzone _ _ => cases hzone
  | ok z =>
    rw [momentText_ok, map_eq_error]
    cases hoffset : m.offset with
    | none =>
      have hstays : m.inOffset z.offset = .ok m := by rw [Moment.inOffset, hoffset]
      rw [hstays]
      constructor
      · intro h
        cases h
      · intro h
        cases h with
        | moment hzone => cases hzone
        | outside _ haware _ => cases hoffset.symm.trans haware
    | some offset =>
      have hshown := Moment.exists_inOffset_iff hm hoffset (Zone.offset_bounds hzone)
      constructor
      · intro h
        obtain rfl := Moment.inOffset_error hm hoffset h
        refine .outside rfl hoffset fun hboth => ?_
        obtain ⟨r, hr⟩ := hshown.mpr hboth
        cases hr.symm.trans h
      · intro h
        cases h with
        | moment hzone => cases hzone
        | outside hok haware hnone =>
          cases hok
          obtain rfl := Option.some.inj (hoffset.symm.trans haware)
          cases hin : m.inOffset z.offset with
          | ok r => exact absurd (hshown.mp ⟨r, hin⟩) hnone
          | error e => rw [Moment.inOffset_error hm hoffset hin]

/-! ## Values with parts -/

theorem ItemAt.element {kind : GroupKind} (h : ItemAt items p a) :
    RenderedAt nested (.group kind items) p a := by
  obtain ⟨i, w, q, rfl, hi, hw⟩ := h
  exact .element hi hw

theorem ItemAt.assigned {entries : List (Value × Value)}
    (h : ItemAt (entries.map Prod.snd) p a) : RenderedAt false (.mapping entries) p a := by
  obtain ⟨i, w, q, rfl, hi, hw⟩ := h
  rw [List.getElem?_map] at hi
  obtain ⟨⟨k, value⟩, hentry, rfl⟩ := Option.map_eq_some_iff.mp hi
  exact .assigned hentry hw

/-- A collection has a literal itself, so only the positions in it count. -/
theorem itemAt_group_iff {kind : GroupKind} (hf : Unwritable zone a f) :
    ItemAt items p a ↔ RenderedAt nested (.group kind items) p a := by
  constructor
  · exact ItemAt.element
  · intro h
    cases h with
    | here => cases hf
    | element hi hw => exact ⟨_, _, _, rfl, hi, hw⟩

/-- So it is with a mapping of assignments, whose keys are not written as literals. -/
theorem itemAt_assignments_iff {entries : List (Value × Value)} (hf : Unwritable zone a f) :
    ItemAt (entries.map Prod.snd) p a ↔ RenderedAt false (.mapping entries) p a := by
  constructor
  · exact ItemAt.assigned
  · intro h
    cases h with
    | here => cases hf
    | @assigned _ i k w _ _ hi hw =>
      refine ⟨i, w, _, rfl, ?_, hw⟩
      rw [List.getElem?_map, hi]
      rfl

/-- All integers have digits. -/
theorem decided_span (s : Span) (x : α) :
    Decided zone (RenderedAt nested (.span s)) (.ok x : Except Fault α) := by
  intro p a f ha hf
  cases ha with
  | here => cases hf
  | integer _ =>
    cases hf with
    | number hn => exact hn trivial

theorem decided_nil (x : α) : Decided zone (ItemAt []) (.ok x : Except Fault α) := by
  rintro p a f ⟨i, w, q, -, hi, -⟩
  cases hi

end

/-! ## The first fault -/

/-- The moments at the positions are such as calendar and clock can show. -/
def MomentsValid (At : List Nat → Value → Prop) : Prop := ∀ p m, At p (.moment m) → m.Valid

section

variable {tz v : Value} {rest : List Value}

theorem MomentsValid.head (h : MomentsValid (ItemAt (v :: rest))) :
    MomentsValid (RenderedAt true v) :=
  fun p m hm => h (0 :: p) m (itemAt_cons.mpr (Or.inl ⟨p, rfl, hm⟩))

theorem MomentsValid.tail (h : MomentsValid (ItemAt (v :: rest))) : MomentsValid (ItemAt rest) := by
  rintro p m ⟨i, w, q, rfl, hm⟩
  exact h _ m (itemAt_cons.mpr (Or.inr ⟨i, q, rfl, i, w, q, rfl, hm⟩))

mutual

theorem ofValue_decided : ∀ {v : Value} {nested : Bool}, MomentsValid (RenderedAt nested v) →
    Decided (Zone.ofValue tz) (RenderedAt nested v) (ofValue (Zone.ofValue tz) nested v)
  | .number _ _, _, _ => decided_whole trivial fun _ => ofNumber_error
  | .date d, _, _ => (decided_whole (v := .date d) trivial fun _ => dateText_error).map _
  | .moment m, _, h =>
    (decided_whole (v := .moment m) trivial fun _ => momentText_error (h [] m .here)).map _
  | .group _ items, _, h =>
    have hitems : MomentsValid (ItemAt items) := fun p m hm => h p m hm.element
    ((ofItems_decided hitems).congr fun _ _ _ => itemAt_group_iff).map _
  | .span s, _, _ => decided_span s _
  | .mapping entries, false, h =>
    have hvalues : MomentsValid (ItemAt (entries.map Prod.snd)) := fun p m hm => h p m hm.assigned
    ((ofEntries_decided hvalues).congr fun _ _ _ => itemAt_assignments_iff).map _
  | .mapping _, true, _ => decided_whole rfl fun _ => iff_of_false nofun nofun
  | .null, _, _ | .bool _, _, _ | .text _, _, _ | .blob _ _, _, _ | .foreign _ _ _, _, _
  | .node _, _, _ => decided_whole trivial fun _ => iff_of_false nofun nofun
termination_by structural v => v

theorem ofItems_decided : ∀ {items : List Value}, MomentsValid (ItemAt items) →
    Decided (Zone.ofValue tz) (ItemAt items) (ofItems (Zone.ofValue tz) items)
  | [], _ => decided_nil _
  | _ :: _, h => (ofValue_decided h.head).cons (ofItems_decided h.tail)
termination_by structural items => items

theorem ofEntries_decided : ∀ {entries : List (Value × Value)},
    MomentsValid (ItemAt (entries.map Prod.snd)) →
    Decided (Zone.ofValue tz) (ItemAt (entries.map Prod.snd)) (ofEntries (Zone.ofValue tz) entries)
  | [], _ => decided_nil _
  | (_, _) :: _, h => (ofValue_decided h.head).cons (ofEntries_decided h.tail)
termination_by structural entries => entries

end

/-- A value has no literal exactly if at a rendered position stands one that cannot be written. The
fault is that of the first of these, and it is one of the data format where that is a number. -/
theorem ofValue_error_first {nested : Bool} (hv : MomentsValid (RenderedAt nested v)) :
    ((∃ f, ofValue (Zone.ofValue tz) nested v = .error f) ↔
      ∃ p a f, RenderedAt nested v p a ∧ Unwritable (Zone.ofValue tz) a f) ∧
    (∀ f, ofValue (Zone.ofValue tz) nested v = .error f ↔
      ∃ p a, FirstAt (Zone.ofValue tz) (RenderedAt nested v) p a f) ∧
    ∀ p n label f, FirstAt (Zone.ofValue tz) (RenderedAt nested v) p (.number n label) f →
      f.kind = .dataFormat := by
  have hdecided : Decided (Zone.ofValue tz) (RenderedAt nested v)
      (ofValue (Zone.ofValue tz) nested v) := ofValue_decided hv
  refine ⟨?_, fun f => ?_, ?_⟩
  · cases hresult : ofValue (Zone.ofValue tz) nested v with
    | ok s =>
      rw [hresult] at hdecided
      exact iff_of_false nofun fun ⟨p, a, f, ha, hf⟩ => hdecided p a f ha hf
    | error f =>
      rw [hresult] at hdecided
      obtain ⟨p, a, ha, hf, -⟩ := hdecided
      exact iff_of_true ⟨f, rfl⟩ ⟨p, a, f, ha, hf⟩
  · cases hresult : ofValue (Zone.ofValue tz) nested v with
    | ok s =>
      rw [hresult] at hdecided
      exact iff_of_false nofun fun ⟨p, a, ha, hf, _⟩ => hdecided p a f ha hf
    | error g =>
      rw [hresult] at hdecided
      constructor
      · intro h
        obtain rfl := Except.error.inj h
        exact hdecided
      · rintro ⟨p, a, hfirst⟩
        obtain ⟨q, b, hfirst'⟩ := hdecided
        rw [hfirst'.unique hfirst]
  · rintro p n label f ⟨-, hf, -⟩
    cases hf
    rfl

/-- Two undefined numbers: the one in a nested mapping is never written, the other comes behind a
moment. -/
def undefinedNumbers : Value :=
  .group .list [.mapping [(.text "a".toList, .number (.binary .nan) none)], .moment lateNight,
    .number (.binary .nan) none]

theorem ofValue_error_first_undefined :
    MomentsValid (RenderedAt false undefinedNumbers) ∧
      ∃ p a, FirstAt (Zone.ofValue .null) (RenderedAt false undefinedNumbers) p a
        (.notRepresentable "nan".toList) := by
  have hvalid : MomentsValid (RenderedAt false undefinedNumbers) := by
    intro p m hm
    cases hm with
    | @element _ _ _ i w p _ hi hw =>
      match i, hi with
      | 0, hi =>
        cases hi
        cases hw
      | 1, hi =>
        cases hi
        cases hw
        decide
      | 2, hi =>
        cases hi
        cases hw
  have herror : ofValue (Zone.ofValue .null) false undefinedNumbers =
      .error (.notRepresentable "nan".toList) := by rfl
  exact ⟨hvalid, ((ofValue_error_first hvalid).2.1 _).mp herror⟩

end

end Sql.Literal

end SqlGateway
