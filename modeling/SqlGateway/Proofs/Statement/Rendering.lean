import SqlGateway.Proofs.Condition.Atom
import SqlGateway.Proofs.List
import SqlGateway.Proofs.Statement.Filter
import SqlGateway.Statement.Insert

/-!
# The time zone in what is rendered

Every call that turns values into text is given a zone (`Rendering`). What it makes of the zone
depends on the values that it writes whole, wherever they stand in its arguments
(`Rendering.atoms`): a call that writes neither a date nor a moment does not look at the zone at
all, and one that writes no aware moment does not care which zone it is (`text?_zone`).

No atom is idle: the literal of each is a part of what is written (`text?_holds`), so that a date or
a moment among them is never written without a zone (`zone_of_dated`).
-/

namespace SqlGateway

/-- A call that turns values into text: a literal, a condition by itself, or a statement. -/
inductive Rendering where
  | literal (nested : Bool) (v : Value)
  | expression (condition : Value)
  | insert (table rows missing : Value)
  | update (table condition data tail : Value)
  | delete (table condition tail : Value)
  | select (table fields condition tail : Value)
  | selectOne (table fields condition tail : Value)

namespace Rendering

open SqlGateway.Sql
open SqlGateway.Sql.Literal (DatedAlike)

/-- The text of a call. Only a condition may have none. -/
def text? (zone : ZoneChoice) : Rendering → Except Fault (Option Text)
  | literal nested v => (Literal.ofValue zone nested v).map some
  | expression condition => Condition.ofValueSql? zone condition
  | insert table rows missing => (Statement.insert zone table rows missing).map some
  | update table condition data tail =>
    (Statement.update zone table condition data tail).map some
  | delete table condition tail => (Statement.delete zone table condition tail).map some
  | select table fields condition tail =>
    (Statement.select zone table fields condition tail).map some
  | selectOne table fields condition tail =>
    (Statement.selectOne zone table fields condition tail).map some

/-! ## Atoms -/

/-- The atoms of the tree of a condition value. -/
def conditionAtoms (v : Value) : List Value :=
  match Condition.read v with
  | .ok (some c) => c.atoms
  | _ => []

/-- The atoms of the values that are assigned to columns. -/
def assignedAtoms (entries : List (Value × Value)) : List Value :=
  entries.flatMap fun entry => Literal.atoms false entry.2

/-- The atoms of a row: those of its values in all columns. -/
def rowAtoms (columns : List Statement.Column) (missing : Value) (index : Nat)
    (row : Statement.Row) : List Value :=
  columns.flatMap fun column => Literal.atoms false (Statement.cell missing index row column)

/-- The atoms of rows that are numbered from `index` on. -/
def rowsAtoms (columns : List Statement.Column) (missing : Value) (index : Nat) :
    List Statement.Row → List Value
  | [] => []
  | row :: rest => rowAtoms columns missing index row ++ rowsAtoms columns missing (index + 1) rest

/-- The values that are written whole in the text of a call. -/
def atoms : Rendering → List Value
  | literal nested v => Literal.atoms nested v
  | expression condition => conditionAtoms condition
  | insert _ rows missing =>
    match Statement.rows? rows with
    | none => []
    | some rows => rowsAtoms (Statement.columns rows) missing 0 rows
  | update _ condition (.mapping (entry :: entries)) _ =>
    assignedAtoms (entry :: entries) ++ conditionAtoms condition
  | update .. => []
  | delete _ condition _ | select _ _ condition _ | selectOne _ _ condition _ =>
    conditionAtoms condition

end Rendering

/-! ## Atoms in the statement -/

namespace Statement

open SqlGateway.Sql
open SqlGateway.Sql.Literal (Holds HeldBy)

section

variable {zone : ZoneChoice} {s : Text} {texts : List Text} {a : Value}

/-- A clause that is left out because it is empty holds nothing but the empty text. -/
theorem holds_joinClauses (h : HeldBy zone texts a) : Holds zone (joinClauses texts) a := by
  obtain ⟨s, hs, hholds⟩ := h
  cases s with
  | nil => exact hholds.within (List.nil_infix)
  | cons c rest =>
    have hkept : c :: rest ∈ texts.filter fun clause => !clause.isEmpty :=
      List.mem_filter.mpr ⟨hs, rfl⟩
    exact HeldBy.intercalate [' '] ⟨_, hkept, hholds⟩

theorem condition_holds {v : Value} {s? : Option Text} (h : Condition.ofValueSql? zone v = .ok s?) :
    ∀ a ∈ Rendering.conditionAtoms v, ∃ s, s? = some s ∧ Holds zone s a := by
  intro a ha
  unfold Rendering.conditionAtoms at ha
  unfold Condition.ofValueSql? at h
  cases hread : Condition.read v with
  | error f =>
    rw [hread] at ha
    cases ha
  | ok c? =>
    rw [hread] at h ha
    cases c? with
    | none => cases ha
    | some c => exact Condition.sql?_holds h a ha

theorem whereClause_holds {condition : Value} (h : whereClause zone condition = .ok s) :
    ∀ a ∈ Rendering.conditionAtoms condition, Holds zone s a := by
  intro a ha
  obtain ⟨s?, hs, h⟩ := bind_eq_ok.mp h
  obtain ⟨t, rfl, hholds⟩ := condition_holds hs a ha
  cases h
  exact hholds.within (List.suffix_append _ _).isInfix

/-- What goes before the condition stays, and the condition's own atoms come to it. -/
theorem ending_holds {condition tail : Value} (h : ending zone texts condition tail = .ok s)
    (ha : HeldBy zone texts a ∨ a ∈ Rendering.conditionAtoms condition) : Holds zone s a := by
  obtain ⟨filter, hfilter, h⟩ := bind_eq_ok.mp h
  obtain ⟨rest, -, h⟩ := bind_eq_ok.mp h
  cases h
  apply holds_joinClauses
  rcases ha with ⟨t, ht, hholds⟩ | hcondition
  · exact ⟨t, List.mem_append_left _ ht, hholds⟩
  · exact ⟨filter, List.mem_append_right _ (List.mem_cons_self ..),
      whereClause_holds hfilter a hcondition⟩

theorem select_holds {table fields condition tail : Value}
    (h : select zone table fields condition tail = .ok s) :
    ∀ a ∈ Rendering.conditionAtoms condition, Holds zone s a := by
  intro a ha
  rw [select_eq] at h
  obtain ⟨selected, -, h⟩ := bind_eq_ok.mp h
  exact ending_holds h (.inr ha)

theorem assignments_holds {entries : List (Value × Value)}
    (h : assignments zone entries = .ok texts) :
    ∀ a ∈ Rendering.assignedAtoms entries, HeldBy zone texts a := by
  induction entries generalizing texts with
  | nil => exact nofun
  | cons entry entries ih =>
    obtain ⟨s, hs, h⟩ := bind_eq_ok.mp h
    obtain ⟨others, hothers, h⟩ := bind_eq_ok.mp h
    cases h
    rw [Rendering.assignedAtoms, List.flatMap_cons, List.forall_mem_append]
    constructor
    · intro a ha
      exact .first ((Literal.ofValue_holds hs a ha).assigned _)
    · intro a ha
      exact .later (ih hothers a ha)

theorem tupleText_holds {columns : List Column} {missing : Value} {index : Nat} {row : Row}
    (h : tupleText zone columns missing index row = .ok s) :
    ∀ a ∈ Rendering.rowAtoms columns missing index row, Holds zone s a := by
  intro a ha
  obtain ⟨cells, hcells, h⟩ := bind_eq_ok.mp h
  cases h
  obtain ⟨column, hcolumn, ha⟩ := List.mem_flatMap.mp ha
  obtain ⟨t, ht, hliteral⟩ := mapM_mem hcells hcolumn
  have hheld : HeldBy zone cells a := ⟨t, ht, Literal.ofValue_holds hliteral a ha⟩
  exact (hheld.intercalate [',']).within (List.infix_append ['('] _ [')'])

theorem tuplesFrom_holds {columns : List Column} {missing : Value} {index : Nat}
    {rows : List Row} (h : tuplesFrom zone columns missing index rows = .ok texts) :
    ∀ a ∈ Rendering.rowsAtoms columns missing index rows, HeldBy zone texts a := by
  induction rows generalizing index texts with
  | nil => exact nofun
  | cons row rows ih =>
    obtain ⟨s, hs, h⟩ := bind_eq_ok.mp h
    obtain ⟨others, hothers, h⟩ := bind_eq_ok.mp h
    cases h
    rw [Rendering.rowsAtoms, List.forall_mem_append]
    constructor
    · intro a ha
      exact .first (tupleText_holds hs a ha)
    · intro a ha
      exact .later (ih hothers a ha)

end

end Statement

/-! ## Statements in two zones -/

namespace Statement

open SqlGateway.Sql
open SqlGateway.Sql.Literal (DatedAlike)

section

variable {excused : Prop} {R : Text → Text → Prop} {zone zone' : ZoneChoice}

theorem joinClauses_alike (hR : Congruence R) {ss ts : List Text} (h : List.Forall₂ R ss ts) :
    R (joinClauses ss) (joinClauses ts) := by
  apply hR.intercalate
  induction h with
  | nil => exact .nil
  | @cons s t ss ts hst _ ih =>
    have hempty : s.isEmpty = t.isEmpty := by
      rw [Bool.eq_iff_iff, List.isEmpty_iff, List.isEmpty_iff]
      exact hR.empty hst
    rw [List.filter_cons, List.filter_cons, hempty]
    split
    · exact .cons hst ih
    · exact ih

theorem condition_alike (hR : Congruence R) {v : Value}
    (h : ∀ a ∈ Rendering.conditionAtoms v, DatedAlike excused R zone zone' a) :
    Alike excused (Option.Rel R) (Condition.ofValueSql? zone v)
      (Condition.ofValueSql? zone' v) := by
  unfold Rendering.conditionAtoms at h
  unfold Condition.ofValueSql?
  cases hread : Condition.read v with
  | error f => exact .fault f
  | ok c? =>
    cases c? with
    | none => exact .result .none
    | some c =>
      rw [hread] at h
      exact Condition.sql?_alike hR h

theorem whereClause_alike (hR : Congruence R) {condition : Value}
    (h : ∀ a ∈ Rendering.conditionAtoms condition, DatedAlike excused R zone zone' a) :
    Alike excused R (whereClause zone condition) (whereClause zone' condition) := by
  refine (condition_alike hR h).bind fun s? t? hst => ?_
  cases hst with
  | none => exact .result (hR.refl [])
  | some hst => exact .result (hR.append (hR.refl _) hst)

/-- Statements that go on with the same condition and tail after clauses that are alike. -/
theorem ending_alike (hR : Congruence R) {ss ts : List Text} (hclauses : List.Forall₂ R ss ts)
    {condition : Value}
    (h : ∀ a ∈ Rendering.conditionAtoms condition, DatedAlike excused R zone zone' a)
    (tail : Value) :
    Alike excused R (ending zone ss condition tail) (ending zone' ts condition tail) := by
  refine (whereClause_alike hR h).bind fun s t hst => ?_
  refine .after (tailClause tail) fun rest => ?_
  exact .result (joinClauses_alike hR
    (List.rel_append hclauses (.cons hst (.cons (hR.refl rest) .nil))))

theorem select_alike (hR : Congruence R) {condition : Value}
    (h : ∀ a ∈ Rendering.conditionAtoms condition, DatedAlike excused R zone zone' a)
    (table fields tail : Value) :
    Alike excused R (select zone table fields condition tail)
      (select zone' table fields condition tail) := by
  rw [select_eq, select_eq]
  refine .after (fieldList fields) fun selected => ?_
  exact ending_alike hR (hR.refl_all _) h tail

theorem assignments_alike (hR : Congruence R) {entries : List (Value × Value)}
    (h : ∀ a ∈ Rendering.assignedAtoms entries, DatedAlike excused R zone zone' a) :
    Alike excused (List.Forall₂ R) (assignments zone entries) (assignments zone' entries) := by
  induction entries with
  | nil => exact .result .nil
  | cons entry entries ih =>
    rw [Rendering.assignedAtoms, List.flatMap_cons, List.forall_mem_append] at h
    obtain ⟨hvalue, hrest⟩ := h
    refine (Literal.ofValue_alike hR hvalue).bind fun s t hst => ?_
    refine (ih hrest).bind fun ss ts hss => ?_
    exact .result (.cons (hR.append (hR.refl _) (hR.cons '=' hst)) hss)

theorem tupleText_alike (hR : Congruence R) {columns : List Column} {missing : Value} {index : Nat}
    {row : Row}
    (h : ∀ a ∈ Rendering.rowAtoms columns missing index row, DatedAlike excused R zone zone' a) :
    Alike excused R (tupleText zone columns missing index row)
      (tupleText zone' columns missing index row) := by
  have hcells : ∀ column ∈ columns,
      Alike excused R (Literal.ofValue zone false (cell missing index row column))
        (Literal.ofValue zone' false (cell missing index row column)) := by
    intro column hcolumn
    apply Literal.ofValue_alike hR
    intro a ha
    exact h a (List.mem_flatMap.mpr ⟨column, hcolumn, ha⟩)
  exact (Alike.mapM hcells).bind fun ss ts hss =>
    .result (hR.wrap ['('] [')'] (hR.intercalate [','] hss))

theorem tuplesFrom_alike (hR : Congruence R) {columns : List Column} {missing : Value}
    {index : Nat} {rows : List Row}
    (h : ∀ a ∈ Rendering.rowsAtoms columns missing index rows,
      DatedAlike excused R zone zone' a) :
    Alike excused (List.Forall₂ R) (tuplesFrom zone columns missing index rows)
      (tuplesFrom zone' columns missing index rows) := by
  induction rows generalizing index with
  | nil => exact .result .nil
  | cons row rows ih =>
    rw [Rendering.rowsAtoms, List.forall_mem_append] at h
    obtain ⟨hrow, hrest⟩ := h
    refine (tupleText_alike hR hrow).bind fun s t hst => ?_
    refine (ih hrest).bind fun ss ts hss => ?_
    exact .result (.cons hst hss)

end

end Statement

namespace Rendering

open SqlGateway.Sql
open SqlGateway.Sql.Literal (DatedAlike Holds)

/-- The literal of every atom is a part of what a call writes. -/
theorem text?_holds {zone : ZoneChoice} {call : Rendering} {s? : Option Text}
    (h : call.text? zone = .ok s?) : ∀ a ∈ call.atoms, ∃ s, s? = some s ∧ Holds zone s a := by
  intro a ha
  cases call with
  | literal nested v =>
    obtain ⟨s, hs, rfl⟩ := map_eq_ok.mp h
    exact ⟨s, rfl, Literal.ofValue_holds hs a ha⟩
  | expression condition => exact Statement.condition_holds h a ha
  | insert table rows missing =>
    obtain ⟨s, hs, rfl⟩ := map_eq_ok.mp h
    simp only [atoms] at ha
    unfold Statement.insert at hs
    cases hrows : Statement.rows? rows with
    | none =>
      rw [hrows] at ha
      cases ha
    | some rows =>
      rw [hrows] at hs ha
      obtain ⟨tuples, htuples, hs⟩ := bind_eq_ok.mp hs
      cases hs
      have hheld := Statement.tuplesFrom_holds htuples a ha
      exact ⟨_, rfl, (hheld.intercalate [',']).within (List.suffix_append _ _).isInfix⟩
  | update table condition data tail =>
    obtain ⟨s, hs, rfl⟩ := map_eq_ok.mp h
    refine ⟨s, rfl, ?_⟩
    rcases Statement.update_cases zone table data tail with ⟨entry, entries, rfl⟩ | hnothing
    · rw [Statement.update_eq] at hs
      obtain ⟨assigned, hassigned, hs⟩ := bind_eq_ok.mp hs
      apply Statement.ending_holds hs
      rcases List.mem_append.mp ha with hvalue | hcondition
      · have hheld := Statement.assignments_holds hassigned a hvalue
        exact .inl ⟨_, by simp, hheld.intercalate [',']⟩
      · exact .inr hcondition
    · rw [hnothing] at hs
      cases hs
  | delete table condition tail =>
    obtain ⟨s, hs, rfl⟩ := map_eq_ok.mp h
    rw [Statement.delete_eq] at hs
    exact ⟨s, rfl, Statement.ending_holds hs (.inr ha)⟩
  | select table fields condition tail =>
    obtain ⟨s, hs, rfl⟩ := map_eq_ok.mp h
    exact ⟨s, rfl, Statement.select_holds hs a ha⟩
  | selectOne table fields condition tail =>
    obtain ⟨s, hs, rfl⟩ := map_eq_ok.mp h
    obtain ⟨limited, -, hs⟩ := bind_eq_ok.mp hs
    exact ⟨s, rfl, Statement.select_holds hs a ha⟩

/-- A call that has written a date or a moment was given a zone. -/
theorem zone_of_dated {zone : ZoneChoice} {call : Rendering} {s? : Option Text}
    (h : call.text? zone = .ok s?) {a : Value} (ha : a ∈ call.atoms) (hdated : a.IsDated) :
    ∃ z, zone = .ok z := by
  obtain ⟨s, -, t, ht, -⟩ := text?_holds h a ha
  cases a with
  | date _ | moment _ =>
    obtain ⟨u, hu, -⟩ := map_eq_ok.mp ht
    obtain ⟨z, hz, -⟩ := bind_eq_ok.mp hu
    exact ⟨z, hz⟩
  | _ => exact hdated.elim

/-- If the dates and moments among the atoms of a call are written alike in two zones, so is all
that it writes. -/
theorem text?_alike {excused : Prop} {R : Text → Text → Prop} {zone zone' : ZoneChoice}
    (hR : Congruence R) {call : Rendering}
    (h : ∀ a ∈ call.atoms, DatedAlike excused R zone zone' a) :
    Alike excused (Option.Rel R) (call.text? zone) (call.text? zone') := by
  cases call with
  | literal nested v => exact (Literal.ofValue_alike hR h).map fun s t hst => .some hst
  | expression condition => exact Statement.condition_alike hR h
  | insert table rows missing =>
    refine Alike.map (R := R) ?_ fun s t hst => .some hst
    simp only [atoms] at h
    unfold Statement.insert
    cases hrows : Statement.rows? rows with
    | none => exact .fault _
    | some rows =>
      rw [hrows] at h
      refine (Statement.tuplesFrom_alike hR h).bind fun ss ts hss => .result ?_
      exact hR.append (hR.refl _) (hR.intercalate [','] hss)
  | update table condition data tail =>
    refine Alike.map (R := R) ?_ fun s t hst => .some hst
    cases data with
    | mapping entries =>
      cases entries with
      | nil => exact .fault _
      | cons entry entries =>
        obtain ⟨hassigned, hcondition⟩ := List.forall_mem_append.mp h
        rw [Statement.update_eq, Statement.update_eq]
        refine (Statement.assignments_alike hR hassigned).bind fun ss ts hss => ?_
        refine Statement.ending_alike hR ?_ hcondition tail
        exact .cons (hR.refl _) (.cons (hR.refl _) (.cons (hR.refl _)
          (.cons (hR.intercalate [','] hss) .nil)))
    | _ => exact .fault _
  | delete table condition tail =>
    refine Alike.map (R := R) ?_ fun s t hst => .some hst
    rw [Statement.delete_eq, Statement.delete_eq]
    exact Statement.ending_alike hR (hR.refl_all _) h tail
  | select table fields condition tail =>
    exact (Statement.select_alike hR h table fields tail).map fun s t hst => .some hst
  | selectOne table fields condition tail =>
    refine Alike.map (R := R) ?_ fun s t hst => .some hst
    refine .after (Statement.ensureLimit tail) fun limited => ?_
    exact Statement.select_alike hR h table fields (.text limited)

/-- A call that writes neither a date nor a moment has the same outcome in all zones, even where
there is no zone because none was named. One that writes no aware moment has the same outcome in any
two zones. -/
theorem text?_zone (call : Rendering) (zone zone' : ZoneChoice) :
    ((∀ a ∈ call.atoms, ¬a.IsDated) → call.text? zone = call.text? zone') ∧
      ((∃ z, zone = .ok z) → (∃ z', zone' = .ok z') → (∀ a ∈ call.atoms, ¬a.IsAware) →
        call.text? zone = call.text? zone') := by
  constructor
  · intro hundated
    have halike : Alike False (Option.Rel (· = ·)) (call.text? zone) (call.text? zone') :=
      text?_alike congruence_eq fun a ha => .of_undated (hundated a ha)
    exact halike.eq fun _ _ => eq_of_rel
  · rintro ⟨z, rfl⟩ ⟨z', rfl⟩ hunaware
    have halike : Alike False (Option.Rel (· = ·)) (call.text? (.ok z)) (call.text? (.ok z')) :=
      text?_alike congruence_eq fun a ha => .of_unaware congruence_eq (hunaware a ha) z z'
    exact halike.eq fun _ _ => eq_of_rel

/-- A date inside a nested mapping is not written as a date, and a moment that is not aware is the
same reading everywhere. -/
theorem text?_zone_nested :
    let born : Value := .mapping [(.text ['b'], .date ⟨2024, 1, 2⟩)]
    let noon : Value := .group .list [.text ['n'], .text ['<'],
      .moment ⟨⟨2024, 1, 2⟩, 12, 0, 0, 0, none⟩]
    (literal true born).text? (Zone.ofValue (.text "+24:00".toList)) =
        (literal true born).text? (Zone.ofValue .null) ∧
      (delete (.text ['t']) noon .null).text? (Zone.ofValue (.text "+02:00".toList)) =
        (delete (.text ['t']) noon .null).text? (Zone.ofValue (.text "local".toList)) := by
  intro born noon
  constructor
  · apply (text?_zone (literal true born) _ _).1
    intro a ha
    obtain rfl := List.mem_singleton.mp ha
    exact id
  · apply (text?_zone (delete (.text ['t']) noon .null) _ _).2
    · exact ⟨.fixed 7200, by decide⟩
    · exact ⟨.host, by decide⟩
    · intro a ha
      obtain rfl := List.mem_singleton.mp ha
      exact fun h => h rfl

theorem datedAlike_of_fits {z z' : Zone} {v : Value}
    (h : ∀ m, v = .moment m → ∃ n, m.inOffset z'.offset = .ok n) :
    DatedAlike True SameEmptiness (.ok z) (.ok z') v := by
  cases v with
  | date d => exact .refl congruence_sameEmptiness.refl _
  | moment m =>
    obtain ⟨n', hn'⟩ := h m rfl
    rw [DatedAlike, Literal.momentText_ok, Literal.momentText_ok, hn']
    cases m.inOffset z.offset with
    | error f => exact .excuse f _ trivial
    | ok n => exact .result (iff_of_false (List.cons_ne_nil _ _) (List.cons_ne_nil _ _))
  | _ => trivial

/-- What can be written in one zone can be written in any other in which all its moments lie within
the calendar. -/
theorem exists_text?_of_fits {call : Rendering} {z z' : Zone} {s? : Option Text}
    (h : call.text? (.ok z) = .ok s?)
    (hfits : ∀ m, .moment m ∈ call.atoms → ∃ n, m.inOffset z'.offset = .ok n) :
    ∃ t?, call.text? (.ok z') = .ok t? := by
  have halike : Alike True (Option.Rel SameEmptiness) (call.text? (.ok z)) (call.text? (.ok z')) :=
    text?_alike congruence_sameEmptiness fun a ha =>
      datedAlike_of_fits fun m hm => hfits m (hm ▸ ha)
  obtain ⟨t?, ht?, -⟩ := halike.exists_ok h
  exact ⟨t?, ht?⟩

end Rendering

end SqlGateway
