import SqlGateway.Proofs.Condition.Vacuous
import SqlGateway.Proofs.List
import SqlGateway.Statement.Basic

/-!
# Conditions in statements

A statement with a condition is the statement without one, and a WHERE clause before its tail
(`Filtered`). A vacuous condition leaves no trace, so a statement has a WHERE clause exactly if
there is something to test, and the clause is never bare (`where_omitted_iff`).

UPDATE, DELETE and SELECT end alike: a condition and a tail follow clauses of their own. What they
have in common is `ending`.
-/

namespace SqlGateway.Statement

open SqlGateway.Condition

/-! ## Clauses in a row -/

/-- A clause with the space before it; an empty clause leaves no trace. -/
def spaced (clause : Text) : Text := if clause.isEmpty then [] else ' ' :: clause

theorem flatMap_spaced (clauses : List Text) :
    (clauses.filter fun clause => !clause.isEmpty).flatMap (fun c => ' ' :: c) =
      clauses.flatMap spaced := by
  induction clauses with
  | nil => rfl
  | cons clause clauses ih => cases clause <;> simp [spaced, ← ih]

theorem joinClauses_cons {clause : Text} {clauses : List Text} (h : clause ≠ []) :
    joinClauses (clause :: clauses) = clause ++ clauses.flatMap spaced := by
  have hkept : (clause :: clauses).filter (fun clause => !clause.isEmpty) =
      clause :: clauses.filter fun clause => !clause.isEmpty := by
    rw [List.filter_cons_of_pos]
    simpa using h
  rw [joinClauses, hkept, intercalate_cons, ← flatMap_spaced]
  rfl

/-! ## The WHERE clause -/

section

variable {zone : ZoneChoice} {condition : Value} {s : Text}

theorem whereClause_none (h : ofValueSql? zone condition = .ok none) :
    whereClause zone condition = .ok [] := by
  rw [whereClause, h]
  rfl

theorem whereClause_some (h : ofValueSql? zone condition = .ok (some s)) :
    whereClause zone condition = .ok ("WHERE ".toList ++ s) := by
  rw [whereClause, h]
  rfl

end

/-- A statement that goes on with a condition and a tail after some clauses. -/
def ending (zone : ZoneChoice) (clauses : List Text) (condition tail : Value) :
    Except Fault Text := do
  let filter ← whereClause zone condition
  let rest ← tailClause tail
  return joinClauses (clauses ++ [filter, rest])

/-- The second statement is the first with the WHERE clause of an expression before its tail, or
both have the same fault. -/
inductive Filtered (s : Text) (tail : Value) : Except Fault Text → Except Fault Text → Prop
  | fault (f : Fault) : Filtered s tail (.error f) (.error f)
  | statement {front rest : Text} : tailClause tail = .ok rest →
      Filtered s tail (.ok (front ++ spaced rest))
        (.ok (front ++ (" WHERE ".toList ++ s) ++ spaced rest))

theorem Filtered.bind {α : Type} {s : Text} {tail : Value} {x : Except Fault α}
    {f g : α → Except Fault Text} (h : ∀ a, Filtered s tail (f a) (g a)) :
    Filtered s tail (x >>= f) (x >>= g) := by
  cases x with
  | error e => exact .fault e
  | ok a => exact h a

section

variable {zone : ZoneChoice} {condition : Value} {s : Text}

theorem ending_none (h : ofValueSql? zone condition = .ok none) (clauses : List Text)
    (tail : Value) : ending zone clauses condition tail = ending zone clauses .null tail := by
  rw [ending, ending, whereClause_none h, whereClause_none rfl]

theorem ending_filtered (h : ofValueSql? zone condition = .ok (some s)) {clause : Text}
    (hclause : clause ≠ []) (clauses : List Text) (tail : Value) :
    Filtered s tail (ending zone (clause :: clauses) .null tail)
      (ending zone (clause :: clauses) condition tail) := by
  rw [ending, ending, whereClause_none rfl, whereClause_some h]
  cases htail : tailClause tail with
  | error f => exact .fault f
  | ok rest =>
    have hplain : joinClauses ((clause :: clauses) ++ [[], rest]) =
        (clause ++ clauses.flatMap spaced) ++ spaced rest := by
      rw [List.cons_append, joinClauses_cons hclause]
      simp [spaced]
    have hfiltered : joinClauses ((clause :: clauses) ++ ["WHERE ".toList ++ s, rest]) =
        (clause ++ clauses.flatMap spaced) ++ (" WHERE ".toList ++ s) ++ spaced rest := by
      rw [List.cons_append, joinClauses_cons hclause]
      simp [spaced]
    change Filtered s tail (.ok (joinClauses _)) (.ok (joinClauses _))
    rw [hplain, hfiltered]
    exact .statement htail

end

/-! ## Statements -/

section

variable (zone : ZoneChoice) (table fields condition data tail : Value)

theorem delete_eq : delete zone table condition tail =
    ending zone ["DELETE FROM".toList, Sql.Identifier.ofValue table] condition tail := rfl

theorem select_eq : select zone table fields condition tail =
    fieldList fields >>= fun selected =>
      ending zone ["SELECT".toList, selected, "FROM".toList, Sql.Identifier.ofValue table]
        condition tail := rfl

theorem update_eq (entry : Value × Value) (entries : List (Value × Value)) :
    update zone table condition (.mapping (entry :: entries)) tail =
      assignments zone (entry :: entries) >>= fun assigned =>
        ending zone ["UPDATE".toList, Sql.Identifier.ofValue table, "SET".toList,
          [','].intercalate assigned] condition tail := rfl

end

/-- A statement does not look at its condition if it has nothing to assign. -/
theorem update_cases (zone : ZoneChoice) (table data tail : Value) :
    (∃ entry entries, data = .mapping (entry :: entries)) ∨
      ∀ condition, update zone table condition data tail = .error .assignmentsExpected := by
  cases data with
  | mapping entries =>
    cases entries with
    | nil => exact Or.inr fun _ => rfl
    | cons entry entries => exact Or.inl ⟨entry, entries, rfl⟩
  | _ => exact Or.inr fun _ => rfl

section

variable {zone : ZoneChoice} {condition : Value} {s : Text}

/-- All statements with the condition are those without one. -/
theorem statements_none (h : ofValueSql? zone condition = .ok none)
    (table fields data tail : Value) :
    update zone table condition data tail = update zone table .null data tail ∧
      delete zone table condition tail = delete zone table .null tail ∧
      select zone table fields condition tail = select zone table fields .null tail := by
  refine ⟨?_, ?_, ?_⟩
  · rcases update_cases zone table data tail with ⟨entry, entries, rfl⟩ | hfault
    · simp only [update_eq, ending_none h]
    · rw [hfault, hfault]
  · rw [delete_eq, delete_eq, ending_none h]
  · simp only [select_eq, ending_none h]

/-- All statements with the condition are those without one and a WHERE clause. -/
theorem statements_filtered (h : ofValueSql? zone condition = .ok (some s))
    (table fields data tail : Value) :
    Filtered s tail (update zone table .null data tail) (update zone table condition data tail) ∧
      Filtered s tail (delete zone table .null tail) (delete zone table condition tail) ∧
      Filtered s tail (select zone table fields .null tail)
        (select zone table fields condition tail) := by
  refine ⟨?_, ?_, ?_⟩
  · rcases update_cases zone table data tail with ⟨entry, entries, rfl⟩ | hfault
    · rw [update_eq, update_eq]
      exact Filtered.bind fun _ => ending_filtered h (by decide) _ _
    · rw [hfault, hfault]
      exact .fault _
  · rw [delete_eq, delete_eq]
    exact ending_filtered h (by decide) _ _
  · rw [select_eq, select_eq]
    exact Filtered.bind fun _ => ending_filtered h (by decide) _ _

end

/-- The expression of a condition that can be written is missing exactly if the condition is
vacuous, and otherwise it is not empty. So a statement with a vacuous condition is the one without a
condition, and with any other it has a WHERE clause with exactly this expression. -/
theorem where_omitted_iff {zone : ZoneChoice} {condition : Value} {s? : Option Text}
    (htyped : TypedValue condition) (h : ofValueSql? zone condition = .ok s?) :
    (s? = none ↔ Vacuous condition) ∧
      (Vacuous condition → ∀ table fields data tail,
        update zone table condition data tail = update zone table .null data tail ∧
        delete zone table condition tail = delete zone table .null tail ∧
        select zone table fields condition tail = select zone table fields .null tail) ∧
      (¬Vacuous condition → ∃ s, s? = some s ∧ s ≠ [] ∧ ∀ table fields data tail,
        Filtered s tail (update zone table .null data tail)
          (update zone table condition data tail) ∧
        Filtered s tail (delete zone table .null tail) (delete zone table condition tail) ∧
        Filtered s tail (select zone table fields .null tail)
          (select zone table fields condition tail)) := by
  obtain ⟨hmissing, hnonempty⟩ := ofValueSql?_writtenAs htyped h
  refine ⟨hmissing, fun hvacuous => ?_, fun htests => ?_⟩
  · obtain rfl := hmissing.mpr hvacuous
    exact statements_none h
  · cases s? with
    | none => exact absurd (hmissing.mp rfl) htests
    | some s =>
      exact ⟨s, rfl, fun hs => hnonempty (congrArg some hs), statements_filtered h⟩

/-- Parts without anything to test in every form, below a conjunction. -/
def hollow : Value :=
  .group .list [.text "$And".toList, .null, .group .tuple [.text "$NOT".toList,
    .group .list [.text " \t".toList]], .group .list [.text "$or".toList], .mapping [],
    .node (.negation (.node (.all [.node (.raw (.text [])), .node (.matching (.mapping []))])))]

/-- The same beside an equality. -/
def partlyHollow : Value :=
  .group .list [.text "$or".toList, hollow, .mapping [(.text "a".toList, .null)]]

theorem where_omitted_iff_hollow :
    Vacuous hollow ∧ ¬Vacuous partlyHollow ∧
      Filtered "((`a`=NULL))".toList (.text "LIMIT 3".toList)
        (delete (.ok .utc) (.text "t".toList) .null (.text "LIMIT 3".toList))
        (delete (.ok .utc) (.text "t".toList) partlyHollow (.text "LIMIT 3".toList)) := by
  have hhollow : ofValueSql? (.ok .utc) hollow = .ok none := by decide +kernel
  have hpartly : ofValueSql? (.ok .utc) partlyHollow = .ok (some "((`a`=NULL))".toList) := by
    decide +kernel
  have htyped : TypedValue hollow :=
    ⟨trivial, trivial, ⟨trivial, ⟨trivial, trivial⟩, trivial⟩, ⟨trivial, trivial⟩, trivial,
      ⟨⟨_, rfl⟩, ⟨_, rfl⟩, trivial⟩, trivial⟩
  have htypedPartly : TypedValue partlyHollow := ⟨trivial, htyped, trivial, trivial⟩
  obtain ⟨hmissing, -, hfiltered⟩ :=
    where_omitted_iff htypedPartly hpartly
  have htests : ¬Vacuous partlyHollow := fun h => nomatch hmissing.mpr h
  obtain ⟨s, hs, -, hstatements⟩ := hfiltered htests
  cases hs
  exact ⟨(where_omitted_iff htyped hhollow).1.mp rfl, htests, (hstatements _ .null .null _).2.1⟩

example : delete (.ok .utc) (.text "t".toList) partlyHollow (.text "LIMIT 3".toList) =
    .ok "DELETE FROM `t` WHERE ((`a`=NULL)) LIMIT 3".toList := by decide +kernel

end SqlGateway.Statement
