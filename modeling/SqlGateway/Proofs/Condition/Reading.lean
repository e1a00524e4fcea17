import SqlGateway.Condition.Read

/-!
# Lists by their heads

How a condition list is read depends on its head: a logical tag makes it a junction or a negation,
and without one its length decides. Each kind of list has its equation here, so what is proved about
reading need not look at head and length again.
-/

namespace SqlGateway.Condition

section

variable {head operator v : Value} {rest : List Value}

theorem readList_all (htag : LogicalTag.ofValue? head = some .all) :
    readList (head :: rest) =
      (readOperands rest).map fun cs => some (.all (cs.map .node)) := by
  rw [readList.eq_def]
  simp only [htag]

theorem readList_any (htag : LogicalTag.ofValue? head = some .any) :
    readList (head :: rest) =
      (readOperands rest).map fun cs => some (.any (cs.map .node)) := by
  rw [readList.eq_def]
  simp only [htag]

theorem readList_negation (htag : LogicalTag.ofValue? head = some .negation) :
    readList (head :: v :: rest) =
      (readWith .fragment v).map fun c? => c?.map fun c => .negation (.node c) := by
  rw [readList.eq_def]
  simp only [htag]

theorem readList_lone_negation (htag : LogicalTag.ofValue? head = some .negation) :
    readList [head] = .error .operandMissing := by
  rw [readList.eq_def]
  simp only [htag]

theorem readList_single (htag : LogicalTag.ofValue? head = none) :
    readList [head] = readWith .fragment head := by
  rw [readList.eq_def]
  simp only [htag]

theorem readList_equality (htag : LogicalTag.ofValue? head = none) :
    readList [head, v] = (checkField head).map fun field => some (.equality field v) := by
  rw [readList.eq_def]
  simp only [htag]

theorem readList_comparison (htag : LogicalTag.ofValue? head = none) :
    readList (head :: operator :: v :: rest) = (do
      let field ← checkField head
      return some (← compare field operator v)) := by
  rw [readList.eq_def]
  simp only [htag]

end

/-- A comparison that is made has the parts that it was made of. -/
theorem compare_eq_ok {field operator v : Value} {c : Condition}
    (h : compare field operator v = .ok c) : c = .comparison field operator v := by
  unfold compare at h
  split at h
  · exact (Except.ok.inj h).symm
  · cases h

end SqlGateway.Condition
