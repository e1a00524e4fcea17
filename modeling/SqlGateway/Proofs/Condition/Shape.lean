import SqlGateway.Proofs.Condition.Mention

/-!
# Values and the shape of an expression

The shape of a condition is what is left of it without the compared values. The expressions of two
conditions of one shape mention the same identifiers as long as no value that is compared directly
is a mapping with keys to name, and then these are the columns and nothing else
(`mentions?_condition`). A mapping that is compared directly does name its keys.
-/

namespace SqlGateway.Condition

open SqlGateway.Sql

/-! ## Shapes -/

mutual

/-- The condition with null in the place of every compared value. -/
def shape : Condition → Condition
  | .all items => .all (itemShapes items)
  | .any items => .any (itemShapes items)
  | .negation (.node c) => .negation (.node c.shape)
  | .equality field _ => .equality field .null
  | .comparison field spelling _ => .comparison field spelling .null
  | .matching (.mapping entries) =>
    .matching (.mapping (entries.map fun entry => (entry.1, .null)))
  | c => c
termination_by structural c => c

/-- The operands with null in the place of every compared value. -/
def itemShapes : List Value → List Value
  | [] => []
  | .node c :: rest => .node c.shape :: itemShapes rest
  | v :: rest => v :: itemShapes rest
termination_by structural items => items

end

mutual

/-- No column is tested for being in an empty collection. -/
def Filled : Condition → Prop
  | .all items | .any items => FilledItems items
  | .negation inner => FilledItem inner
  | .comparison _ spelling v =>
    ∀ negated, Operator.ofValue? spelling = some (.member negated) → v.elements? ≠ some []
  | _ => True
termination_by structural c => c

/-- The operand, if it is a condition, has no test for being in an empty collection. -/
def FilledItem : Value → Prop
  | .node c => c.Filled
  | _ => True
termination_by structural v => v

/-- The operands have no test for being in an empty collection. -/
def FilledItems : List Value → Prop
  | [] => True
  | v :: rest => FilledItem v ∧ FilledItems rest
termination_by structural vs => vs

end

theorem entryLeaves_shape (entries : List (Value × Value)) :
    (entryLeaves (entries.map fun entry => (entry.1, .null))).map Leaf.column =
      (entryLeaves entries).map Leaf.column := by
  induction entries with
  | nil => rfl
  | cons entry entries ih =>
    obtain ⟨field, v⟩ := entry
    cases field with
    | text column => exact congrArg (column :: ·) ih
    | _ => exact ih

theorem comparisonLeaves_columns {column : Text} {operator : Operator} {v : Value}
    (h : ∀ negated, operator = .member negated → v.elements? ≠ some []) :
    (comparisonLeaves column operator v).map Leaf.column = [column] := by
  rcases operator_cases operator with ⟨negated, rfl⟩ | ⟨negated, rfl⟩ | ho
  · rw [comparisonLeaves]
    split
    · next hempty => exact absurd hempty (h negated rfl)
    · rfl
  · rfl
  · rw [comparisonLeaves_plain ho]
    rfl

mutual

/-- A condition without empty collections has the columns of its shape. -/
theorem leaves_shape : ∀ {c : Condition}, c.Filled →
    c.shape.leaves.map Leaf.column = c.leaves.map Leaf.column
  | .raw _, _ => rfl
  | .fragment _, _ => rfl
  | .all _, hc => itemLeaves_shape hc
  | .any _, hc => itemLeaves_shape hc
  | .negation inner, hc => by
    cases inner with
    | node c => exact leaves_shape (c := c) hc
    | _ => rfl
  | .equality field _, _ => by cases field <;> rfl
  | .comparison field spelling v, hc => by
    cases field with
    | text column =>
      simp only [shape, leaves]
      cases hspelling : Operator.ofValue? spelling with
      | none => rfl
      | some operator =>
        dsimp only
        rw [comparisonLeaves_columns (v := .null) (fun _ _ => nofun),
          comparisonLeaves_columns fun negated he => hc negated (he ▸ hspelling)]
    | _ => rfl
  | .matching v, _ => by
    cases v with
    | mapping entries => exact entryLeaves_shape entries
    | _ => rfl
termination_by structural c => c

/-- Operands without empty collections have the columns of their shapes. -/
theorem itemLeaves_shape : ∀ {items : List Value}, FilledItems items →
    (itemLeaves (itemShapes items)).map Leaf.column = (itemLeaves items).map Leaf.column
  | [], _ => rfl
  | v :: rest, hitems => by
    have hrest := itemLeaves_shape hitems.2
    cases v with
    | node c =>
      rw [itemShapes, itemLeaves, itemLeaves, List.map_append, List.map_append,
        leaves_shape (c := c) hitems.1, hrest]
    | _ => exact hrest
termination_by structural items => items

end

/-! ## What an expression mentions -/

/-- No value of the leaf is a mapping with keys to name. -/
def Leaf.IsPlain (leaf : Leaf) : Prop := ∀ v ∈ leaf.values, assigned v = []

theorem length_le_names (written : List Leaf) :
    written.length ≤ (written.flatMap Leaf.names).length := by
  induction written with
  | nil => exact Nat.le_refl 0
  | cons leaf written ih =>
    simp only [List.flatMap_cons, List.length_append, List.length_cons, Leaf.names]
    omega

theorem names_eq_columns_iff (written : List Leaf) :
    written.flatMap Leaf.names = written.map Leaf.column ↔ ∀ leaf ∈ written, leaf.IsPlain := by
  induction written with
  | nil => simp
  | cons leaf written ih =>
    rw [List.flatMap_cons, List.map_cons, List.forall_mem_cons, ← ih]
    constructor
    · intro h
      have htail : leaf.values.flatMap assigned ++ written.flatMap Leaf.names =
          written.map Leaf.column := by simpa [Leaf.names] using h
      have hlength := congrArg List.length htail
      have hle := length_le_names written
      rw [List.length_append, List.length_map] at hlength
      have hnone : leaf.values.flatMap assigned = [] :=
        List.length_eq_zero_iff.mp (by omega)
      rw [hnone, List.nil_append] at htail
      exact ⟨List.flatMap_eq_nil_iff.mp hnone, htail⟩
    · rintro ⟨hplain, hrest⟩
      have hnone : leaf.values.flatMap assigned = [] := List.flatMap_eq_nil_iff.mpr hplain
      rw [Leaf.names, hnone, hrest]
      rfl

theorem columns_eq_of_shape_eq {c d : Condition} (hc : c.Filled) (hd : d.Filled)
    (h : d.shape = c.shape) : d.leaves.map Leaf.column = c.leaves.map Leaf.column := by
  rw [← leaves_shape hd, h, leaves_shape hc]

section

variable {zone : ZoneChoice} {v : Value} {c : Condition} {s : Text}

theorem mentions?_names (hread : Condition.read v = .ok (some c)) (hc : c.Untrusted)
    (h : ofValueSql? zone v = .ok (some s)) :
    mentions? s = some (c.leaves.flatMap Leaf.names) := by
  rw [ofValueSql?, hread] at h
  exact (mentions_sql? hc h).all

/-- The identifiers are the columns exactly if no value that is compared directly has keys to
name. -/
theorem mentions?_columns_iff (hread : Condition.read v = .ok (some c)) (hc : c.Untrusted)
    (h : ofValueSql? zone v = .ok (some s)) :
    mentions? s = some (c.leaves.map Leaf.column) ↔ ∀ leaf ∈ c.leaves, leaf.IsPlain := by
  rw [mentions?_names hread hc h, Option.some.injEq, names_eq_columns_iff]

/-- The expression of an untrusted condition mentions the columns of its leaves in order, and behind
each the keys of the mappings compared with it. So it mentions the columns and nothing else exactly
if there are no such keys, and then the identifiers depend on the shape of the condition alone. -/
theorem mentions?_condition (hread : Condition.read v = .ok (some c)) (hc : c.Untrusted)
    (h : ofValueSql? zone v = .ok (some s)) :
    mentions? s = some (c.leaves.flatMap Leaf.names) ∧
      (mentions? s = some (c.leaves.map Leaf.column) ↔ ∀ leaf ∈ c.leaves, leaf.IsPlain) ∧
      ∀ {otherZone w d t}, Condition.read w = .ok (some d) → d.Untrusted →
        ofValueSql? otherZone w = .ok (some t) → d.shape = c.shape → c.Filled → d.Filled →
        (∀ leaf ∈ c.leaves, leaf.IsPlain) → (∀ leaf ∈ d.leaves, leaf.IsPlain) →
        mentions? t = mentions? s := by
  refine ⟨mentions?_names hread hc h, mentions?_columns_iff hread hc h, ?_⟩
  intro otherZone w d t hread' hd h' hshape hfilled hfilled' hplain hplain'
  rw [(mentions?_columns_iff hread hc h).mpr hplain,
    (mentions?_columns_iff hread' hd h').mpr hplain',
    columns_eq_of_shape_eq hfilled hfilled' hshape]

/-- A column compared with a mapping. -/
def nestedMapping : Value :=
  .mapping [(.text "a".toList, .mapping [(.text "b".toList, .number (.integer 1) none)])]

theorem untrusted_nestedMapping : (Condition.matching nestedMapping).Untrusted := by
  rintro entries ⟨⟩ entry hentry
  obtain rfl := List.mem_singleton.mp hentry
  exact ⟨⟨_, rfl, by decide⟩, nofun⟩

theorem ofValueSql?_nestedMapping :
    ofValueSql? (.ok .utc) nestedMapping = .ok (some "`a`=`b`=1".toList) := by decide +kernel

/-- A mapping in the place of a value names its key beside the column. -/
theorem mentions?_condition_mapping :
    mentions? "`a`=`b`=1".toList = some ["a".toList, "b".toList] :=
  (mentions?_condition (v := nestedMapping) rfl untrusted_nestedMapping
    ofValueSql?_nestedMapping).1

/-- There is a condition without trusted texts whose expression mentions more than its columns. -/
theorem exists_mentions?_ne_columns :
    ∃ v c s, Condition.read v = .ok (some c) ∧ c.Untrusted ∧
      ofValueSql? (.ok .utc) v = .ok (some s) ∧ mentions? s ≠ some (c.leaves.map Leaf.column) := by
  refine ⟨nestedMapping, .matching nestedMapping, _, rfl, untrusted_nestedMapping,
    ofValueSql?_nestedMapping, ?_⟩
  intro hcolumns
  have hplain := (mentions?_columns_iff (v := nestedMapping) (c := .matching nestedMapping) rfl
    untrusted_nestedMapping ofValueSql?_nestedMapping).mp hcolumns
  have hkeys := hplain _ (List.mem_cons_self ..) _ (List.mem_cons_self ..)
  cases hkeys

end

end SqlGateway.Condition
