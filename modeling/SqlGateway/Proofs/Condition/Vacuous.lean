import SqlGateway.Proofs.Condition.Comparison
import SqlGateway.Proofs.Condition.Reading
import SqlGateway.Proofs.List
import SqlGateway.Proofs.Text.Basic

/-!
# Conditions that test nothing

A condition value is vacuous if there is nothing in it to test: nothing at all, a blank text, an
empty mapping or list, or a list or a tree whose parts are all vacuous. The expression of a
condition is missing for exactly these values, and it is never the empty text
(`ofValueSql?_writtenAs`).

A value is read first and written then, and parts get lost in both: reading drops the operands that
are nothing, writing those that have no expression. Each phase has its theorem here, on values
(`readWith_vacuous`) and on trees (`sql?_vacuous`).
-/

namespace SqlGateway.Condition

open SqlGateway.Sql

/-! ## Blank texts -/

/-- The text has no character but blanks. -/
def IsBlank (s : Text) : Prop := ∀ c ∈ s, Text.isBlank c = true

theorem strip_isEmpty_iff {s : Text} : (Text.strip s).isEmpty = true ↔ IsBlank s := by
  rw [List.isEmpty_iff, Text.strip, Text.stripRight, List.reverse_eq_nil_iff,
    List.dropWhile_eq_nil_iff]
  simp only [List.mem_reverse, Text.stripLeft]
  constructor
  · intro hleft
    -- What is left of the leading blanks begins with a character that is none.
    cases hdrop : s.dropWhile Text.isBlank with
    | nil => exact List.dropWhile_eq_nil_iff.mp hdrop
    | cons c rest =>
      have hblank : Text.isBlank c = true := hleft c (by simp [hdrop])
      have hhead : c ∈ (Text.stripLeft s).head? := by simp [Text.stripLeft, hdrop]
      exact absurd hblank (Text.stripLeft_head hhead)
  · intro hs c hc
    exact hs c ((List.dropWhile_suffix _).subset hc)

/-! ## Vacuous values -/

/-- The collection is read as a condition list. -/
def IsSequence (kind : GroupKind) : Prop := kind = .list ∨ kind = .tuple

theorem readWith_sequence {bare : Value → Condition} {kind : GroupKind} {items : List Value}
    (hkind : IsSequence kind) : readWith bare (.group kind items) = readList items := by
  rcases hkind with rfl | rfl <;> rfl

/-- There is nothing to test in a condition value. -/
inductive Vacuous : Value → Prop
  | null : Vacuous .null
  | text {s : Text} : IsBlank s → Vacuous (.text s)
  | mapping : Vacuous (.mapping [])
  | sequence {kind : GroupKind} : IsSequence kind → Vacuous (.group kind [])
  | single {kind : GroupKind} {v : Value} : IsSequence kind → LogicalTag.ofValue? v = none →
      Vacuous v → Vacuous (.group kind [v])
  | junction {kind : GroupKind} {head : Value} {rest : List Value} : IsSequence kind →
      LogicalTag.ofValue? head = some .all ∨ LogicalTag.ofValue? head = some .any →
      (∀ v ∈ rest, Vacuous v) → Vacuous (.group kind (head :: rest))
  | negated {kind : GroupKind} {head v : Value} {rest : List Value} : IsSequence kind →
      LogicalTag.ofValue? head = some .negation → Vacuous v →
      Vacuous (.group kind (head :: v :: rest))
  | raw {s : Text} : IsBlank s → Vacuous (.node (.raw (.text s)))
  | fragment {s : Text} : IsBlank s → Vacuous (.node (.fragment (.text s)))
  | all {items : List Value} : (∀ v ∈ items, Vacuous v) → Vacuous (.node (.all items))
  | any {items : List Value} : (∀ v ∈ items, Vacuous v) → Vacuous (.node (.any items))
  | negation {c : Condition} : Vacuous (.node c) → Vacuous (.node (.negation (.node c)))
  | matching : Vacuous (.node (.matching (.mapping [])))

mutual

/-- Trusted texts are texts and equalities are given as mappings throughout the tree. -/
def Typed : Condition → Prop
  | .raw v | .fragment v => ∃ s, v = .text s
  | .all items | .any items => TypedValues items
  | .negation inner => TypedValue inner
  | .equality .. | .comparison .. => True
  | .matching v => ∃ entries, v = .mapping entries
termination_by structural c => c

/-- The trees in the value, and in the collections in it, are so. -/
def TypedValue : Value → Prop
  | .node c => c.Typed
  | .group _ items => TypedValues items
  | _ => True
termination_by structural v => v

/-- The trees in the values are so. -/
def TypedValues : List Value → Prop
  | [] => True
  | v :: rest => TypedValue v ∧ TypedValues rest
termination_by structural vs => vs

end

/-! ## Reading -/

/-- The tree that a value was read as, if it was read as one, is typed, and it is vacuous exactly if
the value was; a value that was read as nothing was vacuous. -/
def ReadAs (vacuous : Prop) (c? : Option Condition) : Prop :=
  match c? with
  | none => vacuous
  | some c => c.Typed ∧ (vacuous ↔ Vacuous (.node c))

theorem ReadAs.congr {p q : Prop} {c? : Option Condition} (hpq : p ↔ q) (h : ReadAs p c?) :
    ReadAs q c? := by
  cases c? with
  | none => exact hpq.mp h
  | some c => exact ⟨h.1, hpq.symm.trans h.2⟩

theorem vacuous_text {s : Text} : Vacuous (.text s) ↔ IsBlank s := by
  constructor
  · intro h
    cases h with
    | text h => exact h
  · exact .text

theorem vacuous_raw {s : Text} : Vacuous (.node (.raw (.text s))) ↔ IsBlank s := by
  constructor
  · intro h
    cases h with
    | raw h => exact h
  · exact .raw

theorem vacuous_fragment {s : Text} : Vacuous (.node (.fragment (.text s))) ↔ IsBlank s := by
  constructor
  · intro h
    cases h with
    | fragment h => exact h
  · exact .fragment

theorem vacuous_all {items : List Value} :
    Vacuous (.node (.all items)) ↔ ∀ v ∈ items, Vacuous v := by
  constructor
  · intro h
    cases h with
    | all h => exact h
  · exact .all

theorem vacuous_any {items : List Value} :
    Vacuous (.node (.any items)) ↔ ∀ v ∈ items, Vacuous v := by
  constructor
  · intro h
    cases h with
    | any h => exact h
  · exact .any

theorem vacuous_negation {c : Condition} :
    Vacuous (.node (.negation (.node c))) ↔ Vacuous (.node c) := by
  constructor
  · intro h
    cases h with
    | negation h => exact h
  · exact .negation

theorem vacuous_matching {entries : List (Value × Value)} :
    Vacuous (.node (.matching (.mapping entries))) ↔ entries = [] := by
  constructor
  · intro h
    cases h
    rfl
  · rintro rfl
    exact .matching

theorem vacuous_mapping {entries : List (Value × Value)} :
    Vacuous (.mapping entries) ↔ entries = [] := by
  constructor
  · intro h
    cases h
    rfl
  · rintro rfl
    exact .mapping

section

variable {kind : GroupKind} {head v : Value} {rest : List Value}

theorem vacuous_junction (hkind : IsSequence kind)
    (htag : LogicalTag.ofValue? head = some .all ∨ LogicalTag.ofValue? head = some .any) :
    Vacuous (.group kind (head :: rest)) ↔ ∀ v ∈ rest, Vacuous v := by
  constructor
  · intro h
    cases h with
    | single _ hnone _ => rcases htag with htag | htag <;> rw [hnone] at htag <;> cases htag
    | junction _ _ h => exact h
    | negated _ hnegation _ =>
      rcases htag with htag | htag <;> rw [hnegation] at htag <;> cases htag
  · exact .junction hkind htag

theorem vacuous_negated (hkind : IsSequence kind)
    (htag : LogicalTag.ofValue? head = some .negation) :
    Vacuous (.group kind (head :: v :: rest)) ↔ Vacuous v := by
  constructor
  · intro h
    cases h with
    | junction _ hjunction _ =>
      rcases hjunction with hjunction | hjunction <;> rw [htag] at hjunction <;> cases hjunction
    | negated _ _ h => exact h
  · exact .negated hkind htag

theorem vacuous_single (hkind : IsSequence kind) (htag : LogicalTag.ofValue? v = none) :
    Vacuous (.group kind [v]) ↔ Vacuous v := by
  constructor
  · intro h
    cases h with
    | single _ _ h => exact h
    | junction _ hjunction _ =>
      rcases hjunction with hjunction | hjunction <;> rw [htag] at hjunction <;> cases hjunction
  · exact .single hkind htag

/-- A field with something to compare it with is a test. -/
theorem not_vacuous_test (htag : LogicalTag.ofValue? head = none) :
    ¬Vacuous (.group kind (head :: v :: rest)) := by
  intro h
  cases h with
  | junction _ hjunction _ =>
    rcases hjunction with hjunction | hjunction <;> rw [htag] at hjunction <;> cases hjunction
  | negated _ hnegation _ =>
    rw [htag] at hnegation
    cases hnegation

end

/-- A text that stands alone is read as a tree that is vacuous if the text is blank. -/
theorem readAs_bare {bare : Value → Condition} (hbare : bare = .raw ∨ bare = .fragment) (s : Text) :
    ReadAs (Vacuous (.text s)) (some (bare (.text s))) := by
  rcases hbare with rfl | rfl
  · exact ⟨⟨s, rfl⟩, vacuous_text.trans vacuous_raw.symm⟩
  · exact ⟨⟨s, rfl⟩, vacuous_text.trans vacuous_fragment.symm⟩

/-- A test that is written in a list is read as a tree that is no more vacuous than the list. -/
theorem readAs_test {kind : GroupKind} {head v : Value} {rest : List Value} {c : Condition}
    (htag : LogicalTag.ofValue? head = none) (htyped : c.Typed) (hc : ¬Vacuous (.node c)) :
    ReadAs (Vacuous (.group kind (head :: v :: rest))) (some c) :=
  ⟨htyped, iff_of_false (not_vacuous_test htag) hc⟩

mutual

/-- A value is read as nothing only if it is vacuous, and as a vacuous tree exactly if it is. -/
theorem readWith_vacuous {bare : Value → Condition} (hbare : bare = .raw ∨ bare = .fragment) :
    ∀ {v : Value} {c? : Option Condition}, TypedValue v → readWith bare v = .ok c? →
      ReadAs (Vacuous v) c?
  | .null, _, _, h => by
    cases h
    exact .null
  | .node c, _, hv, h => by
    cases h
    exact ⟨hv, Iff.rfl⟩
  | .text s, _, _, h => by
    cases h
    exact readAs_bare hbare s
  | .mapping entries, _, _, h => by
    cases h
    exact ⟨⟨entries, rfl⟩, vacuous_mapping.trans vacuous_matching.symm⟩
  | .group .list items, _, hv, h => readList_vacuous (Or.inl rfl) hv h
  | .group .tuple items, _, hv, h => readList_vacuous (Or.inr rfl) hv h
  | .group .set _, _, _, h | .group .frozenSet _, _, _, h | .bool _, _, _, h | .number _ _, _, _, h
  | .date _, _, _, h | .moment _, _, _, h | .blob _ _, _, _, h | .span _, _, _, h
  | .foreign _ _ _, _, _, h => by cases h
termination_by structural v => v

/-- So it is with a list. -/
theorem readList_vacuous {kind : GroupKind} (hkind : IsSequence kind) :
    ∀ {items : List Value} {c? : Option Condition}, TypedValues items → readList items = .ok c? →
      ReadAs (Vacuous (.group kind items)) c?
  | [], _, _, h => by
    cases h
    exact .sequence hkind
  | head :: rest, c?, hitems, h => by
    cases htag : LogicalTag.ofValue? head with
    | none =>
      cases rest with
      | nil =>
        rw [readList_single htag] at h
        exact (readWith_vacuous (Or.inr rfl) hitems.1 h).congr (vacuous_single hkind htag).symm
      | cons next more =>
        cases more with
        | nil =>
          rw [readList_equality htag] at h
          obtain ⟨field, -, rfl⟩ := map_eq_ok.mp h
          exact readAs_test htag trivial nofun
        | cons value more =>
          rw [readList_comparison htag] at h
          obtain ⟨field, -, h⟩ := bind_eq_ok.mp h
          obtain ⟨c, hc, h⟩ := bind_eq_ok.mp h
          cases compare_eq_ok hc
          cases h
          exact readAs_test htag trivial nofun
    | some tag =>
      cases tag with
      | all =>
        rw [readList_all htag] at h
        obtain ⟨cs, hcs, rfl⟩ := map_eq_ok.mp h
        obtain ⟨htyped, hiff⟩ := readOperands_vacuous hitems.2 hcs
        refine ⟨htyped, (vacuous_junction hkind (Or.inl htag)).trans (hiff.trans ?_)⟩
        rw [vacuous_all, List.forall_mem_map]
      | any =>
        rw [readList_any htag] at h
        obtain ⟨cs, hcs, rfl⟩ := map_eq_ok.mp h
        obtain ⟨htyped, hiff⟩ := readOperands_vacuous hitems.2 hcs
        refine ⟨htyped, (vacuous_junction hkind (Or.inr htag)).trans (hiff.trans ?_)⟩
        rw [vacuous_any, List.forall_mem_map]
      | negation =>
        cases rest with
        | nil =>
          rw [readList_lone_negation htag] at h
          cases h
        | cons operand more =>
          rw [readList_negation htag] at h
          obtain ⟨c?, hc, rfl⟩ := map_eq_ok.mp h
          have hoperand : ReadAs (Vacuous (.group kind (head :: operand :: more))) c? :=
            (readWith_vacuous (Or.inr rfl) hitems.2.1 hc).congr (vacuous_negated hkind htag).symm
          cases c? with
          | none => exact hoperand
          | some c => exact ⟨hoperand.1, hoperand.2.trans vacuous_negation.symm⟩
termination_by structural items => items

/-- Operands are all vacuous exactly if the trees that they are read as are. -/
theorem readOperands_vacuous : ∀ {items : List Value} {cs : List Condition}, TypedValues items →
    readOperands items = .ok cs →
      TypedValues (cs.map .node) ∧ ((∀ v ∈ items, Vacuous v) ↔ ∀ c ∈ cs, Vacuous (.node c))
  | [], _, _, h => by
    cases h
    exact ⟨trivial, by simp⟩
  | v :: rest, _, hitems, h => by
    obtain ⟨c?, hc, h⟩ := bind_eq_ok.mp h
    obtain ⟨cs, hcs, h⟩ := bind_eq_ok.mp h
    cases h
    have hfirst := readWith_vacuous (Or.inr rfl) hitems.1 hc
    obtain ⟨htyped, hiff⟩ := readOperands_vacuous hitems.2 hcs
    rw [List.forall_mem_cons, hiff]
    cases c? with
    | none =>
      have hv : Vacuous v := hfirst
      exact ⟨htyped, by simp [hv]⟩
    | some c => exact ⟨⟨hfirst.1, htyped⟩, by simp [hfirst.2]⟩
termination_by structural items => items

end

/-! ## Writing -/

/-- An expression is missing exactly where there is nothing to test, and none is the empty text. -/
def WrittenAs (vacuous : Prop) (s? : Option Text) : Prop :=
  (s? = none ↔ vacuous) ∧ s? ≠ some []

section

variable {zone : ZoneChoice}

theorem writtenAs_text {vacuous : Prop} {c : Char} {s : Text} (hc : ¬vacuous) :
    WrittenAs vacuous (some (c :: s)) := ⟨iff_of_false nofun hc, nofun⟩

theorem writtenAs_parenthesize {vacuous : Prop} {s : Text} (hc : ¬vacuous) :
    WrittenAs vacuous (some (parenthesize s)) := writtenAs_text hc

theorem writtenAs_trusted {s : Text} {s? : Option Text} (h : trusted (.text s) = .ok s?) :
    WrittenAs (IsBlank s) s? := by
  cases h
  by_cases hblank : IsBlank s
  · rw [if_pos (strip_isEmpty_iff.mpr hblank)]
    exact ⟨iff_of_true rfl hblank, nofun⟩
  · rw [if_neg fun h => hblank (strip_isEmpty_iff.mp h)]
    refine ⟨iff_of_false nofun hblank, fun hempty => hblank ?_⟩
    cases hempty
    exact List.forall_mem_nil _

theorem writtenAs_junction {keyword : String} {parts : List Text} :
    WrittenAs (parts = []) (junction? keyword parts) := by
  cases parts with
  | nil => exact ⟨iff_of_true rfl rfl, nofun⟩
  | cons s parts => exact writtenAs_parenthesize nofun

theorem membership_parenthesized {column : Text} {negated : Bool} {v : Value} {s : Text}
    (h : membership zone column negated v = .ok s) : ∃ t, s = parenthesize t := by
  unfold membership at h
  split at h
  · obtain ⟨lit, -, h⟩ := bind_eq_ok.mp h
    cases h
    exact ⟨_, rfl⟩
  · cases h
    cases negated
    · exact ⟨"1=0".toList, rfl⟩
    · exact ⟨"1=1".toList, rfl⟩
  · obtain ⟨lit, -, h⟩ := bind_eq_ok.mp h
    cases h
    exact ⟨_, rfl⟩

/-- Every comparison is written in parentheses. -/
theorem comparison_parenthesized {field spelling v : Value} {s? : Option Text}
    (h : sql? zone (.comparison field spelling v) = .ok s?) : ∃ s, s? = some (parenthesize s) := by
  cases hspelling : Operator.ofValue? spelling with
  | none =>
    rw [sql?_unknown hspelling] at h
    cases h
  | some operator =>
    rcases operator_cases operator with ⟨negated, rfl⟩ | ⟨negated, rfl⟩ | ho
    · by_cases hv : IsNode v
      · obtain ⟨c, rfl⟩ := hv
        rw [sql?, hspelling] at h
        obtain ⟨s, -, h⟩ := bind_eq_ok.mp h
        cases h
        exact ⟨_, rfl⟩
      · rw [sql?_member hspelling hv] at h
        obtain ⟨s, hs, rfl⟩ := map_eq_ok.mp h
        obtain ⟨t, rfl⟩ := membership_parenthesized hs
        exact ⟨t, rfl⟩
    · rw [sql?_range hspelling] at h
      obtain ⟨texts, -, rfl⟩ := map_eq_ok.mp h
      exact ⟨_, rfl⟩
    · rw [sql?_plain hspelling ho] at h
      obtain ⟨s, -, rfl⟩ := map_eq_ok.mp h
      exact ⟨_, rfl⟩

theorem writtenAs_matching {entries : List (Value × Value)} {s? : Option Text}
    (h : sql? zone (.matching (.mapping entries)) = .ok s?) : WrittenAs (entries = []) s? := by
  cases entries with
  | nil =>
    cases h
    exact ⟨iff_of_true rfl rfl, nofun⟩
  | cons entry entries =>
    obtain ⟨parts, hparts, h⟩ := bind_eq_ok.mp h
    cases h
    obtain ⟨s, -, hparts⟩ := bind_eq_ok.mp hparts
    obtain ⟨rest, -, hparts⟩ := bind_eq_ok.mp hparts
    cases hparts
    refine ⟨iff_of_false nofun nofun, fun hempty => ?_⟩
    refine intercalate_ne_nil ?_ (Option.some.inj hempty)
    exact List.append_ne_nil_of_right_ne_nil _ nofun

end

mutual

/-- The expression of a tree is missing exactly if the tree is vacuous. -/
theorem sql?_vacuous {zone : ZoneChoice} : ∀ {c : Condition} {s? : Option Text}, c.Typed →
    c.sql? zone = .ok s? → WrittenAs (Vacuous (.node c)) s?
  | .raw v, _, hc, h => by
    obtain ⟨s, rfl⟩ := hc
    rw [vacuous_raw]
    exact writtenAs_trusted h
  | .fragment v, _, hc, h => by
    obtain ⟨s, rfl⟩ := hc
    obtain ⟨s?, hs, h⟩ := bind_eq_ok.mp h
    cases h
    have hwritten := writtenAs_trusted hs
    rw [vacuous_fragment]
    cases s? with
    | none => exact hwritten
    | some t => exact writtenAs_parenthesize fun hblank => nomatch hwritten.1.mpr hblank
  | .all items, _, hc, h => by
    obtain ⟨parts, hparts, h⟩ := bind_eq_ok.mp h
    cases h
    rw [vacuous_all, ← operands_vacuous hc hparts]
    exact writtenAs_junction
  | .any items, _, hc, h => by
    obtain ⟨parts, hparts, h⟩ := bind_eq_ok.mp h
    cases h
    rw [vacuous_any, ← operands_vacuous hc hparts]
    exact writtenAs_junction
  | .negation (.node c), _, hc, h => by
    obtain ⟨s?, hs, h⟩ := bind_eq_ok.mp h
    cases h
    have hinner := sql?_vacuous (c := c) hc hs
    rw [vacuous_negation]
    cases s? with
    | none => exact hinner
    | some t => exact writtenAs_parenthesize fun hvacuous => nomatch hinner.1.mpr hvacuous
  | .equality field v, _, _, h => by
    obtain ⟨s, -, h⟩ := bind_eq_ok.mp h
    cases h
    exact writtenAs_parenthesize nofun
  | .comparison field spelling v, _, _, h => by
    obtain ⟨s, rfl⟩ := comparison_parenthesized h
    exact writtenAs_parenthesize nofun
  | .matching v, _, hc, h => by
    obtain ⟨entries, rfl⟩ := hc
    rw [vacuous_matching]
    exact writtenAs_matching h
termination_by structural c => c

/-- No operand has an expression exactly if all are vacuous. -/
theorem operands_vacuous {zone : ZoneChoice} : ∀ {items : List Value} {parts : List Text},
    TypedValues items → operands zone items = .ok parts →
      (parts = [] ↔ ∀ v ∈ items, Vacuous v)
  | [], _, _, h => by
    cases h
    simp
  | .node c :: rest, _, hitems, h => by
    obtain ⟨s?, hs, h⟩ := bind_eq_ok.mp h
    obtain ⟨parts, hparts, h⟩ := bind_eq_ok.mp h
    cases h
    have hfirst := (sql?_vacuous (c := c) hitems.1 hs).1
    have hrest := operands_vacuous hitems.2 hparts
    rw [List.forall_mem_cons, ← hfirst, ← hrest]
    cases s? with
    | none => simp
    | some s => simp
termination_by structural items => items

end

/-- The expression of a condition value is missing exactly if the value is vacuous. -/
theorem ofValueSql?_writtenAs {zone : ZoneChoice} {v : Value} {s? : Option Text}
    (hv : TypedValue v) (h : ofValueSql? zone v = .ok s?) : WrittenAs (Vacuous v) s? := by
  obtain ⟨c?, hread, h⟩ := bind_eq_ok.mp h
  have hreadAs := readWith_vacuous (Or.inl rfl) hv hread
  cases c? with
  | none =>
    cases h
    exact ⟨iff_of_true rfl hreadAs, nofun⟩
  | some c =>
    obtain ⟨htyped, hiff⟩ := hreadAs
    obtain ⟨hmissing, hnonempty⟩ := sql?_vacuous htyped h
    exact ⟨hmissing.trans hiff.symm, hnonempty⟩

end SqlGateway.Condition
