import Mathlib.Data.List.ReduceOption
import SqlGateway.Proofs.Condition.Reading
import SqlGateway.Proofs.Condition.Spelling

/-!
# The grammar of condition values

Reading accepts exactly the values of a grammar (`IsConditionValue`) and refuses every other value
with an error of the condition. Some values of the grammar are read as nothing: null, the empty
list, and lists and negations around such a value (`IsNothing`). A junction has the trees of its
operands as items, without those that are nothing (`read_grammar`).

The induction is on the value. `Judged` says of a value and what came of reading it all that is
claimed of the two, so that acceptance, emptiness and the kind of error go through it together.
-/

namespace SqlGateway.Condition

/-! ## The grammar -/

/-- The value spells an operator: its text, in capitals and with one space between its words, is how
the operator is written. -/
def IsOperator (v : Value) : Prop := ∃ o : Operator, Operator.normalize v.plain = o.text

/-- The value has the form of a condition. An operand is a text or a condition value, and a text is
a condition value too. -/
inductive IsConditionValue : Value → Prop
  | null : IsConditionValue .null
  | node (c : Condition) : IsConditionValue (.node c)
  | text (s : Text) : IsConditionValue (.text s)
  | mapping (entries : List (Value × Value)) : IsConditionValue (.mapping entries)
  | empty {kind : GroupKind} : IsSequence kind → IsConditionValue (.group kind [])
  | junction {kind : GroupKind} {head : Value} {operands : List Value} : IsSequence kind →
      IsTag .all head ∨ IsTag .any head → (∀ v ∈ operands, IsConditionValue v) →
      IsConditionValue (.group kind (head :: operands))
  | negation {kind : GroupKind} {head operand : Value} {ignored : List Value} : IsSequence kind →
      IsTag .negation head → IsConditionValue operand →
      IsConditionValue (.group kind (head :: operand :: ignored))
  | single {kind : GroupKind} {operand : Value} : IsSequence kind →
      (∀ tag, ¬IsTag tag operand) → IsConditionValue operand →
      IsConditionValue (.group kind [operand])
  | equality {kind : GroupKind} {field v : Value} : IsSequence kind → IsField field →
      IsConditionValue (.group kind [field, v])
  | comparison {kind : GroupKind} {field operator v : Value} {ignored : List Value} :
      IsSequence kind → IsField field → IsOperator operator →
      IsConditionValue (.group kind (field :: operator :: v :: ignored))

/-- There is no condition in the value. -/
inductive IsNothing : Value → Prop
  | null : IsNothing .null
  | empty {kind : GroupKind} : IsSequence kind → IsNothing (.group kind [])
  | single {kind : GroupKind} {v : Value} : IsSequence kind → IsNothing v →
      IsNothing (.group kind [v])
  | negation {kind : GroupKind} {head operand : Value} {ignored : List Value} : IsSequence kind →
      IsTag .negation head → IsNothing operand →
      IsNothing (.group kind (head :: operand :: ignored))

theorem IsNothing.isConditionValue {v : Value} (h : IsNothing v) : IsConditionValue v := by
  induction h with
  | null => exact .null
  | empty hkind => exact .empty hkind
  | single hkind hnothing ih =>
    refine .single hkind ?_ ih
    rintro tag ⟨s, rfl, -⟩
    cases hnothing
  | negation hkind htag _ ih => exact .negation hkind htag ih

/-- The tree of an operand. A text is a fragment; anything else is read as a condition value. -/
def readOperand : Value → Except Fault (Option Condition)
  | .text s => .ok (some (.fragment (.text s)))
  | v => read v

theorem readWith_fragment (v : Value) : readWith .fragment v = readOperand v := by
  cases v with
  | group kind items => cases kind <;> rfl
  | _ => rfl

/-! ## Tags, fields and operators -/

section

variable {tag : LogicalTag} {v : Value}

theorem isTag_iff : IsTag tag v ↔ LogicalTag.ofValue? v = some tag := by
  constructor
  · exact IsTag.ofValue?
  · intro h
    obtain ⟨s, hs, htag⟩ := Option.bind_eq_some_iff.mp h
    cases v with
    | text t => exact ⟨t, rfl, Option.some.inj hs ▸ LogicalTag.read?_eq_some_iff.mp htag⟩
    | _ => cases hs

theorem ofValue?_eq_none_iff : LogicalTag.ofValue? v = none ↔ ∀ tag, ¬IsTag tag v := by
  simp only [isTag_iff, Option.eq_none_iff_forall_ne_some, ne_eq]

theorem IsTag.unique {tag' : LogicalTag} (h : IsTag tag v) (h' : IsTag tag' v) : tag = tag' :=
  Option.some.inj (h.ofValue?.symm.trans h'.ofValue?)

theorem IsField.not_isTag (h : IsField v) : ¬IsTag tag v := by
  intro htag
  have hnone := h.ofValue?
  rw [htag.ofValue?] at hnone
  cases hnone

theorem not_isTag_negation (h : IsTag .all v ∨ IsTag .any v) : ¬IsTag .negation v := by
  intro hnegation
  rcases h with h | h <;> cases h.unique hnegation

/-- A value that is no tag is a field, or it is refused as one. -/
theorem checkField_cases (h : ∀ tag, ¬IsTag tag v) :
    (IsField v ∧ checkField v = .ok v) ∨
      (¬IsField v ∧ checkField v = .error (.badField v.display)) := by
  have hrefused : (∀ s, v = .text s → s = []) →
      ¬IsField v ∧ checkField v = .error (.badField v.display) := by
    intro hempty
    constructor
    · rintro ⟨s, hs, hne, -⟩
      exact hne (hempty s hs)
    · unfold checkField
      split
      · cases hempty _ rfl
      · rfl
  cases v with
  | text s =>
    cases s with
    | nil => exact Or.inr (hrefused fun s hs => by cases hs; rfl)
    | cons c s =>
      have hfield : IsField (.text (c :: s)) :=
        ⟨_, rfl, nofun, fun tag htag => h tag ⟨_, rfl, htag⟩⟩
      exact Or.inl ⟨hfield, hfield.check⟩
  | _ => exact Or.inr (hrefused nofun)

theorem isOperator_iff : IsOperator v ↔ ∃ o, Operator.ofValue? v = some o := by
  constructor
  · rintro ⟨o, ho⟩
    refine Option.isSome_iff_exists.mp (List.find?_isSome.mpr ⟨o, Operator.mem_all o, ?_⟩)
    exact decide_eq_true ho.symm
  · rintro ⟨o, ho⟩
    have hspelled := List.find?_some ho
    exact ⟨o, (of_decide_eq_true hspelled).symm⟩

/-- A comparison is built with an operator, and refused with anything else in its place. -/
theorem compare_cases (field operator v : Value) :
    (IsOperator operator ∧ compare field operator v = .ok (.comparison field operator v)) ∨
      (¬IsOperator operator ∧
        compare field operator v = .error (.badOperator operator.inSentence)) := by
  rw [isOperator_iff, compare]
  cases hoperator : Operator.ofValue? operator with
  | none => exact Or.inr ⟨nofun, rfl⟩
  | some o => exact Or.inl ⟨⟨o, rfl⟩, rfl⟩

end

/-! ## The forms of a list -/

section

variable {kind : GroupKind} {head operator v : Value} {rest : List Value}

theorem IsConditionValue.isSequence (h : IsConditionValue (.group kind rest)) :
    IsSequence kind := by
  cases h with
  | empty h | junction h _ _ | negation h _ _ | single h _ _ | equality h _ | comparison h _ _ =>
    exact h

theorem isConditionValue_junction (hkind : IsSequence kind)
    (htag : IsTag .all head ∨ IsTag .any head) :
    IsConditionValue (.group kind (head :: rest)) ↔ ∀ v ∈ rest, IsConditionValue v := by
  have hfield : ¬IsField head := fun h => htag.elim h.not_isTag h.not_isTag
  constructor
  · intro h
    cases h with
    | junction _ _ h => exact h
    | negation _ hnegation _ => exact absurd hnegation (not_isTag_negation htag)
    | single _ hnone _ => exact (htag.elim (hnone _) (hnone _)).elim
    | equality _ h => exact absurd h hfield
    | comparison _ h _ => exact absurd h hfield
  · exact .junction hkind htag

theorem isConditionValue_negation (hkind : IsSequence kind) (htag : IsTag .negation head) :
    IsConditionValue (.group kind (head :: v :: rest)) ↔ IsConditionValue v := by
  constructor
  · intro h
    cases h with
    | junction _ hjunction _ => exact absurd htag (not_isTag_negation hjunction)
    | negation _ _ h => exact h
    | equality _ h => exact absurd htag h.not_isTag
    | comparison _ h _ => exact absurd htag h.not_isTag
  · exact .negation hkind htag

theorem not_isConditionValue_negation (htag : IsTag .negation head) :
    ¬IsConditionValue (.group kind [head]) := by
  intro h
  cases h with
  | junction _ hjunction _ => exact not_isTag_negation hjunction htag
  | single _ hnone _ => exact hnone _ htag

theorem isConditionValue_single (hkind : IsSequence kind) (htag : ∀ tag, ¬IsTag tag v) :
    IsConditionValue (.group kind [v]) ↔ IsConditionValue v := by
  constructor
  · intro h
    cases h with
    | junction _ hjunction _ => exact (hjunction.elim (htag _) (htag _)).elim
    | single _ _ h => exact h
  · exact .single hkind htag

theorem isConditionValue_equality (hkind : IsSequence kind) (htag : ∀ tag, ¬IsTag tag head) :
    IsConditionValue (.group kind [head, v]) ↔ IsField head := by
  constructor
  · intro h
    cases h with
    | junction _ hjunction _ => exact (hjunction.elim (htag _) (htag _)).elim
    | negation _ hnegation _ => exact absurd hnegation (htag _)
    | equality _ h => exact h
  · exact .equality hkind

theorem isConditionValue_comparison (hkind : IsSequence kind) (htag : ∀ tag, ¬IsTag tag head) :
    IsConditionValue (.group kind (head :: operator :: v :: rest)) ↔
      IsField head ∧ IsOperator operator := by
  constructor
  · intro h
    cases h with
    | junction _ hjunction _ => exact (hjunction.elim (htag _) (htag _)).elim
    | negation _ hnegation _ => exact absurd hnegation (htag _)
    | comparison _ hfield hoperator => exact ⟨hfield, hoperator⟩
  · rintro ⟨hfield, hoperator⟩
    exact .comparison hkind hfield hoperator

theorem not_isNothing_junction (htag : IsTag .all head ∨ IsTag .any head) :
    ¬IsNothing (.group kind (head :: rest)) := by
  intro h
  cases h with
  | single _ hnothing =>
    rcases htag with ⟨s, rfl, -⟩ | ⟨s, rfl, -⟩ <;> cases hnothing
  | negation _ hnegation _ => exact not_isTag_negation htag hnegation

theorem isNothing_negation (hkind : IsSequence kind) (htag : IsTag .negation head) :
    IsNothing (.group kind (head :: v :: rest)) ↔ IsNothing v := by
  constructor
  · intro h
    cases h with
    | negation _ _ h => exact h
  · exact .negation hkind htag

theorem isNothing_single (hkind : IsSequence kind) :
    IsNothing (.group kind [v]) ↔ IsNothing v := by
  constructor
  · intro h
    cases h with
    | single _ h => exact h
  · exact .single hkind

theorem not_isNothing_test (htag : ∀ tag, ¬IsTag tag head) :
    ¬IsNothing (.group kind (head :: v :: rest)) := by
  intro h
  cases h with
  | negation _ hnegation _ => exact htag _ hnegation

end

/-! ## Reading -/

/-- What came of reading the value is right: a tree or nothing for a value of the grammar, nothing
exactly for those that are, and an error of the condition for every other value. -/
def Judged (v : Value) : Except Fault (Option Condition) → Prop
  | .ok c? => IsConditionValue v ∧ (c? = none ↔ IsNothing v)
  | .error f => ¬IsConditionValue v ∧ f.kind = .condition

/-- What came of reading the operands is right. -/
def AllJudged (items : List Value) : Except Fault (List Condition) → Prop
  | .ok _ => ∀ v ∈ items, IsConditionValue v
  | .error f => ¬(∀ v ∈ items, IsConditionValue v) ∧ f.kind = .condition

section

variable {kind : GroupKind} {head operator v w : Value} {items rest : List Value}
  {x : Except Fault (Option Condition)}

theorem Judged.congr (hform : IsConditionValue w ↔ IsConditionValue v)
    (hnothing : IsNothing w ↔ IsNothing v) (h : Judged v x) : Judged w x := by
  cases x with
  | error f => exact ⟨fun hw => h.1 (hform.mp hw), h.2⟩
  | ok c? => exact ⟨hform.mpr h.1, h.2.trans hnothing.symm⟩

/-- What a tree is turned into makes no difference. -/
theorem Judged.map {f : Condition → Condition} (h : Judged v x) :
    Judged v (x.map fun c? => c?.map f) := by
  cases x with
  | error e => exact h
  | ok c? => exact ⟨h.1, Option.map_eq_none_iff.trans h.2⟩

theorem judged_junction {x : Except Fault (List Condition)} {f : List Condition → Condition}
    (hkind : IsSequence kind) (htag : IsTag .all head ∨ IsTag .any head) (h : AllJudged rest x) :
    Judged (.group kind (head :: rest)) (x.map fun cs => some (f cs)) := by
  have hform : IsConditionValue (.group kind (head :: rest)) ↔ ∀ v ∈ rest, IsConditionValue v :=
    isConditionValue_junction hkind htag
  cases x with
  | error e => exact ⟨fun hv => h.1 (hform.mp hv), h.2⟩
  | ok cs => exact ⟨hform.mpr h, iff_of_false nofun (not_isNothing_junction htag)⟩

theorem judged_equality (hkind : IsSequence kind) (htag : ∀ tag, ¬IsTag tag head) :
    Judged (.group kind [head, v]) (readList [head, v]) := by
  rw [readList_equality (ofValue?_eq_none_iff.mpr htag)]
  have hform := isConditionValue_equality (v := v) hkind htag
  rcases checkField_cases htag with ⟨hfield, hcheck⟩ | ⟨hfield, hcheck⟩
  · rw [hcheck]
    exact ⟨hform.mpr hfield, iff_of_false nofun (not_isNothing_test htag)⟩
  · rw [hcheck]
    exact ⟨fun h => hfield (hform.mp h), rfl⟩

theorem judged_comparison (hkind : IsSequence kind) (htag : ∀ tag, ¬IsTag tag head) :
    Judged (.group kind (head :: operator :: v :: rest))
      (readList (head :: operator :: v :: rest)) := by
  rw [readList_comparison (ofValue?_eq_none_iff.mpr htag)]
  have hform : IsConditionValue (.group kind (head :: operator :: v :: rest)) ↔
      IsField head ∧ IsOperator operator := isConditionValue_comparison hkind htag
  rcases checkField_cases htag with ⟨hfield, hcheck⟩ | ⟨hfield, hcheck⟩
  · rw [hcheck]
    change Judged _ (compare head operator v >>= fun c => pure (some c))
    rcases compare_cases head operator v with ⟨hoperator, hcompare⟩ | ⟨hoperator, hcompare⟩
    · rw [hcompare]
      exact ⟨hform.mpr ⟨hfield, hoperator⟩, iff_of_false nofun (not_isNothing_test htag)⟩
    · rw [hcompare]
      exact ⟨fun h => hoperator (hform.mp h).2, rfl⟩
  · rw [hcheck]
    exact ⟨fun h => hfield (hform.mp h).1, rfl⟩

end

mutual

theorem readWith_judged (bare : Value → Condition) : ∀ v, Judged v (readWith bare v)
  | .null => ⟨.null, iff_of_true rfl .null⟩
  | .node c => ⟨.node c, iff_of_false nofun nofun⟩
  | .text s => ⟨.text s, iff_of_false nofun nofun⟩
  | .mapping entries => ⟨.mapping entries, iff_of_false nofun nofun⟩
  | .group .list items => readList_judged (Or.inl rfl) items
  | .group .tuple items => readList_judged (Or.inr rfl) items
  | .group .set _ | .group .frozenSet _ => ⟨fun h => h.isSequence.elim nofun nofun, rfl⟩
  | .bool _ | .number _ _ | .date _ | .moment _ | .blob _ _ | .span _ | .foreign _ _ _ =>
    ⟨nofun, rfl⟩
termination_by structural v => v

theorem readList_judged {kind : GroupKind} (hkind : IsSequence kind) :
    ∀ items, Judged (.group kind items) (readList items)
  | [] => ⟨.empty hkind, iff_of_true rfl (.empty hkind)⟩
  | head :: rest => by
    -- A tag says what the list is; without one its length does.
    cases htag : LogicalTag.ofValue? head with
    | some tag =>
      have hhead : IsTag tag head := isTag_iff.mpr htag
      cases tag with
      | all =>
        rw [readList_all htag]
        exact judged_junction hkind (Or.inl hhead) (readOperands_judged rest)
      | any =>
        rw [readList_any htag]
        exact judged_junction hkind (Or.inr hhead) (readOperands_judged rest)
      | negation =>
        cases rest with
        | nil =>
          rw [readList_lone_negation htag]
          exact ⟨not_isConditionValue_negation hhead, rfl⟩
        | cons operand ignored =>
          rw [readList_negation htag]
          exact ((readWith_judged .fragment operand).congr
            (isConditionValue_negation hkind hhead) (isNothing_negation hkind hhead)).map
    | none =>
      have hhead := ofValue?_eq_none_iff.mp htag
      match rest with
      | [] =>
        rw [readList_single htag]
        exact (readWith_judged .fragment head).congr (isConditionValue_single hkind hhead)
          (isNothing_single hkind)
      | [v] => exact judged_equality hkind hhead
      | operator :: v :: ignored => exact judged_comparison hkind hhead
termination_by structural items => items

theorem readOperands_judged : ∀ items, AllJudged items (readOperands items)
  | [] => nofun
  | v :: rest => by
    have hv := readWith_judged .fragment v
    have hrest := readOperands_judged rest
    rw [readOperands]
    cases hread : readWith .fragment v with
    | error f =>
      rw [hread] at hv
      exact ⟨fun h => hv.1 (h v (List.mem_cons_self ..)), hv.2⟩
    | ok c? =>
      rw [hread] at hv
      cases hreadRest : readOperands rest with
      | error f =>
        rw [hreadRest] at hrest
        exact ⟨fun h => hrest.1 fun w hw => h w (List.mem_cons_of_mem _ hw), hrest.2⟩
      | ok cs =>
        rw [hreadRest] at hrest
        exact List.forall_mem_cons.mpr ⟨hv.1, hrest⟩
termination_by structural items => items

end

/-- The operands of a junction are read one by one, and those that are nothing are left out. -/
theorem readOperands_eq (items : List Value) :
    readOperands items = (items.mapM readOperand).map List.reduceOption := by
  induction items with
  | nil => rfl
  | cons v rest ih =>
    rw [readOperands, readWith_fragment, ih, List.mapM_cons]
    cases readOperand v with
    | error f => rfl
    | ok c? =>
      cases rest.mapM readOperand with
      | error f => rfl
      | ok parses => cases c? <;> rfl

/-- A value is read exactly if it is of the grammar, and any other is refused with an error of the
condition. What is read as nothing is nothing. A list with a junction's tag is read as the junction
of what its operands are read as, in order, without those that are nothing. -/
theorem read_grammar (v : Value) :
    ((∃ c?, read v = .ok c?) ↔ IsConditionValue v) ∧
      (∀ f, read v = .error f → f.kind = .condition) ∧
      (read v = .ok none ↔ IsNothing v) ∧
      ∀ kind head operands, IsSequence kind → v = .group kind (head :: operands) →
        (IsTag .all head → read v = (operands.mapM readOperand).map fun parses =>
          some (.all (parses.reduceOption.map .node))) ∧
        (IsTag .any head → read v = (operands.mapM readOperand).map fun parses =>
          some (.any (parses.reduceOption.map .node))) := by
  have hjudged : Judged v (read v) := readWith_judged .raw v
  have hjunction : ∀ kind head operands, IsSequence kind → v = .group kind (head :: operands) →
      read v = readList (head :: operands) := by
    rintro kind head operands hkind rfl
    exact readWith_sequence hkind
  refine ⟨?_, ?_, ?_, ?_⟩
  · constructor
    · rintro ⟨c?, hread⟩
      rw [hread] at hjudged
      exact hjudged.1
    · intro hv
      cases hread : read v with
      | error f =>
        rw [hread] at hjudged
        exact absurd hv hjudged.1
      | ok c? => exact ⟨c?, rfl⟩
  · intro f hread
    rw [hread] at hjudged
    exact hjudged.2
  · cases hread : read v with
    | error f =>
      rw [hread] at hjudged
      exact iff_of_false nofun fun hv => hjudged.1 hv.isConditionValue
    | ok c? =>
      rw [hread] at hjudged
      rw [Except.ok.injEq]
      exact hjudged.2
  · intro kind head operands hkind hv
    rw [hjunction kind head operands hkind hv]
    constructor
    · intro htag
      rw [readList_all htag.ofValue?, readOperands_eq, map_map]
    · intro htag
      rw [readList_any htag.ofValue?, readOperands_eq, map_map]

/-- An empty list is no item of the junction, and neither is a negation of nothing. -/
theorem read_grammar_junction :
    read (.group .list [.text "$And".toList, .group .list [], .text "a > 1".toList,
      .group .tuple [.text "$NOT".toList, .null, .span ⟨0, 3, 1⟩]]) =
      .ok (some (.all [.node (.fragment (.text "a > 1".toList))])) :=
  ((read_grammar _).2.2.2 .list (.text "$And".toList) _ (Or.inl rfl) rfl).1 ⟨_, rfl, rfl⟩

end SqlGateway.Condition
