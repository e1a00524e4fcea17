import SqlGateway.Proofs.Condition.Vacuous

/-!
# Conditions spelled as lists

A condition tree can be given as a value of brackets instead: a junction or a negation as a list
that starts with its tag, a test as a list that starts with its column, equalities of columns as a
mapping, and a trusted text as text. The tag may be in letters of any case, and an operator may be
spelled in letters of any case and with any blanks between and around its words.

`Spells` relates trees with the values that spell them. However a tree is spelled, the value
compiles to what the tree compiles to: the same text, the same absence of one, or the same fault
(`ofValueSql?_spells`). The tree itself comes back if its operators were spelled as they stand in it
and no trusted text stood bare below the root; a bare one comes back in parentheses.

The induction is on the tree. A text that stands alone is bare at the root and in parentheses below
it, so what is compared is the expression of a tree at its place (`Place.sql?`).
-/

namespace SqlGateway

/-! ## Spellings of tags, fields and operators -/

/-- How a tag is written. -/
def LogicalTag.text : LogicalTag → Text
  | .all => "$and".toList
  | .any => "$or".toList
  | .negation => "$not".toList

theorem LogicalTag.read?_eq_some_iff {s : Text} {tag : LogicalTag} :
    read? s = some tag ↔ s.map Char.toLower = tag.text := by
  constructor
  · intro h
    unfold read? at h
    dsimp only at h
    split at h
    · next hall =>
      cases h
      exact hall
    · split at h
      · next hany =>
        cases h
        exact hany
      · split at h
        · next hnegation =>
          cases h
          exact hnegation
        · cases h
  · intro h
    unfold read?
    rw [h]
    cases tag <;> decide

/-- Small letters and their capitals count as the same letter of an operator. -/
theorem Operator.capital_toLower (c : Char) : capital c.toLower = capital c := by
  have hcapitals : ∀ n : Fin 128, capital (Char.ofNat n).toLower = capital (Char.ofNat n) := by
    decide
  by_cases hc : c.toNat < 128
  · have hchar := hcapitals ⟨c.toNat, hc⟩
    rwa [Char.ofNat_toNat] at hchar
  · have hsame : c.toLower = c := by
      apply dif_neg
      intro h
      have hbound : c.toNat ≤ 90 := h.2
      omega
    rw [hsame]

namespace Condition

/-- The value is the tag in letters of any case. -/
def IsTag (tag : LogicalTag) (v : Value) : Prop :=
  ∃ s, v = .text s ∧ s.map Char.toLower = tag.text

/-- The value is a text that is not empty and no tag. -/
def IsField (v : Value) : Prop :=
  ∃ s, v = .text s ∧ s ≠ [] ∧ ∀ tag : LogicalTag, s.map Char.toLower ≠ tag.text

/-- The values have the same words in letters of any case. -/
def SameWords (v w : Value) : Prop :=
  (Text.words v.plain).map (fun word => word.map Char.toLower) =
    (Text.words w.plain).map fun word => word.map Char.toLower

section

variable {tag : LogicalTag} {s : Text} {v w : Value}

theorem IsTag.ofValue? (h : IsTag tag v) : LogicalTag.ofValue? v = some tag := by
  obtain ⟨s, rfl, hs⟩ := h
  exact LogicalTag.read?_eq_some_iff.mpr hs

theorem ofValue?_text_eq_none (h : ∀ tag : LogicalTag, s.map Char.toLower ≠ tag.text) :
    LogicalTag.ofValue? (.text s) = none := by
  show LogicalTag.read? s = none
  cases htag : LogicalTag.read? s with
  | none => rfl
  | some tag => exact absurd (LogicalTag.read?_eq_some_iff.mp htag) (h tag)

theorem IsField.ofValue? (h : IsField v) : LogicalTag.ofValue? v = none := by
  obtain ⟨s, rfl, -, hs⟩ := h
  exact ofValue?_text_eq_none hs

theorem IsField.check (h : IsField v) : checkField v = .ok v := by
  obtain ⟨s, rfl, hne, -⟩ := h
  cases s with
  | nil => exact absurd rfl hne
  | cons c s => rfl

theorem SameWords.ofValue? (h : SameWords v w) : Operator.ofValue? w = Operator.ofValue? v := by
  have hnormal : ∀ u : Value, Operator.normalize u.plain = [' '].intercalate
      (((Text.words u.plain).map fun word => word.map Char.toLower).map
        fun word => word.map Operator.capital) := by
    intro u
    have hspace : [' '].map Operator.capital = [' '] := by decide
    rw [Operator.normalize, map_intercalate, hspace, List.map_map]
    congr 1
    apply List.map_congr_left
    intro word _
    simp [Operator.capital_toLower]
  unfold Operator.ofValue? Operator.read?
  rw [hnormal v, hnormal w, h]

end

/-! ## Spellings of trees -/

/-- Where a tree stands: by itself, or as an operand of a junction or a negation. -/
inductive Place where
  | root
  | operand

/-- What becomes of a text that stands alone at the place. -/
def Place.bare : Place → Value → Condition
  | root => .raw
  | operand => .fragment

/-- The boolean expression of a tree that stands at the place. -/
def Place.sql? (zone : ZoneChoice) : Place → Condition → Except Fault (Option Text)
  | root, c => c.sql? zone
  | operand, c => operandSql? zone c

mutual

/-- The value spells the tree, where `R` says how an operator may be spelled. -/
inductive Spells (R : Value → Value → Prop) : Place → Condition → Value → Prop
  | all {place kind head items vs} : IsSequence kind → IsTag .all head → SpellsAll R items vs →
      Spells R place (.all items) (.group kind (head :: vs))
  | any {place kind head items vs} : IsSequence kind → IsTag .any head → SpellsAll R items vs →
      Spells R place (.any items) (.group kind (head :: vs))
  | negation {place kind head c v} : IsSequence kind → IsTag .negation head →
      Spells R .operand c v → Spells R place (.negation (.node c)) (.group kind [head, v])
  | equality {place kind field v} : IsSequence kind → IsField field →
      Spells R place (.equality field v) (.group kind [field, v])
  | comparison {place kind field operator spelling o v} : IsSequence kind → IsField field →
      Operator.ofValue? operator = some o → R operator spelling →
      Spells R place (.comparison field operator v) (.group kind [field, spelling, v])
  | matching {place entries} :
      Spells R place (.matching (.mapping entries)) (.mapping entries)
  | raw {place s} : Spells R place (.raw (.text s)) (.text s)
  | fragment {s} : Spells R .operand (.fragment (.text s)) (.text s)
  | rootFragment {kind s} : IsSequence kind →
      (∀ tag : LogicalTag, s.map Char.toLower ≠ tag.text) →
      Spells R .root (.fragment (.text s)) (.group kind [.text s])

/-- The values spell the operands one by one. -/
inductive SpellsAll (R : Value → Value → Prop) : List Value → List Value → Prop
  | nil : SpellsAll R [] []
  | cons {c v items vs} : Spells R .operand c v → SpellsAll R items vs →
      SpellsAll R (.node c :: items) (v :: vs)

end

/-- The tree is a trusted text without parentheses. -/
def IsRaw (c : Condition) : Prop := ∃ v, c = .raw v

mutual

/-- No trusted text stands bare below the root. -/
def Wrapped : Condition → Prop
  | .all items | .any items => WrappedItems items
  | .negation inner => WrappedItem inner
  | _ => True
termination_by structural c => c

/-- The operand, if it is a tree, is no bare text and has none below it. -/
def WrappedItem : Value → Prop
  | .node c => ¬IsRaw c ∧ c.Wrapped
  | _ => True
termination_by structural v => v

/-- The operands are so. -/
def WrappedItems : List Value → Prop
  | [] => True
  | v :: rest => WrappedItem v ∧ WrappedItems rest
termination_by structural vs => vs

end

/-! ## Reading a spelling -/

section

variable {zone : ZoneChoice} {bare : Value → Condition} {kind : GroupKind} {items : List Value}

theorem operands_cons (c : Condition) : operands zone (.node c :: items) = (do
    let s? ← operandSql? zone c
    return s?.toList ++ (← operands zone items)) := by
  rw [operands, operandSql?]
  cases c.sql? zone <;> rfl

theorem sql?_negation (c : Condition) : sql? zone (.negation (.node c)) = (do
    return (← operandSql? zone c).map fun s => parenthesize ("NOT ".toList ++ s)) := by
  rw [sql?, operandSql?]
  cases c.sql? zone with
  | error f => rfl
  | ok s? => cases s? <;> rfl

/-- The expression at a place is settled by the expression, whether it needs parentheses or not. -/
theorem Place.sql?_congr {c d : Condition} (hsql : d.sql? zone = c.sql? zone)
    (hgrouped : d.isGrouped = c.isGrouped) (place : Place) :
    place.sql? zone d = place.sql? zone c := by
  cases place with
  | root => exact hsql
  | operand =>
    have hoperand : d.asOperand = c.asOperand := by
      funext s
      rw [asOperand, asOperand, hgrouped]
    show operandSql? zone d = operandSql? zone c
    rw [operandSql?, operandSql?, hsql, hoperand]

theorem operandSql?_fragment (v : Value) :
    operandSql? zone (.fragment v) = operandSql? zone (.raw v) := by
  rw [operandSql?, operandSql?, sql?, sql?]
  cases trusted v with
  | error f => rfl
  | ok s? => cases s? <;> rfl

theorem sql?_respelled {field operator spelling v : Value} {o : Operator}
    (ho : Operator.ofValue? operator = some o) (hspelling : Operator.ofValue? spelling = some o) :
    sql? zone (.comparison field spelling v) = sql? zone (.comparison field operator v) := by
  rw [sql?, sql?, ho, hspelling]
  cases o <;> rfl

end

/-- Nothing at or below the place is a bare text, but for the root itself. -/
def Place.Wrapped : Place → Condition → Prop
  | root, c => c.Wrapped
  | operand, c => WrappedItem (.node c)

theorem Place.Wrapped.below {place : Place} {c : Condition} (h : place.Wrapped c) :
    c.Wrapped := by
  cases place with
  | root => exact h
  | operand => exact h.2

/-- The second tree has the expression of the first, and it is the first if operators are spelled as
they stand in it and no text below it is bare. -/
def ReadBack (R : Value → Value → Prop) (place : Place) (c d : Condition) : Prop :=
  (∀ zone, place.sql? zone d = place.sql? zone c) ∧
    ((∀ v w, R v w → w = v) → place.Wrapped c → d = c)

theorem ReadBack.refl (R : Value → Value → Prop) (place : Place) (c : Condition) :
    ReadBack R place c c := ⟨fun _ => rfl, fun _ _ => rfl⟩

/-- A bare text below the root comes back in parentheses, which it gets there in any case. -/
theorem readBack_text (R : Value → Value → Prop) (place : Place) (s : Text) :
    ReadBack R place (.raw (.text s)) (place.bare (.text s)) := by
  cases place with
  | root => exact .refl R .root _
  | operand =>
    refine ⟨fun zone => ?_, fun _ hwrapped => absurd ⟨_, rfl⟩ hwrapped.1⟩
    exact operandSql?_fragment (.text s)

section

variable {R : Value → Value → Prop}

theorem readBack_junction {place : Place} (make : List Value → Condition) {keyword : String}
    (hmake : ∀ zone items, sql? zone (make items) = (do
      return junction? keyword (← operands zone items)))
    (hgrouped : ∀ items, (make items).isGrouped = true)
    (hbelow : ∀ items, (make items).Wrapped → WrappedItems items)
    {items : List Value} {ds : List Condition}
    (hsql : ∀ zone, operands zone (ds.map .node) = operands zone items)
    (hsame : (∀ v w, R v w → w = v) → WrappedItems items → ds.map .node = items) :
    ReadBack R place (make items) (make (ds.map .node)) := by
  constructor
  · intro zone
    apply place.sql?_congr
    · rw [hmake, hmake, hsql]
    · rw [hgrouped, hgrouped]
  · intro hexact hwrapped
    rw [hsame hexact (hbelow items hwrapped.below)]

mutual

/-- A value that spells a tree is read as a tree with the same expression. -/
theorem readWith_spells (hR : ∀ v w, R v w → Operator.ofValue? w = Operator.ofValue? v) :
    ∀ {c : Condition} {place : Place} {v : Value}, Spells R place c v →
      ∃ d, readWith place.bare v = .ok (some d) ∧ ReadBack R place c d
  | .all items, place, _, h => by
    cases h with
    | all hkind htag hitems =>
      obtain ⟨ds, hds, hsql, hsame⟩ := readOperands_spells hR hitems
      refine ⟨.all (ds.map .node), ?_, ?_⟩
      · rw [readWith_sequence hkind, readList_all htag.ofValue?, hds]
        rfl
      · exact readBack_junction .all (fun _ _ => rfl) (fun _ => rfl) (fun _ h => h) hsql hsame
  | .any items, place, _, h => by
    cases h with
    | any hkind htag hitems =>
      obtain ⟨ds, hds, hsql, hsame⟩ := readOperands_spells hR hitems
      refine ⟨.any (ds.map .node), ?_, ?_⟩
      · rw [readWith_sequence hkind, readList_any htag.ofValue?, hds]
        rfl
      · exact readBack_junction .any (fun _ _ => rfl) (fun _ => rfl) (fun _ h => h) hsql hsame
  | .negation (.node c), place, _, h => by
    cases h with
    | negation hkind htag hc =>
      obtain ⟨d, hd, hsql, hsame⟩ := readWith_spells hR hc
      refine ⟨.negation (.node d), ?_, ?_, ?_⟩
      · have hoperand : readWith .fragment _ = .ok (some d) := hd
        rw [readWith_sequence hkind, readList_negation htag.ofValue?, hoperand]
        rfl
      · intro zone
        have hinner : operandSql? zone d = operandSql? zone c := hsql zone
        apply place.sql?_congr
        · rw [sql?_negation, sql?_negation, hinner]
        · rfl
      · intro hexact hwrapped
        rw [hsame hexact hwrapped.below]
  | .equality field v, place, _, h => by
    cases h with
    | equality hkind hfield =>
      refine ⟨.equality field v, ?_, .refl R place _⟩
      rw [readWith_sequence hkind, readList_equality hfield.ofValue?, hfield.check]
      rfl
  | .comparison field operator v, place, _, h => by
    cases h with
    | @comparison _ _ _ _ spelling o _ hkind hfield ho hspelled =>
      have hspelling : Operator.ofValue? spelling = some o := (hR _ _ hspelled).trans ho
      refine ⟨.comparison field spelling v, ?_, ?_, ?_⟩
      · rw [readWith_sequence hkind, readList_comparison hfield.ofValue?, hfield.check]
        unfold compare
        rw [hspelling]
        rfl
      · intro zone
        exact place.sql?_congr (sql?_respelled ho hspelling) rfl
      · intro hexact _
        rw [hexact _ _ hspelled]
  | .matching v, place, _, h => by
    cases h with
    | matching => exact ⟨_, rfl, .refl R place _⟩
  | .raw v, place, _, h => by
    cases h with
    | raw => exact ⟨_, rfl, readBack_text R place _⟩
  | .fragment v, place, _, h => by
    cases h with
    | fragment => exact ⟨_, rfl, .refl R .operand _⟩
    | rootFragment hkind htag =>
      refine ⟨_, ?_, .refl R .root _⟩
      rw [readWith_sequence hkind, readList_single (ofValue?_text_eq_none htag)]
      rfl
termination_by structural c => c

/-- Values that spell operands are read as operands with the same expressions. -/
theorem readOperands_spells (hR : ∀ v w, R v w → Operator.ofValue? w = Operator.ofValue? v) :
    ∀ {items vs : List Value}, SpellsAll R items vs →
      ∃ ds, readOperands vs = .ok ds ∧
        (∀ zone, operands zone (ds.map .node) = operands zone items) ∧
        ((∀ v w, R v w → w = v) → WrappedItems items → ds.map .node = items)
  | [], _, h => by
    cases h
    exact ⟨[], rfl, fun _ => rfl, fun _ _ => rfl⟩
  | .node c :: items, _, h => by
    cases h with
    | @cons _ v _ vs hc hitems =>
      obtain ⟨d, hd, hsql, hsame⟩ := readWith_spells hR hc
      obtain ⟨ds, hds, hsqls, hsames⟩ := readOperands_spells hR hitems
      have hoperand : readWith .fragment v = .ok (some d) := hd
      refine ⟨d :: ds, ?_, ?_, ?_⟩
      · rw [readOperands, hoperand, hds]
        rfl
      · intro zone
        have hfirst : operandSql? zone d = operandSql? zone c := hsql zone
        rw [List.map_cons, operands_cons, operands_cons, hfirst, hsqls]
      · intro hexact hwrapped
        rw [List.map_cons, hsame hexact hwrapped.1, hsames hexact hwrapped.2]
termination_by structural items => items

end

end

/-! ## Trees that can be spelled -/

mutual

/-- Fields are texts that are no tags, operators are known, trusted texts are texts, operands are
trees, and equalities are given as mappings. -/
def Spellable : Condition → Prop
  | .raw v | .fragment v => ∃ s, v = .text s
  | .all items | .any items => SpellableItems items
  | .negation inner => SpellableItem inner
  | .equality field _ => IsField field
  | .comparison field operator _ => IsField field ∧ ∃ o, Operator.ofValue? operator = some o
  | .matching v => ∃ entries, v = .mapping entries
termination_by structural c => c

/-- The operand is a tree that can be spelled. -/
def SpellableItem : Value → Prop
  | .node c => c.Spellable
  | _ => False
termination_by structural v => v

/-- The operands are trees that can be spelled. -/
def SpellableItems : List Value → Prop
  | [] => True
  | v :: rest => SpellableItem v ∧ SpellableItems rest
termination_by structural vs => vs

end

/-- The tree is no text in parentheses that reads like a tag. -/
def IsUntagged (c : Condition) : Prop :=
  ∀ s, c = .fragment (.text s) → ∀ tag : LogicalTag, s.map Char.toLower ≠ tag.text

theorem isTag_text (tag : LogicalTag) : IsTag tag (.text tag.text) := by
  refine ⟨tag.text, rfl, ?_⟩
  cases tag <;> decide

mutual

theorem exists_spells : ∀ {c : Condition} {place : Place}, c.Spellable →
    (place = .root → c.IsUntagged) → ∃ v, Spells Eq place c v
  | .raw v, _, hc, _ => by
    obtain ⟨s, rfl⟩ := hc
    exact ⟨_, .raw⟩
  | .fragment v, place, hc, huntagged => by
    obtain ⟨s, rfl⟩ := hc
    cases place with
    | root => exact ⟨.group .list [.text s], .rootFragment (Or.inl rfl) (huntagged rfl s rfl)⟩
    | operand => exact ⟨_, .fragment⟩
  | .all items, _, hc, _ => by
    obtain ⟨vs, hvs⟩ := exists_spellsAll hc
    exact ⟨.group .list _, .all (Or.inl rfl) (isTag_text .all) hvs⟩
  | .any items, _, hc, _ => by
    obtain ⟨vs, hvs⟩ := exists_spellsAll hc
    exact ⟨.group .list _, .any (Or.inl rfl) (isTag_text .any) hvs⟩
  | .negation (.node c), _, hc, _ => by
    obtain ⟨v, hv⟩ : ∃ v, Spells Eq .operand c v := exists_spells (c := c) hc nofun
    exact ⟨.group .list _, .negation (Or.inl rfl) (isTag_text .negation) hv⟩
  | .equality field v, _, hc, _ => ⟨.group .list _, .equality (Or.inl rfl) hc⟩
  | .comparison field operator v, _, hc, _ => by
    obtain ⟨hfield, o, ho⟩ := hc
    exact ⟨.group .list _, .comparison (Or.inl rfl) hfield ho rfl⟩
  | .matching v, _, hc, _ => by
    obtain ⟨entries, rfl⟩ := hc
    exact ⟨_, .matching⟩
termination_by structural c => c

theorem exists_spellsAll : ∀ {items : List Value}, SpellableItems items →
    ∃ vs, SpellsAll Eq items vs
  | [], _ => ⟨[], .nil⟩
  | .node c :: items, hitems => by
    obtain ⟨v, hv⟩ : ∃ v, Spells Eq .operand c v := exists_spells (c := c) hitems.1 nofun
    obtain ⟨vs, hvs⟩ := exists_spellsAll hitems.2
    exact ⟨v :: vs, .cons hv hvs⟩
termination_by structural items => items

end

/-! ## Two spellings of one condition -/

/-- A value that spells a tree compiles to what the tree compiles to, with the same fault if there
is one. If operators are spelled as they stand in the tree and no trusted text stands bare below the
root, the value is read as the tree itself. Every tree whose fields are not taken for tags can be
spelled. -/
theorem ofValueSql?_spells (t : Condition) :
    (∀ v, Spells SameWords .root t v → ∀ zone, ofValueSql? zone v = t.sql? zone) ∧
      (∀ v, Spells Eq .root t v → t.Wrapped → Condition.read v = .ok (some t)) ∧
      (t.Spellable → t.IsUntagged → ∃ v, Spells Eq .root t v) := by
  refine ⟨fun v hv zone => ?_, fun v hv hwrapped => ?_, fun hspellable huntagged => ?_⟩
  · obtain ⟨d, hread, hsql, -⟩ := readWith_spells (fun _ _ h => SameWords.ofValue? h) hv
    have hread : Condition.read v = .ok (some d) := hread
    rw [ofValueSql?, hread]
    exact hsql zone
  · obtain ⟨d, hread, -, hsame⟩ :=
      readWith_spells (fun _ _ h => congrArg Operator.ofValue? h.symm) hv
    rw [← hsame (fun _ _ h => h.symm) hwrapped]
    exact hread
  · exact exists_spells hspellable fun _ => huntagged

/-- A junction of a negated text in parentheses, a comparison and a mapping. -/
def sampleTree : Condition :=
  .any [.node (.negation (.node (.fragment (.text "x > 1".toList)))),
    .node (.comparison (.text "a".toList) (.text "NOT LIKE".toList) (.text "$and".toList)),
    .node (.matching (.mapping [(.text "b".toList, .null)]))]

/-- The tree as a list whose head and operator are given. -/
def sampleList (head operator : String) : Value :=
  .group .list [.text head.toList, .group .tuple [.text "$Not".toList, .text "x > 1".toList],
    .group .list [.text "a".toList, .text operator.toList, .text "$and".toList],
    .mapping [(.text "b".toList, .null)]]

theorem spells_sample {R : Value → Value → Prop} {head operator : String}
    (hhead : IsTag .any (.text head.toList))
    (hoperator : R (.text "NOT LIKE".toList) (.text operator.toList)) :
    Spells R .root sampleTree (sampleList head operator) := by
  have hnegation : IsTag .negation (.text "$Not".toList) := ⟨_, rfl, by decide⟩
  have hfield : IsField (.text "a".toList) :=
    ⟨_, rfl, by decide, fun tag => by cases tag <;> decide⟩
  have hlike : Operator.ofValue? (.text "NOT LIKE".toList) = some (.like true) := by
    decide +kernel
  exact .any (Or.inl rfl) hhead (.cons (.negation (Or.inr rfl) hnegation .fragment)
    (.cons (.comparison (Or.inl rfl) hfield hlike hoperator) (.cons .matching .nil)))

/-- A list in other letters and blanks compiles to the same text, and one that is spelled exactly is
read as the tree. -/
theorem ofValueSql?_spells_sample :
    ofValueSql? (.ok .utc) (sampleList "$OR" " not\tLike ") = sampleTree.sql? (.ok .utc) ∧
      Condition.read (sampleList "$or" "NOT LIKE") = .ok (some sampleTree) ∧
      ∃ v, Spells Eq .root sampleTree v := by
  obtain ⟨hsql, hread, hspelled⟩ := ofValueSql?_spells sampleTree
  have hwords : SameWords (.text "NOT LIKE".toList) (.text " not\tLike ".toList) := by
    unfold SameWords
    decide
  have hwrapped : sampleTree.Wrapped :=
    ⟨⟨nofun, nofun, trivial⟩, ⟨nofun, trivial⟩, ⟨nofun, trivial⟩, trivial⟩
  refine ⟨hsql _ (spells_sample ⟨_, rfl, by decide⟩ hwords) _,
    hread _ (spells_sample ⟨_, rfl, by decide⟩ rfl) hwrapped, ?_⟩
  refine hspelled ⟨⟨_, rfl⟩, ⟨⟨_, rfl, by decide, fun tag => by cases tag <;> decide⟩, .like true,
    by decide +kernel⟩, ⟨_, rfl⟩, trivial⟩ nofun

end Condition

end SqlGateway
