import SqlGateway.Proofs.Condition.Tree

/-!
# The structure of compiled conditions

The expression that a regular condition compiles to reads as the tree of the condition, but for
parentheses and junctions of one operand (`sql?_structure`). However conditions are nested, no
operand binds to the wrong junction and no AND of a range or of a mapping is taken for another.

The induction is on the condition. A tree that is in parentheses by itself has its expression
between them, any other is the expression, so every operand is an expression in parentheses
(`ExpressesOperand`) and stands as one primary in the larger expression.
-/

namespace SqlGateway.Condition

open SqlGateway.Sql

/-! ## Texts and the trees they express -/

/-- The text is an expression, and its tree is the given one but for parentheses and junctions of
one operand. -/
def Expresses (s : Text) (e : Tree) : Prop :=
  ∃ parsed : Tree, parsed.IsOf s ∧ parsed.collapse = e.collapse

/-- The text is an expression in parentheses. -/
def ExpressesOperand (s : Text) (e : Tree) : Prop :=
  ∃ body, s = parenthesize body ∧ Expresses body e

/-- The text is a factor of a conjunction, whatever stands behind it. -/
def ExpressesFactor (s : Text) (e : Tree) : Prop :=
  ∃ ts parsed, Cuts s ts ∧ Derives .factor ts parsed ∧ parsed.collapse = e.collapse

theorem ExpressesFactor.expresses {s : Text} {e : Tree} (h : ExpressesFactor s e) :
    Expresses s e := by
  obtain ⟨ts, parsed, hcuts, hparsed, hcollapse⟩ := h
  exact ⟨.any [.all [parsed]], ⟨ts, hcuts.lexemes_eq, .conjunction (.factor hparsed)⟩, hcollapse⟩

theorem ExpressesOperand.primary {s : Text} {e : Tree} (h : ExpressesOperand s e) :
    ∃ ts parsed, Cuts s ts ∧ Derives .primary ts parsed ∧ parsed.collapse = e.collapse := by
  obtain ⟨body, rfl, parsed, ⟨ts, hts, hparsed⟩, hcollapse⟩ := h
  exact ⟨_, .paren parsed, cuts_paren hts, .paren hparsed, hcollapse⟩

theorem ExpressesOperand.factor {s : Text} {e : Tree} (h : ExpressesOperand s e) :
    ExpressesFactor s e := by
  obtain ⟨ts, parsed, hcuts, hparsed, hcollapse⟩ := h.primary
  exact ⟨ts, parsed, hcuts, .plain hparsed, hcollapse⟩

theorem ExpressesOperand.not {s : Text} {e : Tree} (h : ExpressesOperand s e) :
    ExpressesFactor ("NOT ".toList ++ s) (.negation e) := by
  obtain ⟨ts, parsed, hcuts, hparsed, hcollapse⟩ := h.primary
  refine ⟨.not :: ts, .negation parsed, hcuts.not, .not hparsed, ?_⟩
  rw [Tree.collapse, Tree.collapse, hcollapse]

theorem expressesFactor_predicate {s : Text} {p : Predicate}
    (h : ∀ t, IsBoundary t → Predicate.scan? (s ++ t) = some (p, t)) :
    ExpressesFactor s (.predicate p) :=
  ⟨[.predicate p], .predicate p, cuts_predicate h, .plain (.predicate p), rfl⟩

theorem expresses_verdict (b : Bool) :
    Expresses (if b then "1=1" else "1=0").toList (.verdict b) :=
  ⟨.any [.all [.verdict b]], ⟨_, lexemes?_verdict b, .conjunction (.factor (.plain (.verdict b)))⟩,
    rfl⟩

/-! ## Junctions -/

theorem factors_cut {parts : List Text} {es : List Tree}
    (h : List.Forall₂ ExpressesFactor parts es) :
    ∃ cuts parsed, List.Forall₂ Cuts parts cuts ∧ List.Forall₂ (Derives .factor) cuts parsed ∧
      parsed.map Tree.collapse = es.map Tree.collapse := by
  induction h with
  | nil => exact ⟨[], [], .nil, .nil, rfl⟩
  | @cons s e parts es hs _ ih =>
    obtain ⟨ts, parsed, hcuts, hparsed, hcollapse⟩ := hs
    obtain ⟨cuts, others, hcuts', hothers, hcollapse'⟩ := ih
    refine ⟨ts :: cuts, parsed :: others, .cons hcuts hcuts', .cons hparsed hothers, ?_⟩
    rw [List.map_cons, List.map_cons, hcollapse, hcollapse']

theorem expresses_all {s : Text} {parts : List Text} {es : List Tree}
    (h : List.Forall₂ ExpressesFactor (s :: parts) es) :
    Expresses (" AND ".toList.intercalate (s :: parts)) (.all es) := by
  obtain ⟨cuts, parsed, hcuts, hparsed, hcollapse⟩ := factors_cut h
  cases hcuts with
  | @cons _ ts _ cuts hs hrest =>
    cases hparsed with
    | @cons _ e _ others he hothers =>
      refine ⟨.any [.all (e :: others)],
        ⟨_, (cuts_intercalate rfl lexemes?_and hs hrest).lexemes_eq,
        .conjunction (derives_chain .and (.factor he) hothers)⟩, ?_⟩
      change Tree.junction .all (Tree.collapseAll (e :: others)) = _
      rw [Tree.collapse, Tree.collapseAll_eq_map, Tree.collapseAll_eq_map, hcollapse]

theorem expresses_any {s : Text} {parts : List Text} {es : List Tree}
    (h : List.Forall₂ ExpressesFactor (s :: parts) es) :
    Expresses (" OR ".toList.intercalate (s :: parts)) (.any es) := by
  obtain ⟨cuts, parsed, hcuts, hparsed, hcollapse⟩ := factors_cut h
  cases hcuts with
  | @cons _ ts _ cuts hs hrest =>
    cases hparsed with
    | @cons _ e _ others he hothers =>
      have hconjunctions : List.Forall₂ (Derives .conjunction) cuts
          (others.map fun e => .all [e]) :=
        List.forall₂_map_right_iff.mpr (hothers.imp fun _ _ h => .factor h)
      refine ⟨.any ((e :: others).map fun e => .all [e]),
        ⟨_, (cuts_intercalate rfl lexemes?_or hs hrest).lexemes_eq,
        derives_chain .or (.conjunction (.factor he)) hconjunctions⟩, ?_⟩
      rw [Tree.collapse, Tree.collapse, Tree.collapseAll_eq_map, Tree.collapseAll_eq_map,
        List.map_map, ← hcollapse]
      rfl

/-! ## Leaves -/

section Leaves

variable {zone : ZoneChoice} {column : Text}

theorem literal_reads {v : Value} {s : Text} (hv : IsCompared v)
    (h : Literal.ofValue zone false v = .ok s) :
    ∃ c, Constant.ofValue zone v = .ok c ∧ Constant.ReadsAs s c := by
  refine Constant.readsAs_ofValue (fun _ entries he => ?_) h
  subst he
  exact hv

theorem IsCompared.not_node {v : Value} (hv : IsCompared v) : ¬IsNode v := by
  rintro ⟨c, rfl⟩
  exact hv

theorem valueSql_reads {v : Value} {s : Text} (hv : IsCompared v) (h : valueSql zone v = .ok s) :
    ∃ c, Constant.ofValue zone v = .ok c ∧ Constant.ReadsAs s c :=
  literal_reads hv (valueSql_literal hv.not_node ▸ h)

theorem leafTree?_plain {o : Operator} (ho : IsPlain o) {v : Value} {c : Constant}
    (hc : Constant.ofValue zone v = .ok c) :
    leafTree? zone column o v = some (.predicate (.test column o c)) := by
  cases o with
  | member negated => exact absurd rfl (ho negated).1
  | between negated => exact absurd rfl (ho negated).2
  | _ =>
    change (Constant.ofValue zone v).toOption.map _ = _
    rw [hc]
    rfl

/-- An equality without spaces, as in a mapping. -/
theorem equality_expresses {field v : Value} (hf : IsEquality field v) {s : Text}
    (h : valueSql zone v = .ok s) :
    ∃ column e, field = .text column ∧ leafTree? zone column .equal v = some e ∧
      ExpressesFactor (Identifier.ofValue field ++ '=' :: s) e := by
  obtain ⟨⟨column, rfl, hcolumn⟩, hv⟩ := hf
  obtain ⟨c, hc, hreads⟩ := valueSql_reads hv h
  refine ⟨column, _, rfl, leafTree?_plain isPlain_equal hc, ?_⟩
  rw [ofValue_column hcolumn]
  refine expressesFactor_predicate fun t ht => ?_
  rw [List.append_assoc]
  exact Predicate.scan?_equality column hreads ht

theorem testText_expresses {operator : Operator} {s : Text} {p : Predicate}
    (h : ∀ t, IsBoundary t → Predicate.scan? (Identifier.quote column ++
      ' ' :: (operator.text ++ ' ' :: (s ++ t))) = some (p, t)) :
    ExpressesOperand (testText (Identifier.quote column) operator s) (.predicate p) := by
  refine ⟨_, rfl, (expressesFactor_predicate fun t ht => ?_).expresses⟩
  simpa using h t ht

theorem plain_expresses {o : Operator} (ho : IsPlain o) {v : Value} (hv : IsCompared v)
    {s : Text} (h : valueSql zone v = .ok s) :
    ∃ e, leafTree? zone column o v = some e ∧
      ExpressesOperand (testText (Identifier.quote column) o s) e := by
  obtain ⟨c, hc, hreads⟩ := valueSql_reads hv h
  exact ⟨_, leafTree?_plain ho hc,
    testText_expresses fun _ ht => Predicate.scan?_test column ho hreads ht⟩

/-- The elements of a value that is written as a list are the members of its constant. -/
theorem ofValue_elements {v : Value} {items : List Value} (hv : IsCompared v)
    (hitems : v.elements? = some items) :
    Constant.ofValue zone v = (Constant.ofValues zone items).map .list := by
  cases v with
  | group kind elements =>
    cases hitems
    rfl
  | span s =>
    cases hitems
    have hall : ∀ ns : List Int,
        Constant.ofValues zone (ns.map fun n => .number (.integer n) none) =
          .ok (ns.map fun n => .number (Number.integer n).text) := by
      intro ns
      induction ns with
      | nil => rfl
      | cons n ns ih => rw [List.map_cons, Constant.ofValues, ih]; rfl
    rw [hall]
    rfl
  | blob kind bytes =>
    cases kind with
    | view => exact hv.elim
    | _ => cases hitems
  | _ => cases hitems

theorem member_expresses {negated : Bool} {s : Text} {c : Constant} {cs : List Constant}
    (hs : Constant.ReadsAs s (.list (c :: cs))) :
    ExpressesOperand (testText (Identifier.quote column) (.member negated) s)
      (.predicate (.member column negated (c :: cs))) :=
  testText_expresses fun _ ht => Predicate.scan?_member column negated hs ht

theorem membership_expresses {negated : Bool} {v : Value} (hv : IsCompared v) {s : Text}
    (h : membership zone (Identifier.quote column) negated v = .ok s) :
    ∃ e, leafTree? zone column (.member negated) v = some e ∧ ExpressesOperand s e := by
  unfold membership at h
  split at h
  · next hnone =>
    obtain ⟨lit, hlit, h⟩ := bind_eq_ok.mp h
    cases h
    obtain ⟨c, hc, hreads⟩ := literal_reads hv hlit
    refine ⟨.predicate (.member column negated [c]), ?_, ?_⟩
    · rw [leafTree?, hnone]
      simp [Constant.ofValues, hc]
      rfl
    · have hlist := Constant.readsAs_list (.cons hreads .nil)
      rw [Literal.listText, List.intercalate_singleton] at hlist
      exact member_expresses hlist
  · next hempty =>
    cases h
    refine ⟨.verdict negated, ?_, ?_⟩
    · rw [leafTree?, hempty]
      rfl
    · refine ⟨_, ?_, expresses_verdict negated⟩
      cases negated <;> rfl
  · next items hnonempty hitems =>
    obtain ⟨lit, hlit, h⟩ := bind_eq_ok.mp h
    cases h
    obtain ⟨c, hc, hreads⟩ := literal_reads hv hlit
    rw [ofValue_elements hv hitems] at hc
    obtain ⟨cs, hcs, rfl⟩ := map_eq_ok.mp hc
    cases items with
    | nil => exact absurd rfl hnonempty
    | cons item items =>
      obtain ⟨c, -, hrest⟩ := bind_eq_ok.mp hcs
      obtain ⟨others, -, he⟩ := bind_eq_ok.mp hrest
      cases he
      refine ⟨.predicate (.member column negated (c :: others)), ?_, member_expresses hreads⟩
      rw [leafTree?, hitems]
      change (Constant.ofValues zone (item :: items)).toOption.map _ = _
      rw [hcs]
      rfl

theorem range_expresses {negated : Bool} {low high : Text} {c d : Constant}
    (hlow : Constant.ReadsAs low c) (hhigh : Constant.ReadsAs high d) :
    ExpressesOperand (testText (Identifier.quote column) (.between negated)
      (" AND ".toList.intercalate [low, high])) (.predicate (.range column negated c d)) :=
  testText_expresses fun t ht => by
    rw [List.intercalate_cons_cons, List.intercalate_singleton, List.append_assoc,
      List.append_assoc]
    exact Predicate.scan?_range column negated hlow hhigh ht

theorem ofValues_pair {a b : Value} {c d : Constant} (ha : Constant.ofValue zone a = .ok c)
    (hb : Constant.ofValue zone b = .ok d) : Constant.ofValues zone [a, b] = .ok [c, d] := by
  rw [Constant.ofValues, ha, Constant.ofValues, hb]
  rfl

theorem leafTree?_range {negated : Bool} {v : Value} {items : List Value} {c d : Constant}
    (hv : v.elements? = some items) (hitems : Constant.ofValues zone items = .ok [c, d]) :
    leafTree? zone column (.between negated) v =
      some (.predicate (.range column negated c d)) := by
  rw [leafTree?, hv, Option.getD_some, hitems]
  rfl

/-- The bounds of a range test are two literals. -/
theorem bounds_read {operator : Operator} {v : Value} {texts : List Text}
    (hv : ∀ bound ∈ v.elements?.getD [], IsCompared bound)
    (h : bounds zone operator v = .ok texts) :
    ∃ items low high c d, v.elements? = some items ∧ texts = [low, high] ∧
      Constant.ofValues zone items = .ok [c, d] ∧ Constant.ReadsAs low c ∧
      Constant.ReadsAs high d := by
  rcases bounds_cases h with ⟨kind, a, b, low, high, rfl, rfl, hlow, hhigh⟩ | ⟨m, n, hpair, rfl⟩
  · obtain ⟨c, hc, hreadsLow⟩ := valueSql_reads (hv a (by simp [Value.elements?])) hlow
    obtain ⟨d, hd, hreadsHigh⟩ := valueSql_reads (hv b (by simp [Value.elements?])) hhigh
    exact ⟨[a, b], low, high, c, d, rfl, rfl, ofValues_pair hc hd, hreadsLow, hreadsHigh⟩
  · exact ⟨_, _, _, _, _, hpair, rfl, ofValues_pair rfl rfl,
      Constant.readsAs_number (isToken_ofInt m), Constant.readsAs_number (isToken_ofInt n)⟩

/-- A comparison is in parentheses and reads as the test of its column. -/
theorem comparison_expresses {field spelling v : Value}
    (hc : (Condition.comparison field spelling v).Regular) {s? : Option Text}
    (h : sql? zone (.comparison field spelling v) = .ok s?) :
    ∃ s e, s? = some s ∧ tree? zone (.comparison field spelling v) = some (some e) ∧
      ExpressesOperand s e := by
  obtain ⟨⟨⟨column, rfl, hcolumn⟩, hv⟩, hbounds⟩ := hc
  cases hspelling : Operator.ofValue? spelling with
  | none =>
    rw [sql?_unknown hspelling] at h
    cases h
  | some operator =>
    have htree : tree? zone (.comparison (.text column) spelling v) =
        (leafTree? zone column operator v).map some := by
      rw [tree?, hspelling, Option.bind_some]
    rcases operator_cases operator with ⟨negated, rfl⟩ | ⟨negated, rfl⟩ | ho
    · rw [sql?_member hspelling hv.not_node, ofValue_column hcolumn] at h
      obtain ⟨s, hs, rfl⟩ := map_eq_ok.mp h
      obtain ⟨e, he, hexpresses⟩ := membership_expresses hv hs
      exact ⟨s, e, rfl, by rw [htree, he, Option.map_some], hexpresses⟩
    · rw [sql?_range hspelling, ofValue_column hcolumn] at h
      obtain ⟨texts, htexts, rfl⟩ := map_eq_ok.mp h
      obtain ⟨items, low, high, c, d, hitems, rfl, hconstants, hlow, hhigh⟩ :=
        bounds_read (hbounds negated hspelling) htexts
      exact ⟨_, _, rfl, by rw [htree, leafTree?_range hitems hconstants, Option.map_some],
        range_expresses hlow hhigh⟩
    · rw [sql?_plain hspelling ho, ofValue_column hcolumn] at h
      obtain ⟨s, hs, rfl⟩ := map_eq_ok.mp h
      obtain ⟨e, he, hexpresses⟩ := plain_expresses ho hv hs
      exact ⟨_, e, rfl, by rw [htree, he, Option.map_some], hexpresses⟩

theorem equalities_expresses {entries : List (Value × Value)} {parts : List Text}
    (hentries : ∀ entry ∈ entries, IsEquality entry.1 entry.2)
    (h : equalities zone entries = .ok parts) :
    ∃ es, equalityTrees? zone entries = some es ∧ List.Forall₂ ExpressesFactor parts es := by
  induction entries generalizing parts with
  | nil =>
    cases h
    exact ⟨[], rfl, .nil⟩
  | cons entry entries ih =>
    obtain ⟨field, v⟩ := entry
    obtain ⟨s, hs, h⟩ := bind_eq_ok.mp h
    obtain ⟨rest, hrest, h⟩ := bind_eq_ok.mp h
    cases h
    obtain ⟨column, e, rfl, he, hexpresses⟩ :=
      equality_expresses (hentries _ (List.mem_cons_self ..)) hs
    obtain ⟨es, hes, hexpress⟩ :=
      ih (fun entry h => hentries entry (List.mem_cons_of_mem _ h)) hrest
    refine ⟨e :: es, ?_, .cons hexpresses hexpress⟩
    rw [equalityTrees?, he, hes, Option.bind_some, Option.map_some]

end Leaves

/-! ## Conditions -/

/-- How the expression of a condition stands to its tree, by whether it is in parentheses. -/
inductive Compiled (grouped : Bool) : Option Text → Option Tree → Prop
  | nothing : Compiled grouped none none
  | bare {s : Text} {e : Tree} :
      grouped = false → Expresses s e → Compiled grouped (some s) (some e)
  | enclosed {s : Text} {e : Tree} :
      grouped = true → ExpressesOperand s e → Compiled grouped (some s) (some e)

theorem Compiled.expresses {grouped : Bool} {s : Text} {e : Tree}
    (h : Compiled grouped (some s) (some e)) : Expresses s e := by
  cases h with
  | bare _ h => exact h
  | enclosed _ h => exact h.factor.expresses

theorem Compiled.operand {c : Condition} {s : Text} {e : Tree}
    (h : Compiled c.isGrouped (some s) (some e)) : ExpressesOperand (c.asOperand s) e := by
  unfold asOperand
  cases h with
  | bare hgrouped h =>
    rw [hgrouped]
    exact ⟨s, rfl, h⟩
  | enclosed hgrouped h =>
    rw [hgrouped]
    exact h

theorem junction_compiled {keyword : String} {make : List Tree → Tree}
    (hjoin : ∀ {s parts es}, List.Forall₂ ExpressesFactor (s :: parts) es →
      Expresses ((' ' :: keyword.toList ++ [' ']).intercalate (s :: parts)) (make es))
    {parts : List Text} {es : List Tree} (h : List.Forall₂ ExpressesOperand parts es) :
    Compiled true (junction? keyword parts) (junctionTree? make es) := by
  have hfactors := h.imp fun _ _ => ExpressesOperand.factor
  cases h with
  | nil => exact .nothing
  | cons => exact .enclosed rfl ⟨_, rfl, hjoin hfactors⟩

theorem trusted_reads {v : Value} (hv : IsTrusted v) {s? : Option Text}
    (h : trusted v = .ok s?) :
    ∃ s, v = .text s ∧ (((Text.strip s).isEmpty = true ∧ s? = none) ∨
      ((Text.strip s).isEmpty = false ∧ s? = some s ∧ ∃ e, Tree.read? s = some e ∧ e.IsOf s)) := by
  obtain ⟨s, rfl, hs⟩ := hv
  cases h
  refine ⟨s, rfl, ?_⟩
  cases hblank : (Text.strip s).isEmpty with
  | true => exact Or.inl ⟨rfl, rfl⟩
  | false =>
    rcases hs with hs | ⟨e, he⟩
    · rw [hblank] at hs
      cases hs
    · exact Or.inr ⟨rfl, rfl, e, Tree.read?_eq_some_iff.mpr he, he⟩

theorem matching_compiled {zone : ZoneChoice} {v : Value} (hc : (Condition.matching v).Regular)
    {s? : Option Text} (h : sql? zone (.matching v) = .ok s?) :
    ∃ e?, tree? zone (.matching v) = some e? ∧ Compiled false s? e? := by
  cases v with
  | mapping entries =>
    cases entries with
    | nil =>
      cases h
      exact ⟨none, rfl, .nothing⟩
    | cons entry entries =>
      obtain ⟨parts, hparts, h⟩ := bind_eq_ok.mp h
      cases h
      obtain ⟨es, hes, hexpresses⟩ := equalities_expresses (hc _ rfl) hparts
      refine ⟨junctionTree? .all es, by rw [tree?, hes, Option.map_some], ?_⟩
      cases hexpresses with
      | nil =>
        obtain ⟨s, -, hrest⟩ := bind_eq_ok.mp hparts
        obtain ⟨rest, -, hnil⟩ := bind_eq_ok.mp hrest
        cases hnil
      | cons hs hrest => exact .bare rfl (expresses_all (.cons hs hrest))
  | node c => cases c <;> cases h
  | _ =>
    change (if Value.isTruthy _ then Except.error Fault.notSupported else .ok none) = .ok s? at h
    split at h
    · cases h
    · next hfalsy =>
      cases h
      exact ⟨none, if_neg hfalsy, .nothing⟩

mutual

/-- The expression of a condition reads as the tree of the condition. -/
theorem sql?_compiled {zone : ZoneChoice} : ∀ {c : Condition} {s? : Option Text}, c.Regular →
    c.sql? zone = .ok s? → ∃ e?, c.tree? zone = some e? ∧ Compiled c.isGrouped s? e?
  | .raw v, s?, hc, h => by
    obtain ⟨s, rfl, ⟨hblank, rfl⟩ | ⟨hblank, rfl, e, he, hexpresses⟩⟩ := trusted_reads hc h
    · exact ⟨none, by rw [tree?, if_pos hblank], .nothing⟩
    · refine ⟨some e, ?_, .bare rfl ⟨e, hexpresses, rfl⟩⟩
      rw [tree?, hblank, he]
      rfl
  | .fragment v, s?, hc, h => by
    obtain ⟨s?, hs, h⟩ := bind_eq_ok.mp h
    cases h
    obtain ⟨s, rfl, ⟨hblank, rfl⟩ | ⟨hblank, rfl, e, he, hexpresses⟩⟩ := trusted_reads hc hs
    · exact ⟨none, by rw [tree?, if_pos hblank], .nothing⟩
    · refine ⟨some e, ?_, .enclosed rfl ⟨s, rfl, e, hexpresses, rfl⟩⟩
      rw [tree?, hblank, he]
      rfl
  | .all items, s?, hc, h => by
    obtain ⟨parts, hparts, h⟩ := bind_eq_ok.mp h
    cases h
    obtain ⟨es, hes, hexpresses⟩ := operands_compiled hc hparts
    exact ⟨_, by rw [tree?, hes, Option.map_some], junction_compiled expresses_all hexpresses⟩
  | .any items, s?, hc, h => by
    obtain ⟨parts, hparts, h⟩ := bind_eq_ok.mp h
    cases h
    obtain ⟨es, hes, hexpresses⟩ := operands_compiled hc hparts
    exact ⟨_, by rw [tree?, hes, Option.map_some], junction_compiled expresses_any hexpresses⟩
  | .negation (.node c), s?, hc, h => by
    obtain ⟨inner?, hinner, h⟩ := bind_eq_ok.mp h
    cases h
    obtain ⟨e?, he, hcompiled⟩ := sql?_compiled (c := c) hc hinner
    refine ⟨e?.map .negation, by rw [tree?, he, Option.map_some], ?_⟩
    cases inner? with
    | none =>
      cases hcompiled
      exact .nothing
    | some inner =>
      cases e? with
      | none => cases hcompiled
      | some e => exact .enclosed rfl ⟨_, rfl, hcompiled.operand.not.expresses⟩
  | .equality field v, s?, hc, h => by
    obtain ⟨s, hs, h⟩ := bind_eq_ok.mp h
    cases h
    obtain ⟨column, e, rfl, he, hexpresses⟩ := equality_expresses hc hs
    exact ⟨some e, by rw [tree?, he, Option.map_some], .enclosed rfl ⟨_, rfl, hexpresses.expresses⟩⟩
  | .comparison field spelling v, s?, hc, h => by
    obtain ⟨s, e, rfl, he, hexpresses⟩ := comparison_expresses hc h
    exact ⟨some e, he, .enclosed rfl hexpresses⟩
  | .matching v, s?, hc, h => matching_compiled hc h
termination_by structural c => c

/-- The expressions of the operands read as the trees of the operands. -/
theorem operands_compiled {zone : ZoneChoice} : ∀ {items : List Value} {parts : List Text},
    RegularItems items → operands zone items = .ok parts →
      ∃ es, trees? zone items = some es ∧ List.Forall₂ ExpressesOperand parts es
  | [], _, _, h => by
    cases h
    exact ⟨[], rfl, .nil⟩
  | .node c :: rest, _, hitems, h => by
    obtain ⟨s?, hs, h⟩ := bind_eq_ok.mp h
    obtain ⟨parts, hparts, h⟩ := bind_eq_ok.mp h
    cases h
    obtain ⟨e?, he, hcompiled⟩ := sql?_compiled (c := c) hitems.1 hs
    obtain ⟨es, hes, hexpresses⟩ := operands_compiled hitems.2 hparts
    refine ⟨e?.toList ++ es, by rw [trees?, he, hes, Option.bind_some, Option.map_some], ?_⟩
    cases s? with
    | none =>
      cases hcompiled
      exact hexpresses
    | some s =>
      cases e? with
      | none => cases hcompiled
      | some e => exact .cons hcompiled.operand hexpresses
termination_by structural items => items

end

/-! ## The structure of an expression -/

/-- The expression of a regular condition has one reading, and this is the tree of the condition but
for parentheses and junctions of one operand. -/
theorem sql?_structure {zone : ZoneChoice} {c : Condition} {s : Text} (hc : c.Regular)
    (h : c.sql? zone = .ok (some s)) :
    ∃ parsed e, Tree.IsOf parsed s ∧ (∀ other, Tree.IsOf other s → other = parsed) ∧
      c.tree? zone = some (some e) ∧ parsed.collapse = e.collapse := by
  obtain ⟨e?, he, hcompiled⟩ := sql?_compiled hc h
  cases e? with
  | none => cases hcompiled
  | some e =>
    obtain ⟨parsed, hparsed, hcollapse⟩ := hcompiled.expresses
    exact ⟨parsed, e, hparsed, fun _ hother => hother.unique hparsed, he, hcollapse⟩

/-- A trusted OR, an empty junction, a negated mapping, a range and an empty list in one AND. -/
theorem sql?_structure_nested :
    ∃ parsed e, Tree.IsOf parsed ("((`c`=1 OR `d`=2) AND (NOT (`e`=NULL AND `f`=true)) AND " ++
        "(`g` NOT BETWEEN 1 AND 2) AND (1=0))").toList ∧
      (∀ other, Tree.IsOf other ("((`c`=1 OR `d`=2) AND (NOT (`e`=NULL AND `f`=true)) AND " ++
        "(`g` NOT BETWEEN 1 AND 2) AND (1=0))").toList → other = parsed) ∧
      tree? (.ok .utc) (.all [.node (.raw (.text "`c`=1 OR `d`=2".toList)), .node (.any []),
        .node (.negation (.node (.matching (.mapping
          [(.text "e".toList, .null), (.text "f".toList, .bool true)])))),
        .node (.comparison (.text "g".toList) (.text "not  between".toList)
          (.group .tuple [.number (.integer 1) none, .number (.integer 2) none])),
        .node (.comparison (.text "h".toList) (.text "In".toList) (.group .list []))]) =
          some (some e) ∧
      parsed.collapse = e.collapse := by
  have hequality (column digits : Text) (n : Int) (hn : Text.ofInt n = digits) :
      ExpressesFactor (Identifier.quote column ++ '=' :: digits)
        (.predicate (.test column .equal (.number digits))) :=
    expressesFactor_predicate fun t ht => by
      rw [List.append_assoc]
      exact Predicate.scan?_equality column
        (Constant.readsAs_number (hn ▸ isToken_ofInt n)) ht
  have htrusted : ∃ e : Tree, e.IsOf "`c`=1 OR `d`=2".toList := by
    obtain ⟨e, he, -⟩ := expresses_any (.cons (hequality "c".toList "1".toList 1 rfl)
      (.cons (hequality "d".toList "2".toList 2 rfl) .nil))
    exact ⟨e, he⟩
  refine sql?_structure ⟨⟨_, rfl, Or.inr htrusted⟩, trivial, ?_, ?_, ?_, trivial⟩
    (by decide +kernel)
  · rintro entries ⟨⟩ entry hentry
    rcases List.mem_cons.mp hentry with rfl | hentry
    · exact ⟨⟨_, rfl, by decide⟩, trivial⟩
    · obtain rfl := List.mem_singleton.mp hentry
      exact ⟨⟨_, rfl, by decide⟩, trivial⟩
  · refine ⟨⟨⟨_, rfl, by decide⟩, trivial⟩, fun negated _ bound hbound => ?_⟩
    rcases List.mem_cons.mp hbound with rfl | hbound
    · trivial
    · obtain rfl := List.mem_singleton.mp hbound
      trivial
  · exact ⟨⟨⟨_, rfl, by decide⟩, trivial⟩, fun negated _ bound hbound => nomatch hbound⟩

end SqlGateway.Condition
