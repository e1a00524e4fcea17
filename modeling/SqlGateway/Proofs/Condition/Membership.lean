import SqlGateway.Proofs.Condition.Comparison
import SqlGateway.Proofs.Statement.Arity

/-!
# Membership in a list

What a column is tested to be a member of should be a list in parentheses, whatever value it comes
from: the elements of a collection, or any other value as the only element. Three tests have to
agree on what a collection is: whether the value lists elements, whether there are any, and whether
its literal has parentheses of its own. They agree on every value but a view of bytes, which lists
its bytes while its literal is that of bytes (`membership_eq_ok`). So views are told apart from
other sequences of bytes where members or bounds are listed, and nowhere else
(`comparison_members`).
-/

namespace SqlGateway.Condition

open SqlGateway.Sql

/-! ## Collections -/

/-- The elements of a list, a tuple, a set or a span. -/
def members? : Value → Option (List Value)
  | .group _ items => some items
  | .span s => some (s.toList.map fun n => .number (.integer n) none)
  | _ => none

/-- A view of bytes. -/
def IsView (v : Value) : Prop := ∃ bytes, v = .blob .view bytes

section

variable {zone : ZoneChoice} {v : Value} {items : List Value} {texts : List Text} {s : Text}

/-- Beside the collections only views of bytes list elements. -/
theorem elements?_eq_members? (hv : ¬IsView v) : v.elements? = members? v := by
  cases v with
  | blob kind bytes =>
    cases kind with
    | view => exact absurd ⟨bytes, rfl⟩ hv
    | _ => rfl
  | _ => rfl

theorem width_of_members (h : members? v = some items) : Statement.width v = 1 := by
  cases v with
  | mapping entries => cases h
  | _ => rfl

theorem ofItems_integers (ns : List Int) :
    Literal.ofItems zone (ns.map fun n => .number (.integer n) none) =
      .ok (ns.map Text.ofInt) := by
  induction ns with
  | nil => rfl
  | cons n ns ih =>
    rw [List.map_cons, Literal.ofItems, ih]
    rfl

/-- The literal of a collection is the list of the literals of its elements, each of them nested. -/
theorem ofValue_members (h : members? v = some items)
    (hs : Literal.ofValue zone false v = .ok s) :
    ∃ texts, Literal.ofItems zone items = .ok texts ∧ s = Literal.listText texts := by
  cases v with
  | group kind members =>
    cases h
    obtain ⟨texts, htexts, rfl⟩ := map_eq_ok.mp hs
    exact ⟨texts, htexts, rfl⟩
  | span range =>
    cases h
    cases hs
    exact ⟨_, ofItems_integers range.toList, rfl⟩
  | _ => cases h

/-! ## Lists of expressions -/

/-- There are so many expressions between the commas of a text, none of them empty. -/
def Lists (n : Nat) (inside : Text) : Prop :=
  ∃ es, Statement.expressions? inside = some es ∧ Statement.HasArity n es

theorem ofItems_parts (h : Literal.ofItems zone items = .ok texts) :
    texts.length = items.length ∧ ∀ s ∈ texts, s ≠ [] ∧ IsPart s := by
  induction items generalizing texts with
  | nil =>
    cases h
    exact ⟨rfl, nofun⟩
  | cons v items ih =>
    obtain ⟨s, hs, h⟩ := bind_eq_ok.mp h
    obtain ⟨rest, hrest, h⟩ := bind_eq_ok.mp h
    cases h
    obtain ⟨hlength, hparts⟩ := ih hrest
    have hv := Constant.isExpression_nested v
    obtain ⟨c, -, hread⟩ := Constant.readsAs_ofValue hv hs
    obtain ⟨d, others, rfl, -⟩ := hread.head
    exact ⟨congrArg (· + 1) hlength,
      List.forall_mem_cons.mpr ⟨⟨List.cons_ne_nil _ _, isPart_ofValue hv hs⟩, hparts⟩⟩

/-- Literals with commas between them are as many expressions. -/
theorem lists_ofItems (h : Literal.ofItems zone items = .ok texts) :
    Lists items.length (", ".toList.intercalate texts) := by
  obtain ⟨hlength, hparts⟩ := ofItems_parts h
  cases texts with
  | nil => exact ⟨[], rfl, hlength, nofun⟩
  | cons first rest =>
    obtain ⟨hfirst, hrest⟩ := List.forall_mem_cons.mp hparts
    have hspace : IsPart [' '] := isPart_inert (by decide)
    have hspaced : ∀ s ∈ first :: rest.map (fun text => ' ' :: text), s ≠ [] ∧ IsPart s := by
      rw [List.forall_mem_cons, List.forall_mem_map]
      exact ⟨hfirst, fun t ht => ⟨List.cons_ne_nil _ _, hspace.append (hrest t ht).2⟩⟩
    refine ⟨_, ?_, ?_, fun s hs => (hspaced s hs).1⟩
    · rw [Statement.intercalate_space_comma, Statement.expressions?_texts hspaced]
    · rw [← hlength, List.length_cons, List.length_cons, List.length_map]

/-- The literal of a single value is one expression. -/
theorem lists_one_iff (h : Literal.ofValue zone false v = .ok s) :
    Lists 1 s ↔ Statement.IsSingle v := by
  obtain ⟨es, hes, hiff⟩ := Statement.exists_expressions (.cons h .nil)
  rw [List.intercalate_singleton] at hes
  rw [List.forall_mem_singleton] at hiff
  refine Iff.trans ⟨?_, fun harity => ⟨es, hes, harity⟩⟩ hiff
  rintro ⟨es', hes', harity⟩
  obtain rfl := Option.some.inj (hes.symm.trans hes')
  exact harity

/-! ## Tests of members -/

theorem parenthesize_inj {s t : Text} (h : parenthesize s = parenthesize t) : s = t :=
  List.append_cancel_right (List.tail_eq_of_cons_eq h)

theorem testText_inj {column s t : Text} {o : Operator}
    (h : testText column o s = testText column o t) : s = t := by
  have hinside := parenthesize_inj h
  simpa only [List.append_assoc, List.cons_append, List.append_cancel_left_eq, List.cons.injEq,
    true_and] using hinside

theorem blobText_ne_parenthesize (bytes : List UInt8) (t : Text) :
    Literal.blobText bytes ≠ parenthesize t :=
  fun h => absurd (List.head_eq_of_cons_eq h) (by decide)

/-- What is to be written for a test of members: a constant if there are none because the
collection is empty, and otherwise a test against a list in parentheses, of the elements of the
collection or of the value as a single expression. -/
def TestsList (zone : ZoneChoice) (column : Text) (negated : Bool) (v : Value) (s : Text) : Prop :=
  match members? v with
  | some [] => s = (if negated then "(1=1)" else "(1=0)").toList
  | some items => ∃ texts, Literal.ofItems zone items = .ok texts ∧
      Lists items.length (", ".toList.intercalate texts) ∧
      s = testText column (.member negated) (parenthesize (", ".toList.intercalate texts))
  | none => ∃ t, Literal.ofValue zone false v = .ok t ∧ Lists 1 t ∧
      s = testText column (.member negated) (parenthesize t)

section

variable {column : Text} {negated : Bool}

theorem membership_empty (h : v.elements? = some []) :
    membership zone column negated v = .ok (if negated then "(1=1)" else "(1=0)").toList := by
  rw [membership, h]
  rfl

theorem membership_listed {first : Value} (h : v.elements? = some (first :: items)) :
    membership zone column negated v =
      (Literal.ofValue zone false v).map (testText column (.member negated)) := by
  rw [membership, h]
  rfl

theorem membership_single (h : v.elements? = none) : membership zone column negated v =
    (Literal.ofValue zone false v).map fun t =>
      testText column (.member negated) (parenthesize t) := by
  rw [membership, h]
  rfl

/-- A column never begins with the digit that both constants begin with. -/
theorem identifier_head (field : Value) :
    ∃ c rest, Identifier.ofValue field = c :: rest ∧ c ≠ '1' := by
  unfold Identifier.ofValue
  split
  · exact ⟨'*', [], rfl, by decide⟩
  · exact ⟨Identifier.backQuote, _, rfl, by decide⟩

/-- The constant for an empty collection tests no column. -/
theorem constant_ne_testText (hcolumn : ∃ c rest, column = c :: rest ∧ c ≠ '1') {o : Operator} :
    (if negated then "(1=1)" else "(1=0)").toList ≠ testText column o s := by
  obtain ⟨c, rest, rfl, hc⟩ := hcolumn
  intro h
  cases negated with
  | false => exact hc (List.head_eq_of_cons_eq (List.tail_eq_of_cons_eq h)).symm
  | true => exact hc (List.head_eq_of_cons_eq (List.tail_eq_of_cons_eq h)).symm

theorem not_testsList_view {bytes : List UInt8}
    (hcolumn : ∃ c rest, column = c :: rest ∧ c ≠ '1')
    (h : membership zone column negated (.blob .view bytes) = .ok s) :
    ¬TestsList zone column negated (.blob .view bytes) s := by
  rintro ⟨t, ht, -, rfl⟩
  cases ht
  cases bytes with
  | nil =>
    rw [membership_empty rfl] at h
    exact constant_ne_testText hcolumn (Except.ok.inj h)
  | cons b bytes =>
    rw [membership_listed rfl] at h
    exact blobText_ne_parenthesize _ _ (testText_inj (Except.ok.inj h))

/-- A test of members is written as it should be exactly if the value is neither a view of bytes
nor a mapping with more or fewer entries than one. -/
theorem membership_eq_ok (hcolumn : ∃ c rest, column = c :: rest ∧ c ≠ '1')
    (h : membership zone column negated v = .ok s) :
    TestsList zone column negated v s ↔ ¬IsView v ∧ Statement.IsSingle v := by
  by_cases hview : IsView v
  · obtain ⟨bytes, rfl⟩ := hview
    exact iff_of_false (not_testsList_view hcolumn h) fun ⟨hno, _⟩ => hno ⟨bytes, rfl⟩
  have helements := elements?_eq_members? hview
  cases hmembers : members? v with
  | none =>
    rw [membership_single (helements.trans hmembers)] at h
    obtain ⟨t, ht, rfl⟩ := map_eq_ok.mp h
    rw [TestsList, hmembers, and_iff_right hview, ← lists_one_iff ht]
    dsimp only
    constructor
    · rintro ⟨t', ht', hlists, -⟩
      obtain rfl := Except.ok.inj (ht.symm.trans ht')
      exact hlists
    · intro hlists
      exact ⟨t, ht, hlists, rfl⟩
  | some items =>
    refine iff_of_true ?_ ⟨hview, width_of_members hmembers⟩
    rw [TestsList, hmembers]
    cases items with
    | nil =>
      rw [membership_empty (helements.trans hmembers)] at h
      exact (Except.ok.inj h).symm
    | cons first items =>
      rw [membership_listed (helements.trans hmembers)] at h
      obtain ⟨t, ht, rfl⟩ := map_eq_ok.mp h
      obtain ⟨texts, htexts, rfl⟩ := ofValue_members hmembers ht
      exact ⟨texts, htexts, lists_ofItems htexts, rfl⟩

end

end

/-! ## Sequences of bytes -/

section

variable {zone : ZoneChoice} {field spelling : Value} {bytes : List UInt8} {kind kind' : BlobKind}
  {o : Operator} {negated : Bool}

/-- The literal of bytes does not tell of what kind they are. -/
theorem sql?_blob_plain (h : Operator.ofValue? spelling = some o) (ho : IsPlain o) :
    sql? zone (.comparison field spelling (.blob kind bytes)) =
      .ok (some (testText (Identifier.ofValue field) o (Literal.blobText bytes))) := by
  rw [sql?_plain h ho]
  rfl

theorem sql?_blob_member (h : Operator.ofValue? spelling = some (.member negated))
    (hkind : kind ≠ .view) :
    sql? zone (.comparison field spelling (.blob kind bytes)) =
      .ok (some (testText (Identifier.ofValue field) (.member negated)
        (parenthesize (Literal.blobText bytes)))) := by
  have hsingle : (Value.blob kind bytes).elements? = none := by
    cases kind with
    | view => exact absurd rfl hkind
    | _ => rfl
  rw [sql?_member h (fun ⟨_, hnode⟩ => nomatch hnode), membership_single hsingle]
  rfl

/-- As members the bytes of a view are written in another way than those of anything else. -/
theorem sql?_view_member_ne (h : Operator.ofValue? spelling = some (.member negated))
    (hkind : kind ≠ .view) :
    sql? zone (.comparison field spelling (.blob .view bytes)) ≠
      sql? zone (.comparison field spelling (.blob kind bytes)) := by
  rw [sql?_blob_member h hkind, sql?_member h (fun ⟨_, hnode⟩ => nomatch hnode)]
  intro heq
  obtain ⟨s, hs, hsame⟩ := map_eq_ok.mp heq
  obtain rfl := Option.some.inj hsame
  have hliteral : Literal.ofValue zone false (.blob .view bytes) = .ok (Literal.blobText bytes) :=
    rfl
  exact not_testsList_view (identifier_head field) hs
    ⟨_, hliteral, (lists_one_iff hliteral).mpr rfl, rfl⟩

theorem sql?_blob_member_eq_iff (h : Operator.ofValue? spelling = some (.member negated)) :
    sql? zone (.comparison field spelling (.blob kind bytes)) =
        sql? zone (.comparison field spelling (.blob kind' bytes)) ↔
      (kind = .view ↔ kind' = .view) := by
  by_cases hkind : kind = .view
  · by_cases hkind' : kind' = .view
    · rw [hkind, hkind']
      exact iff_of_true rfl Iff.rfl
    · subst hkind
      exact iff_of_false (sql?_view_member_ne h hkind') (by simp [hkind'])
  · by_cases hkind' : kind' = .view
    · subst hkind'
      exact iff_of_false (sql?_view_member_ne h hkind).symm (by simp [hkind])
    · rw [sql?_blob_member h hkind, sql?_blob_member h hkind']
      exact iff_of_true rfl (iff_of_false hkind hkind')

/-- Two bytes in a view are a pair of bounds; no other bytes are. -/
theorem bounds_blob (h : ¬(kind = .view ∧ bytes.length = 2)) :
    bounds zone o (.blob kind bytes) =
      .error (.pairExpected o.text (Value.blob kind bytes).display) := by
  cases kind with
  | view =>
    match bytes with
    | [] | [_] | _ :: _ :: _ :: _ => rfl
    | [low, high] => exact absurd ⟨rfl, rfl⟩ h
  | fixed => rfl
  | growable => rfl

theorem sql?_blob_range (h : Operator.ofValue? spelling = some (.between negated)) :
    (∃ e, sql? zone (.comparison field spelling (.blob kind bytes)) = .error e ∧
      e.kind = .condition) ↔ ¬(kind = .view ∧ bytes.length = 2) := by
  rw [sql?_range h]
  by_cases hpair : kind = .view ∧ bytes.length = 2
  · obtain ⟨rfl, hlength⟩ := hpair
    obtain ⟨low, high, rfl⟩ := List.length_eq_two.mp hlength
    exact iff_of_false nofun (not_not.mpr ⟨rfl, rfl⟩)
  · rw [bounds_blob hpair]
    exact iff_of_true ⟨_, rfl, rfl⟩ hpair

theorem sql?_blobs_range_iff (h : Operator.ofValue? spelling = some (.between negated)) :
    (∃ e e', sql? zone (.comparison field spelling (.blob kind bytes)) = .error e ∧
        sql? zone (.comparison field spelling (.blob kind' bytes)) = .error e' ∧
        e.kind = .condition ∧ e'.kind = .condition) ↔
      (bytes.length = 2 → kind ≠ .view ∧ kind' ≠ .view) := by
  constructor
  · rintro ⟨e, e', he, he', hkind, hkind'⟩ hlength
    exact ⟨fun hview => (sql?_blob_range h).mp ⟨e, he, hkind⟩ ⟨hview, hlength⟩,
      fun hview => (sql?_blob_range h).mp ⟨e', he', hkind'⟩ ⟨hview, hlength⟩⟩
  · intro hviews
    obtain ⟨e, he, hkind⟩ : ∃ e, sql? zone (.comparison field spelling (.blob kind bytes)) =
        .error e ∧ e.kind = .condition :=
      (sql?_blob_range h).mpr fun ⟨hview, hlength⟩ => (hviews hlength).1 hview
    obtain ⟨e', he', hkind'⟩ : ∃ e, sql? zone (.comparison field spelling (.blob kind' bytes)) =
        .error e ∧ e.kind = .condition :=
      (sql?_blob_range h).mpr fun ⟨hview, hlength⟩ => (hviews hlength).2 hview
    exact ⟨e, e', he, he', hkind, hkind'⟩

end

/-! ## Comparisons with members -/

/-- A test of members is written as a list in parentheses, or as a constant for an empty
collection, exactly if the value is neither a view of bytes nor a mapping with more or fewer
entries than one. Sequences of bytes of two kinds are written alike by every operator that lists
neither members nor bounds. Where members are listed, they are written alike exactly if both or
neither are views, and where bounds are, both are refused as no pair of bounds exactly if neither is
a view of two bytes. -/
theorem comparison_members (zone : ZoneChoice) (field : Text) {spelling : Value} {o : Operator}
    (h : Operator.ofValue? spelling = some o) :
    (∀ negated v s?, o = .member negated → ¬IsNode v →
      sql? zone (.comparison (.text field) spelling v) = .ok s? →
      ∃ s, s? = some s ∧ (TestsList zone (Identifier.ofValue (.text field)) negated v s ↔
        ¬IsView v ∧ Statement.IsSingle v)) ∧
    ∀ bytes kind kind',
      (IsPlain o →
        sql? zone (.comparison (.text field) spelling (.blob kind bytes)) =
          sql? zone (.comparison (.text field) spelling (.blob kind' bytes))) ∧
      (∀ negated, o = .member negated →
        (sql? zone (.comparison (.text field) spelling (.blob kind bytes)) =
            sql? zone (.comparison (.text field) spelling (.blob kind' bytes)) ↔
          (kind = .view ↔ kind' = .view))) ∧
      (∀ negated, o = .between negated →
        ((∃ e e', sql? zone (.comparison (.text field) spelling (.blob kind bytes)) = .error e ∧
            sql? zone (.comparison (.text field) spelling (.blob kind' bytes)) = .error e' ∧
            e.kind = .condition ∧ e'.kind = .condition) ↔
          (bytes.length = 2 → kind ≠ .view ∧ kind' ≠ .view))) := by
  refine ⟨?_, fun bytes kind kind' => ⟨fun ho => ?_, ?_, ?_⟩⟩
  · rintro negated v s? rfl hv hs
    rw [sql?_member h hv] at hs
    obtain ⟨s, htest, rfl⟩ := map_eq_ok.mp hs
    exact ⟨s, rfl, membership_eq_ok (identifier_head _) htest⟩
  · rw [sql?_blob_plain h ho, sql?_blob_plain h ho]
  · rintro negated rfl
    exact sql?_blob_member_eq_iff h
  · rintro negated rfl
    exact sql?_blobs_range_iff h

/-- A list, and bytes in a fixed and in a growable sequence, behind an operator in small letters. -/
theorem comparison_members_list :
    TestsList (.ok .utc) "`a`".toList false
        (.group .list [.number (.integer 1) none, .text "x,y".toList])
        "(`a` IN (1, 'x,y'))".toList ∧
      sql? (.ok .utc) (.comparison (.text "a".toList) (.text "in".toList) (.blob .fixed [97, 98])) =
        sql? (.ok .utc)
          (.comparison (.text "a".toList) (.text "in".toList) (.blob .growable [97, 98])) := by
  have hspelling : Operator.ofValue? (.text "in".toList) = some (.member false) := by
    decide +kernel
  obtain ⟨hlisted, hbytes⟩ := comparison_members (.ok .utc) "a".toList hspelling
  have hsql : sql? (.ok .utc) (.comparison (.text "a".toList) (.text "in".toList)
      (.group .list [.number (.integer 1) none, .text "x,y".toList])) =
        .ok (some "(`a` IN (1, 'x,y'))".toList) := by decide +kernel
  obtain ⟨s, hs, hiff⟩ := hlisted false _ _ rfl (fun ⟨_, hnode⟩ => nomatch hnode) hsql
  obtain rfl := Option.some.inj hs
  have hview : ¬IsView (.group .list [.number (.integer 1) none, .text "x,y".toList]) :=
    fun ⟨_, hview⟩ => nomatch hview
  refine ⟨hiff.mpr ⟨hview, rfl⟩, ?_⟩
  exact ((hbytes [97, 98] .fixed .growable).2.1 false rfl).mpr (by decide)

/-- What comes from a view of bytes is no list in parentheses; what comes from the same bytes in a
fixed sequence is one. -/
theorem view_not_listed :
    sql? (.ok .utc) (.comparison (.text "a".toList) (.text "IN".toList) (.blob .view [97, 98])) =
        .ok (some "(`a` IN X'6162')".toList) ∧
      ¬TestsList (.ok .utc) "`a`".toList false (.blob .view [97, 98])
        "(`a` IN X'6162')".toList ∧
      sql? (.ok .utc) (.comparison (.text "a".toList) (.text "IN".toList) (.blob .fixed [97, 98])) =
        .ok (some "(`a` IN (X'6162'))".toList) := by
  have hview : membership (.ok .utc) "`a`".toList false (.blob .view [97, 98]) =
      .ok "(`a` IN X'6162')".toList := by decide +kernel
  refine ⟨by decide +kernel, ?_, by decide +kernel⟩
  exact not_testsList_view ⟨_, _, rfl, by decide⟩ hview

end SqlGateway.Condition
