import SqlGateway.Proofs.Sql.Lexeme

/-!
# Boolean expressions

A boolean expression is an OR of ANDs of primaries with NOT in front or without it. A primary is a
predicate, one of the constants `1=0` and `1=1`, or an expression in parentheses. `Derives` is this
grammar, level by level, with the tree of every expression.

`parse?` reads lexemes one at a time and keeps a frame for every open parenthesis. It finds exactly
the trees of the grammar (`parse?_eq_some_iff`), so no expression has two trees
(`Tree.IsOf.unique`).

`Tree.collapse` is what is left of a tree without parentheses and without junctions of one operand:
the meaning of the expression, whatever way it is written.
-/

namespace SqlGateway.Sql

/-- The tree of a boolean expression. -/
inductive Tree where
  | predicate (p : Predicate)
  | verdict (b : Bool)
  | paren (e : Tree)
  | negation (e : Tree)
  | all (es : List Tree)
  | any (es : List Tree)

namespace Tree

/-- A junction of several operands, or the only operand itself. -/
def junction (make : List Tree → Tree) : List Tree → Tree
  | [e] => e
  | es => make es

mutual

/-- The tree without parentheses and without junctions of one operand. -/
def collapse : Tree → Tree
  | .predicate p => .predicate p
  | .verdict b => .verdict b
  | .paren e => e.collapse
  | .negation e => .negation e.collapse
  | .all es => junction .all (collapseAll es)
  | .any es => junction .any (collapseAll es)
termination_by structural e => e

/-- The trees, each without parentheses and junctions of one operand. -/
def collapseAll : List Tree → List Tree
  | [] => []
  | e :: es => e.collapse :: collapseAll es
termination_by structural es => es

end

theorem collapseAll_eq_map (es : List Tree) : collapseAll es = es.map collapse := by
  induction es with
  | nil => rfl
  | cons e es ih => rw [collapseAll, ih, List.map_cons]

end Tree

/-! ## The grammar -/

/-- The levels of the grammar, from the tightest to the loosest. -/
inductive Level where
  | primary
  | factor
  | conjunction
  | disjunction

/-- The lexemes are an expression of the level, and this is its tree. -/
inductive Derives : Level → List Lexeme → Tree → Prop
  | predicate (p : Predicate) : Derives .primary [.predicate p] (.predicate p)
  | verdict (b : Bool) : Derives .primary [.verdict b] (.verdict b)
  | paren {ts : List Lexeme} {e : Tree} :
      Derives .disjunction ts e → Derives .primary (.open :: ts ++ [.close]) (.paren e)
  | plain {ts : List Lexeme} {e : Tree} : Derives .primary ts e → Derives .factor ts e
  | not {ts : List Lexeme} {e : Tree} :
      Derives .primary ts e → Derives .factor (.not :: ts) (.negation e)
  | factor {ts : List Lexeme} {e : Tree} :
      Derives .factor ts e → Derives .conjunction ts (.all [e])
  | and {ts us : List Lexeme} {es : List Tree} {e : Tree} :
      Derives .conjunction ts (.all es) → Derives .factor us e →
        Derives .conjunction (ts ++ .and :: us) (.all (es ++ [e]))
  | conjunction {ts : List Lexeme} {e : Tree} :
      Derives .conjunction ts e → Derives .disjunction ts (.any [e])
  | or {ts us : List Lexeme} {es : List Tree} {e : Tree} :
      Derives .disjunction ts (.any es) → Derives .conjunction us e →
        Derives .disjunction (ts ++ .or :: us) (.any (es ++ [e]))

/-- A junction may go on with any number of operands. -/
theorem derives_chain {level operand : Level} {l : Lexeme} {make : List Tree → Tree}
    (hstep : ∀ {ts us es e}, Derives level ts (make es) → Derives operand us e →
      Derives level (ts ++ l :: us) (make (es ++ [e])))
    {ts : List Lexeme} {es : List Tree} (h : Derives level ts (make es))
    {more : List (List Lexeme)} {es' : List Tree}
    (hmore : List.Forall₂ (Derives operand) more es') :
    Derives level (ts ++ more.flatMap fun us => l :: us) (make (es ++ es')) := by
  induction hmore generalizing ts es with
  | nil => simpa using h
  | @cons us e more es' hu _ ih => simpa using ih (hstep h hu)

/-! ## The parser -/

/-- What has been read inside one pair of parentheses: the conjunctions before the last OR, the
factors of the conjunction after it, and whether a NOT waits for its primary. -/
structure Frame where
  done : List Tree
  factors : List Tree
  negated : Bool

namespace Frame

/-- Nothing has been read. -/
def empty : Frame := ⟨[], [], false⟩

/-- One more primary. -/
def take (f : Frame) (e : Tree) : Frame :=
  ⟨f.done, f.factors ++ [if f.negated then .negation e else e], false⟩

/-- The conjunction is over, and another one follows. -/
def next (f : Frame) : Frame := ⟨f.done ++ [.all f.factors], [], false⟩

/-- The disjunction that has been read. -/
def tree (f : Frame) : Tree := .any (f.done ++ [.all f.factors])

end Frame

/-- The innermost frame, the frames around it, and whether a primary has just been read. -/
structure Reading where
  frame : Frame
  outer : List Frame
  complete : Bool

namespace Reading

/-- Takes one lexeme. -/
def step : Reading → Lexeme → Option Reading
  | ⟨f, outer, false⟩, .predicate p => some ⟨f.take (.predicate p), outer, true⟩
  | ⟨f, outer, false⟩, .verdict b => some ⟨f.take (.verdict b), outer, true⟩
  | ⟨⟨done, factors, false⟩, outer, false⟩, .not => some ⟨⟨done, factors, true⟩, outer, false⟩
  | ⟨f, outer, false⟩, .open => some ⟨.empty, f :: outer, false⟩
  | ⟨f, g :: outer, true⟩, .close => some ⟨g.take (.paren f.tree), outer, true⟩
  | ⟨f, outer, true⟩, .and => some ⟨f, outer, false⟩
  | ⟨f, outer, true⟩, .or => some ⟨f.next, outer, false⟩
  | _, _ => none

/-- Takes lexemes one after the other. -/
def run (r : Reading) (ts : List Lexeme) : Option Reading := ts.foldlM step r

/-- The tree of all that has been read, if nothing is missing. -/
def result? (r : Reading) : Option Tree :=
  match r.outer, r.complete with
  | [], true => some r.frame.tree
  | _, _ => none

theorem step_and (f : Frame) (outer : List Frame) :
    step ⟨f, outer, true⟩ .and = some ⟨f, outer, false⟩ := by
  cases outer <;> rfl

theorem step_or (f : Frame) (outer : List Frame) :
    step ⟨f, outer, true⟩ .or = some ⟨f.next, outer, false⟩ := by
  cases outer <;> rfl

theorem run_cons {r r' : Reading} {t : Lexeme} (h : r.step t = some r') (ts : List Lexeme) :
    r.run (t :: ts) = r'.run ts := by
  rw [run, List.foldlM_cons, h]
  rfl

theorem run_append (r : Reading) (ts us : List Lexeme) :
    r.run (ts ++ us) = (r.run ts).bind fun r' => r'.run us := List.foldlM_append

end Reading

/-- The tree of lexemes that are a disjunction. -/
def parse? (ts : List Lexeme) : Option Tree :=
  (Reading.run ⟨.empty, [], false⟩ ts).bind Reading.result?

/-! ## Every expression is parsed -/

/-- What the parser does with an expression of the level, wherever one may stand. -/
def Runs : Level → List Lexeme → Tree → Prop
  | .primary, ts, e =>
    ∀ f outer, Reading.run ⟨f, outer, false⟩ ts = some ⟨f.take e, outer, true⟩
  | .factor, ts, e =>
    ∀ done factors outer, Reading.run ⟨⟨done, factors, false⟩, outer, false⟩ ts =
      some ⟨⟨done, factors ++ [e], false⟩, outer, true⟩
  | .conjunction, ts, e =>
    ∃ factors, e = .all factors ∧
      ∀ done outer, Reading.run ⟨⟨done, [], false⟩, outer, false⟩ ts =
        some ⟨⟨done, factors, false⟩, outer, true⟩
  | .disjunction, ts, e =>
    ∃ f : Frame, f.negated = false ∧ e = f.tree ∧
      ∀ outer, Reading.run ⟨.empty, outer, false⟩ ts = some ⟨f, outer, true⟩

/-- The parser follows every derivation. -/
theorem derives_runs {level : Level} {ts : List Lexeme} {e : Tree} (h : Derives level ts e) :
    Runs level ts e := by
  -- `Runs` leaves the frames around an expression open, so the parts of a derivation fit together.
  induction h with
  | predicate p => exact fun f outer => rfl
  | verdict b => exact fun f outer => rfl
  | @paren ts e _ ih =>
    obtain ⟨inner, -, rfl, hrun⟩ := ih
    intro f outer
    have hopen : Reading.step ⟨f, outer, false⟩ .open = some ⟨.empty, f :: outer, false⟩ := rfl
    rw [List.cons_append, Reading.run_cons hopen, Reading.run_append, hrun]
    rfl
  | plain _ ih => exact fun done factors outer => ih ⟨done, factors, false⟩ outer
  | @not ts e _ ih =>
    intro done factors outer
    have hnot : Reading.step ⟨⟨done, factors, false⟩, outer, false⟩ .not =
      some ⟨⟨done, factors, true⟩, outer, false⟩ := rfl
    rw [Reading.run_cons hnot]
    exact ih ⟨done, factors, true⟩ outer
  | @factor ts e _ ih => exact ⟨[e], rfl, fun done outer => ih done [] outer⟩
  | @and ts us es e _ _ ihleft ihright =>
    obtain ⟨factors, hes, hrun⟩ := ihleft
    cases hes
    refine ⟨es ++ [e], rfl, fun done outer => ?_⟩
    rw [Reading.run_append, hrun, Option.bind_some, Reading.run_cons (Reading.step_and ..)]
    exact ihright done es outer
  | @conjunction ts e _ ih =>
    obtain ⟨factors, rfl, hrun⟩ := ih
    exact ⟨⟨[], factors, false⟩, rfl, rfl, fun outer => hrun [] outer⟩
  | @or ts us es e _ _ ihleft ihright =>
    obtain ⟨⟨done, last, negated⟩, hnegated, hes, hrun⟩ := ihleft
    obtain ⟨factors, rfl, hrun'⟩ := ihright
    cases hnegated
    cases hes
    refine ⟨⟨done ++ [.all last], factors, false⟩, rfl, rfl, fun outer => ?_⟩
    rw [Reading.run_append, hrun, Option.bind_some, Reading.run_cons (Reading.step_or ..)]
    exact hrun' (done ++ [.all last]) outer

theorem parse?_of_derives {ts : List Lexeme} {e : Tree} (h : Derives .disjunction ts e) :
    parse? ts = some e := by
  obtain ⟨f, -, rfl, hrun⟩ := derives_runs h
  rw [parse?, hrun]
  rfl

/-! ## Only expressions are parsed -/

/-- Lexemes up to an OR, or none: a disjunction that is to go on. -/
def BeforeOr (es : List Tree) (ts : List Lexeme) : Prop :=
  (es = [] ∧ ts = []) ∨ ∃ us, ts = us ++ [.or] ∧ Derives .disjunction us (.any es)

/-- Lexemes up to an AND, or none: a conjunction that is to go on. -/
def BeforeAnd (es : List Tree) (ts : List Lexeme) : Prop :=
  (es = [] ∧ ts = []) ∨ ∃ us, ts = us ++ [.and] ∧ Derives .conjunction us (.all es)

theorem BeforeOr.append {es : List Tree} {ts us : List Lexeme} {e : Tree} (h : BeforeOr es ts)
    (hu : Derives .conjunction us e) : Derives .disjunction (ts ++ us) (.any (es ++ [e])) := by
  rcases h with ⟨rfl, rfl⟩ | ⟨ts, rfl, ht⟩
  · exact .conjunction hu
  · rw [List.append_assoc]
    exact .or ht hu

theorem BeforeAnd.append {es : List Tree} {ts us : List Lexeme} {e : Tree} (h : BeforeAnd es ts)
    (hu : Derives .factor us e) : Derives .conjunction (ts ++ us) (.all (es ++ [e])) := by
  rcases h with ⟨rfl, rfl⟩ | ⟨ts, rfl, ht⟩
  · exact .factor hu
  · rw [List.append_assoc]
    exact .and ht hu

namespace Frame

/-- The lexemes lead to the frame, and a primary must follow. -/
def Expects (f : Frame) (ts : List Lexeme) : Prop :=
  ∃ before within, ts = before ++ within ++ (if f.negated then [.not] else []) ∧
    BeforeOr f.done before ∧ BeforeAnd f.factors within

/-- The lexemes lead to the frame, and end with a primary. -/
def Holds (f : Frame) (ts : List Lexeme) : Prop :=
  f.negated = false ∧ ∃ before within, ts = before ++ within ∧
    BeforeOr f.done before ∧ Derives .conjunction within (.all f.factors)

theorem expects_empty : empty.Expects [] :=
  ⟨[], [], rfl, Or.inl ⟨rfl, rfl⟩, Or.inl ⟨rfl, rfl⟩⟩

theorem Expects.take {f : Frame} {ts us : List Lexeme} {e : Tree} (h : f.Expects ts)
    (hu : Derives .primary us e) : (f.take e).Holds (ts ++ us) := by
  obtain ⟨before, within, rfl, hbefore, hwithin⟩ := h
  refine ⟨rfl, before, within ++ ((if f.negated then [.not] else []) ++ us), by simp, hbefore, ?_⟩
  refine hwithin.append ?_
  cases hn : f.negated with
  | false => exact .plain hu
  | true => exact .not hu

theorem Expects.not {f : Frame} {ts : List Lexeme} (h : f.Expects ts) (hn : f.negated = false) :
    Expects ⟨f.done, f.factors, true⟩ (ts ++ [.not]) := by
  obtain ⟨before, within, rfl, hbefore, hwithin⟩ := h
  exact ⟨before, within, by simp [hn], hbefore, hwithin⟩

theorem Holds.tree {f : Frame} {ts : List Lexeme} (h : f.Holds ts) :
    Derives .disjunction ts f.tree := by
  obtain ⟨-, before, within, rfl, hbefore, hwithin⟩ := h
  exact hbefore.append hwithin

theorem Holds.and {f : Frame} {ts : List Lexeme} (h : f.Holds ts) : f.Expects (ts ++ [.and]) := by
  obtain ⟨hn, before, within, rfl, hbefore, hwithin⟩ := h
  exact ⟨before, within ++ [.and], by simp [hn], hbefore, Or.inr ⟨within, rfl, hwithin⟩⟩

theorem Holds.or {f : Frame} {ts : List Lexeme} (h : f.Holds ts) :
    f.next.Expects (ts ++ [.or]) :=
  ⟨ts ++ [.or], [], by simp [next], Or.inr ⟨ts, rfl, h.tree⟩, Or.inl ⟨rfl, rfl⟩⟩

end Frame

/-- The lexemes lead to the frames, the innermost first; every one expects the parenthesis that
stands behind it. -/
inductive Outer : List Frame → List Lexeme → Prop
  | nil : Outer [] []
  | cons {f : Frame} {outer : List Frame} {ts us : List Lexeme} :
      Outer outer ts → f.Expects us → Outer (f :: outer) (ts ++ us ++ [.open])

/-- The lexemes lead to where the parser is. -/
def Reading.Follows (r : Reading) (ts : List Lexeme) : Prop :=
  ∃ before within, ts = before ++ within ∧ Outer r.outer before ∧
    match r.complete with
    | true => r.frame.Holds within
    | false => r.frame.Expects within

theorem Reading.Follows.step {r r' : Reading} {ts : List Lexeme} {t : Lexeme} (h : r.Follows ts)
    (hstep : r.step t = some r') : r'.Follows (ts ++ [t]) := by
  obtain ⟨before, within, rfl, houter, hframe⟩ := h
  unfold Reading.step at hstep
  split at hstep
  · next f outer p =>
    cases hstep
    exact ⟨before, within ++ [.predicate p], by simp, houter, hframe.take (.predicate p)⟩
  · next f outer b =>
    cases hstep
    exact ⟨before, within ++ [.verdict b], by simp, houter, hframe.take (.verdict b)⟩
  · next done factors outer =>
    cases hstep
    refine ⟨before, within ++ [.not], by simp, houter, ?_⟩
    exact Frame.Expects.not hframe rfl
  · next f outer =>
    cases hstep
    exact ⟨before ++ within ++ [.open], [], by simp, .cons houter hframe, Frame.expects_empty⟩
  · next f g outer =>
    cases hstep
    cases houter with
    | @cons _ _ ts us houter hg =>
      refine ⟨ts, us ++ (.open :: within ++ [.close]), by simp, houter, ?_⟩
      exact hg.take (.paren hframe.tree)
  · next f outer =>
    cases hstep
    refine ⟨before, within ++ [.and], by simp, houter, ?_⟩
    exact hframe.and
  · next f outer =>
    cases hstep
    refine ⟨before, within ++ [.or], by simp, houter, ?_⟩
    exact hframe.or
  · cases hstep

theorem Reading.Follows.run {r r' : Reading} {ts us : List Lexeme} (h : r.Follows ts)
    (hrun : r.run us = some r') : r'.Follows (ts ++ us) := by
  induction us generalizing r ts with
  | nil =>
    cases hrun
    rwa [List.append_nil]
  | cons t us ih =>
    obtain ⟨middle, hstep, hrest⟩ := Option.bind_eq_some_iff.mp hrun
    have := ih (h.step hstep) hrest
    rwa [List.append_assoc, List.singleton_append] at this

/-- The parser finds exactly the trees of the grammar. -/
theorem parse?_eq_some_iff {ts : List Lexeme} {e : Tree} :
    parse? ts = some e ↔ Derives .disjunction ts e := by
  refine ⟨fun h => ?_, parse?_of_derives⟩
  obtain ⟨⟨f, outer, complete⟩, hrun, hresult⟩ := Option.bind_eq_some_iff.mp h
  have hstart : Reading.Follows ⟨.empty, [], false⟩ [] := ⟨[], [], rfl, .nil, Frame.expects_empty⟩
  obtain ⟨before, within, rfl, houter, hframe⟩ := hstart.run hrun
  cases outer with
  | cons g outer => cases hresult
  | nil =>
    cases complete with
    | false => cases hresult
    | true =>
      cases hresult
      cases houter
      exact hframe.tree

/-! ## Expressions in texts -/

/-- The text is a boolean expression, and this is its tree. -/
def Tree.IsOf (e : Tree) (s : Text) : Prop :=
  ∃ ts, lexemes? s = some ts ∧ Derives .disjunction ts e

/-- The tree of a text that is a boolean expression. -/
def Tree.read? (s : Text) : Option Tree := (lexemes? s).bind parse?

theorem Tree.read?_eq_some_iff {s : Text} {e : Tree} : Tree.read? s = some e ↔ e.IsOf s := by
  rw [Tree.read?, Option.bind_eq_some_iff]
  exact exists_congr fun ts => and_congr_right fun _ => parse?_eq_some_iff

/-- No expression has two trees. -/
theorem Tree.IsOf.unique {s : Text} {e e' : Tree} (h : e.IsOf s) (h' : e'.IsOf s) : e = e' :=
  Option.some.inj ((Tree.read?_eq_some_iff.mpr h).symm.trans (Tree.read?_eq_some_iff.mpr h'))

end SqlGateway.Sql
