import SqlGateway.Session.Action

/-!
# Bracketed leases

The events of a run are a word in which every lease is a pair of brackets: the event of the lease,
what happens while the connection is held, and the event that gives the connection back. A statement
runs only on a connection that is held, and on the server its cursor is closed at once.

`LeaseWord` is this grammar. Connections are numbered in the order of their leases, so the word also
says which numbers occur: `LeaseWord backend scope k es k'` has the leases from `k + 1` to `k'` and
no other, and statements on these or on a connection of `scope`, which is held all the while. Two
words in a row are a word (`LeaseWord.append`). `Bracketed` is what the grammar amounts to for
single connections (`LeaseWord.bracketed`).
-/

namespace SqlGateway

/-! ## Events of a connection -/

namespace Event

/-- The event leases the connection. -/
def leases (n : Nat) : Event → Bool
  | .acquire m => m = n
  | _ => false

/-- The event gives the connection back, to its pool or for good. -/
def givesBack (n : Nat) : Event → Bool
  | .release m | .closeConnection m => m = n
  | _ => false

/-- The event runs a statement on the connection. -/
def runsOn (n : Nat) : Event → Bool
  | .execute m _ _ => m = n
  | _ => false

/-- The event closes a cursor of the connection. -/
def closesCursor (n : Nat) : Event → Bool
  | .closeCursor m => m = n
  | _ => false

/-- The connection that an event is about. -/
def connection? : Event → Option Nat
  | .acquire n | .execute n _ _ | .fetchAll n | .closeCursor n | .release n | .closeConnection n =>
    some n
  | _ => none

/-- The event is about the pool and no connection. -/
def isQuiet (e : Event) : Bool := e.connection?.isNone

theorem connection?_leases {n : Nat} {e : Event} (h : e.leases n = true) :
    e.connection? = some n := by
  cases e with
  | acquire m => exact congrArg some (of_decide_eq_true h)
  | _ => cases h

theorem connection?_givesBack {n : Nat} {e : Event} (h : e.givesBack n = true) :
    e.connection? = some n := by
  cases e with
  | release m => exact congrArg some (of_decide_eq_true h)
  | closeConnection m => exact congrArg some (of_decide_eq_true h)
  | _ => cases h

end Event

/-! ## The grammar -/

/-- The events of one statement. -/
inductive Statement.Events : Backend → Nat → List Event → Prop
  | supplied (n : Nat) (sql : Text) (parameters : Value) :
      Events .supplied n [.execute n sql parameters]
  | unfetched (n : Nat) (sql : Text) (parameters : Value) :
      Events .server n [.execute n sql parameters, .closeCursor n]
  | fetched (n : Nat) (sql : Text) (parameters : Value) :
      Events .server n [.execute n sql parameters, .fetchAll n, .closeCursor n]

/-- The event that ends a lease. Only the server closes a connection for good. -/
inductive GivesBack : Backend → Nat → Event → Prop
  | release (backend : Backend) (n : Nat) : GivesBack backend n (.release n)
  | closed (n : Nat) : GivesBack .server n (.closeConnection n)

/-- The events are a sequence of complete leases, statements on what is held, and events of the
pool. -/
inductive LeaseWord (backend : Backend) : List Nat → Nat → List Event → Nat → Prop
  | nil {scope : List Nat} {k : Nat} : LeaseWord backend scope k [] k
  | quiet {scope : List Nat} {k k' : Nat} {e : Event} {es : List Event} :
      e.isQuiet = true → LeaseWord backend scope k es k' → LeaseWord backend scope k (e :: es) k'
  | statement {scope : List Nat} {k k' n : Nat} {ts es : List Event} :
      n ∈ scope → Statement.Events backend n ts → LeaseWord backend scope k es k' →
        LeaseWord backend scope k (ts ++ es) k'
  | lease {scope : List Nat} {k k₁ k' : Nat} {e : Event} {held es : List Event} :
      LeaseWord backend ((k + 1) :: scope) (k + 1) held k₁ → GivesBack backend (k + 1) e →
        LeaseWord backend scope k₁ es k' →
        LeaseWord backend scope k (.acquire (k + 1) :: (held ++ e :: es)) k'

namespace LeaseWord

variable {backend : Backend} {scope : List Nat} {k k₁ k' : Nat} {es fs : List Event}

theorem append (h : LeaseWord backend scope k es k₁) (hf : LeaseWord backend scope k₁ fs k') :
    LeaseWord backend scope k (es ++ fs) k' := by
  induction h with
  | nil => exact hf
  | quiet he _ ih => exact .quiet he (ih hf)
  | statement hn hts _ ih =>
    rw [List.append_assoc]
    exact .statement hn hts (ih hf)
  | lease hheld he _ _ ih =>
    rw [List.cons_append, List.append_assoc, List.cons_append]
    exact .lease hheld he (ih hf)

theorem of_quiet (h : ∀ e ∈ es, e.isQuiet = true) : LeaseWord backend scope k es k := by
  induction es with
  | nil => exact .nil
  | cons e es ih =>
    exact .quiet (h e (List.mem_cons_self ..)) (ih fun e he => h e (List.mem_cons_of_mem _ he))

/-! ## Numbers -/

theorem le (h : LeaseWord backend scope k es k') : k ≤ k' := by
  induction h with
  | nil => exact Nat.le_refl _
  | quiet _ _ ih => exact ih
  | statement _ _ _ ih => exact ih
  | lease _ _ _ ih₁ ih₂ => omega

end LeaseWord

theorem Statement.Events.connection {backend : Backend} {n : Nat} {ts : List Event}
    (h : Statement.Events backend n ts) : ∀ e ∈ ts, e.connection? = some n ∧
      ∀ m, e.leases m = false ∧ e.givesBack m = false := by
  cases h <;> simp [Event.connection?, Event.leases, Event.givesBack]

theorem GivesBack.givesBack_eq {backend : Backend} {n : Nat} {e : Event}
    (h : GivesBack backend n e) (m : Nat) :
    e.givesBack m = decide (n = m) ∧ e.leases m = false ∧ e.runsOn m = false ∧
      e.closesCursor m = false ∧ e.connection? = some n := by
  cases h <;> exact ⟨rfl, rfl, rfl, rfl, rfl⟩

namespace LeaseWord

variable {backend : Backend} {scope : List Nat} {k k' : Nat} {es : List Event}

/-- Leases and their ends have the numbers of the word, and everything else that is about a
connection has one of these or one that is held. -/
theorem numbers (h : LeaseWord backend scope k es k') : ∀ e ∈ es, ∀ n, e.connection? = some n →
    (k < n ∧ n ≤ k') ∨ (n ∈ scope ∧ e.leases n = false ∧ e.givesBack n = false) := by
  induction h with
  | nil =>
    intro e he
    cases he
  | quiet hquiet _ ih =>
    intro e he n hn
    rcases List.mem_cons.mp he with rfl | he
    · rw [Event.isQuiet, hn] at hquiet
      cases hquiet
    · exact ih e he n hn
  | @statement scope k k' m ts es hm hts _ ih =>
    intro e he n hn
    rcases List.mem_append.mp he with he | he
    · obtain ⟨hconnection, hneither⟩ := hts.connection e he
      obtain rfl : m = n := Option.some.inj (hconnection.symm.trans hn)
      exact Or.inr ⟨hm, hneither m⟩
    · exact ih e he n hn
  | @lease scope k k₁ k' last held es hheld hback hes ih₁ ih₂ =>
    have hle := hheld.le
    have hle' := hes.le
    intro e he n hn
    rcases List.mem_cons.mp he with rfl | he
    · cases hn
      exact Or.inl (by omega)
    rcases List.mem_append.mp he with he | he
    · rcases ih₁ e he n hn with hrange | ⟨hscope, hneither⟩
      · exact Or.inl (by omega)
      · rcases List.mem_cons.mp hscope with rfl | hscope
        · exact Or.inl (by omega)
        · exact Or.inr ⟨hscope, hneither⟩
    rcases List.mem_cons.mp he with rfl | he
    · obtain rfl : k + 1 = n :=
        Option.some.inj ((hback.givesBack_eq 0).2.2.2.2.symm.trans hn)
      exact Or.inl (by omega)
    · rcases ih₂ e he n hn with hrange | hscope
      · exact Or.inl (by omega)
      · exact Or.inr hscope

end LeaseWord

/-! ## Single connections -/

theorem Event.quiet_neither {e : Event} (h : e.isQuiet = true) (n : Nat) :
    e.leases n = false ∧ e.givesBack n = false ∧ e.runsOn n = false ∧ e.closesCursor n = false := by
  cases e <;> first | exact ⟨rfl, rfl, rfl, rfl⟩ | cases h

namespace LeaseWord

variable {backend : Backend} {scope : List Nat} {k k' : Nat} {es : List Event}

/-- A word neither leases nor gives back a connection whose number is not its own. -/
theorem count_outside (h : LeaseWord backend scope k es k') {n : Nat} (hn : n ≤ k ∨ k' < n) :
    es.countP (Event.leases n) = 0 ∧ es.countP (Event.givesBack n) = 0 := by
  constructor
  · refine List.countP_eq_zero.mpr fun e he hleases => ?_
    rcases h.numbers e he n (Event.connection?_leases hleases) with hrange | ⟨-, hneither, -⟩
    · omega
    · rw [hneither] at hleases
      cases hleases
  · refine List.countP_eq_zero.mpr fun e he hback => ?_
    rcases h.numbers e he n (Event.connection?_givesBack hback) with hrange | ⟨-, -, hneither⟩
    · omega
    · rw [hneither] at hback
      cases hback

/-- Every connection is leased at most once and given back as often. -/
theorem matched (h : LeaseWord backend scope k es k') (n : Nat) :
    es.countP (Event.leases n) = es.countP (Event.givesBack n) ∧
      es.countP (Event.leases n) ≤ 1 := by
  induction h with
  | nil => exact ⟨rfl, Nat.zero_le 1⟩
  | quiet hquiet _ ih =>
    obtain ⟨hleases, hback, -, -⟩ := Event.quiet_neither hquiet n
    simpa [List.countP_cons, hleases, hback] using ih
  | @statement scope k k' m ts es hm hts _ ih =>
    have hzero : ts.countP (Event.leases n) = 0 ∧ ts.countP (Event.givesBack n) = 0 := by
      constructor
      · refine List.countP_eq_zero.mpr fun e he => ?_
        simp [((hts.connection e he).2 n).1]
      · refine List.countP_eq_zero.mpr fun e he => ?_
        simp [((hts.connection e he).2 n).2]
    simpa [List.countP_append, hzero.1, hzero.2] using ih
  | @lease scope k k₁ k' last held es hheld hback hes ih₁ ih₂ =>
    obtain ⟨hends, hleases, -⟩ := hback.givesBack_eq n
    have hle := hheld.le
    have hle' := hes.le
    have hfirst : Event.leases n (.acquire (k + 1)) = decide (k + 1 = n) := rfl
    have hback' : Event.givesBack n (.acquire (k + 1)) = false := rfl
    simp only [List.countP_cons, List.countP_append, hfirst, hback', hends, hleases]
    -- The number belongs to the lease itself, to what was done meanwhile, or to what came after.
    by_cases hn : k + 1 = n
    · obtain ⟨hheld₁, hheld₂⟩ := hheld.count_outside (n := n) (Or.inl (by omega))
      obtain ⟨hes₁, hes₂⟩ := hes.count_outside (n := n) (Or.inl (by omega))
      simp [hn, hheld₁, hheld₂, hes₁, hes₂]
    · by_cases hinner : n ≤ k₁
      · obtain ⟨hes₁, hes₂⟩ := hes.count_outside (Or.inl hinner)
        simpa [hn, hes₁, hes₂] using ih₁
      · obtain ⟨hheld₁, hheld₂⟩ := hheld.count_outside (n := n) (Or.inr (by omega))
        simpa [hn, hheld₁, hheld₂] using ih₂

theorem range_of_leases (h : LeaseWord backend scope k es k') {e : Event} (he : e ∈ es) {n : Nat}
    (hn : e.leases n = true) : k < n ∧ n ≤ k' := by
  rcases h.numbers e he n (Event.connection?_leases hn) with hrange | ⟨-, hneither, -⟩
  · exact hrange
  · rw [hneither] at hn
    cases hn

theorem range_of_givesBack (h : LeaseWord backend scope k es k') {e : Event} (he : e ∈ es)
    {n : Nat} (hn : e.givesBack n = true) : k < n ∧ n ≤ k' := by
  rcases h.numbers e he n (Event.connection?_givesBack hn) with hrange | ⟨-, -, hneither⟩
  · exact hrange
  · rw [hneither] at hn
    cases hn

/-- A connection is not used before its lease and not after it has been given back. -/
def InOrder (e f : Event) : Prop :=
  ∀ n, (e.givesBack n = true → f.connection? ≠ some n) ∧
    (f.leases n = true → e.connection? ≠ some n)

theorem inOrder (h : LeaseWord backend scope k es k') (hscope : ∀ m ∈ scope, m ≤ k) :
    es.Pairwise InOrder := by
  induction h with
  | nil => exact .nil
  | @quiet scope k k' e es hquiet _ ih =>
    refine .cons (fun f _ n => ⟨fun hback => ?_, fun _ he => ?_⟩) (ih hscope)
    · rw [(Event.quiet_neither hquiet n).2.1] at hback
      cases hback
    · rw [Event.isQuiet, he] at hquiet
      cases hquiet
  | @statement scope k k' m ts es hm hts hes ih =>
    refine List.pairwise_append.mpr ⟨?_, ih hscope, fun e he f hf n => ⟨fun hback => ?_, ?_⟩⟩
    · refine List.pairwise_of_forall_mem_list fun e he f hf n => ⟨fun hback => ?_, fun hl => ?_⟩
      · rw [((hts.connection e he).2 n).2] at hback
        cases hback
      · rw [((hts.connection f hf).2 n).1] at hl
        cases hl
    · rw [((hts.connection e he).2 n).2] at hback
      cases hback
    · intro hleases hconnection
      obtain rfl : m = n := Option.some.inj ((hts.connection e he).1.symm.trans hconnection)
      have := hes.range_of_leases hf hleases
      have := hscope m hm
      omega
  | @lease scope k k₁ k' last held es hheld hback hes ih₁ ih₂ =>
    have hle := hheld.le
    have hlast : last.connection? = some (k + 1) := (hback.givesBack_eq 0).2.2.2.2
    have hheldScope : ∀ m ∈ (k + 1) :: scope, m ≤ k + 1 := by
      intro m hm
      rcases List.mem_cons.mp hm with rfl | hm
      · exact Nat.le_refl _
      · exact Nat.le_succ_of_le (hscope m hm)
    -- What comes after the lease is about later connections, or about those that are held.
    have hafter : ∀ f ∈ es, ∀ n, k < n → n ≤ k₁ → f.connection? ≠ some n := by
      intro f hf n hk hk₁ hn
      rcases hes.numbers f hf n hn with hrange | ⟨hmem, -⟩
      · omega
      · have := hscope n hmem
        omega
    have hfirst : ∀ f ∈ held ++ last :: es, InOrder (.acquire (k + 1)) f := by
      intro f hf n
      refine ⟨nofun, fun hleases hn => ?_⟩
      cases hn
      rcases List.mem_append.mp hf with hf | hf
      · have := hheld.range_of_leases hf hleases
        omega
      · rcases List.mem_cons.mp hf with rfl | hf
        · rw [(hback.givesBack_eq (k + 1)).2.1] at hleases
          cases hleases
        · have := hes.range_of_leases hf hleases
          omega
    have hends : ∀ f ∈ es, InOrder last f := by
      intro f hf n
      refine ⟨fun hn => ?_, fun hleases hn => ?_⟩
      · rw [(hback.givesBack_eq n).1, decide_eq_true_eq] at hn
        exact hafter f hf n (by omega) (by omega)
      · obtain rfl : k + 1 = n := Option.some.inj (hlast.symm.trans hn)
        have := hes.range_of_leases hf hleases
        omega
    have hacross : ∀ e ∈ held, ∀ f ∈ last :: es, InOrder e f := by
      intro e he f hf n
      refine ⟨fun hn => ?_, fun hleases hn => ?_⟩
      · have hrange := hheld.range_of_givesBack he hn
        rcases List.mem_cons.mp hf with rfl | hf
        · rw [hlast]
          intro hsame
          have := Option.some.inj hsame
          omega
        · exact hafter f hf n (by omega) hrange.2
      · rcases List.mem_cons.mp hf with rfl | hf
        · rw [(hback.givesBack_eq n).2.1] at hleases
          cases hleases
        · have := hes.range_of_leases hf hleases
          rcases hheld.numbers e he n hn with hrange | ⟨hmem, -⟩
          · omega
          · have := hheldScope n hmem
            omega
    exact .cons hfirst (List.pairwise_append.mpr ⟨ih₁ hheldScope,
      .cons hends (ih₂ fun m hm => Nat.le_trans (hscope m hm) (by omega)), hacross⟩)

end LeaseWord

/-! ## Brackets -/

/-- The cursor of every statement is closed at once, or after its rows have been fetched. -/
def CursorsClosed : List Event → Prop
  | [] => True
  | .execute n _ _ :: rest =>
    (∃ after, rest = .closeCursor n :: after ∨ rest = .fetchAll n :: .closeCursor n :: after) ∧
      CursorsClosed rest
  | _ :: rest => CursorsClosed rest

theorem CursorsClosed.append {es fs : List Event} (he : CursorsClosed es)
    (hf : CursorsClosed fs) : CursorsClosed (es ++ fs) := by
  induction es with
  | nil => exact hf
  | cons e es ih =>
    cases e with
    | execute n sql parameters =>
      obtain ⟨⟨after, hafter⟩, hrest⟩ := he
      refine ⟨⟨after ++ fs, ?_⟩, ih hrest⟩
      rcases hafter with rfl | rfl
      · exact Or.inl rfl
      · exact Or.inr rfl
    | _ => exact ih he

/-- The events of a run in which no lease is outstanding. -/
structure Bracketed (backend : Backend) (es : List Event) : Prop where
  /-- The leases are nested, and statements run on connections that are held. -/
  nested : ∃ k, LeaseWord backend [] 0 es k
  /-- Every connection that was leased was given back once. -/
  matched : ∀ n, es.countP (Event.leases n) = es.countP (Event.givesBack n) ∧
    es.countP (Event.leases n) ≤ 1
  /-- No connection is used before its lease or after it was given back. -/
  inOrder : es.Pairwise LeaseWord.InOrder
  /-- On the server, every statement has its cursor closed before anything else is done. -/
  cursors : backend = .server → CursorsClosed es ∧
    ∀ n, es.countP (Event.runsOn n) = es.countP (Event.closesCursor n)

namespace LeaseWord

theorem cursorsClosed {scope : List Nat} {k k' : Nat} {es : List Event}
    (h : LeaseWord .server scope k es k') : CursorsClosed es := by
  induction h with
  | nil => trivial
  | @quiet scope k k' e es hquiet _ ih =>
    cases e <;> first | exact ih | cases hquiet
  | statement _ hts _ ih =>
    refine CursorsClosed.append ?_ ih
    cases hts with
    | unfetched n sql parameters => exact ⟨⟨[], Or.inl rfl⟩, trivial⟩
    | fetched n sql parameters => exact ⟨⟨[], Or.inr rfl⟩, trivial⟩
  | lease _ hback _ ih₁ ih₂ =>
    change CursorsClosed (_ ++ _)
    refine ih₁.append ?_
    cases hback <;> exact ih₂

theorem cursorsMatched {scope : List Nat} {k k' : Nat} {es : List Event}
    (h : LeaseWord .server scope k es k') (n : Nat) :
    es.countP (Event.runsOn n) = es.countP (Event.closesCursor n) := by
  induction h with
  | nil => rfl
  | quiet hquiet _ ih =>
    obtain ⟨-, -, hruns, hcloses⟩ := Event.quiet_neither hquiet n
    simpa [List.countP_cons, hruns, hcloses] using ih
  | statement _ hts _ ih =>
    cases hts with
    | unfetched m sql parameters | fetched m sql parameters =>
      simpa [List.countP_cons, Event.runsOn, Event.closesCursor] using ih
  | lease _ hback _ ih₁ ih₂ =>
    obtain ⟨-, -, hruns, hcloses, -⟩ := hback.givesBack_eq n
    have hruns' (m : Nat) : Event.runsOn n (.acquire m) = false := rfl
    have hcloses' (m : Nat) : Event.closesCursor n (.acquire m) = false := rfl
    simp [List.countP_append, hruns, hcloses, hruns', hcloses', ih₁, ih₂]

/-- A word in which nothing is held from outside has no lease outstanding. -/
theorem bracketed {backend : Backend} {k : Nat} {es : List Event}
    (h : LeaseWord backend [] 0 es k) : Bracketed backend es where
  nested := ⟨k, h⟩
  matched := h.matched
  inOrder := h.inOrder nofun
  cursors := by
    rintro rfl
    exact ⟨h.cursorsClosed, h.cursorsMatched⟩

end LeaseWord

end SqlGateway
