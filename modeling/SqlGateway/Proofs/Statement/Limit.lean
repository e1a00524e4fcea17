import SqlGateway.Proofs.Statement.Factoring
import SqlGateway.Proofs.Text.Basic

/-!
# Tails with a limit

The search for a limit goes through the characters of a tail. `Mention` is what it looks for, a
place where the word LIMIT stands with a blank after it, and the search succeeds exactly if there is
one (`hasLimit_iff`).

* A LIMIT clause is more than a mention: the word stands outside quotation marks and consists of the
  letters A to Z (`HasClause`). A tail without a clause is left without a limit exactly if the word
  is mentioned in it, that is, within quotation marks or with an i that has the wrong dot
  (`ensureLimit_isLimited_iff`).
* Once a limit is ensured the search finds it, and the tail has no blanks around it. So to ensure a
  limit again, or to select with this tail, changes nothing (`selectOne_ensured`).
-/

namespace SqlGateway.Statement

open SqlGateway.Sql

/-! ## The word LIMIT -/

/-- The last character of the text belongs to a word. -/
def endsInWord (s : Text) : Bool := s.getLast?.any Text.isWordChar

/-- A place of a text where the word LIMIT stands, as the search recognises it: no word reaches up
to it, and a blank follows it. -/
structure Mention (s : Text) where
  before : Text
  word : Text
  blank : Char
  rest : Text
  text_eq : s = before ++ (word ++ blank :: rest)
  starts : endsInWord before = false
  spelled : List.Forall₂ (fun small c => isLetter small c = true) "limit".toList word
  isBlank : Text.isBlank blank = true

theorem startsWithWord_iff {letters s : Text} : startsWithWord letters s = true ↔
    ∃ word blank rest, s = word ++ blank :: rest ∧
      List.Forall₂ (fun small c => isLetter small c = true) letters word ∧
      Text.isBlank blank = true := by
  induction letters generalizing s with
  | nil =>
    cases s with
    | nil => simp [startsWithWord]
    | cons c s =>
      simp only [startsWithWord, List.forall₂_nil_left_iff]
      constructor
      · intro h
        exact ⟨[], c, s, rfl, rfl, h⟩
      · rintro ⟨word, blank, rest, he, rfl, h⟩
        cases he
        exact h
  | cons small letters ih =>
    cases s with
    | nil => simp [startsWithWord]
    | cons c s =>
      simp only [startsWithWord, Bool.and_eq_true, ih]
      constructor
      · rintro ⟨hc, word, blank, rest, rfl, hword, hblank⟩
        exact ⟨c :: word, blank, rest, rfl, .cons hc hword, hblank⟩
      · rintro ⟨word, blank, rest, he, hword, hblank⟩
        cases hword with
        | cons hc hword =>
          cases he
          exact ⟨hc, _, blank, rest, rfl, hword, hblank⟩

/-- `inWord` sums up what stands before the text that is searched. -/
theorem hasLimitFrom_iff {inWord : Bool} {s : Text} : hasLimitFrom inWord s = true ↔
    ∃ before rest, s = before ++ rest ∧
      before.foldl (fun _ c => Text.isWordChar c) inWord = false ∧
      startsWithWord "limit".toList rest = true := by
  induction s generalizing inWord with
  | nil =>
    constructor
    · intro h
      cases h
    · rintro ⟨before, rest, he, -, hrest⟩
      obtain ⟨rfl, rfl⟩ := List.append_eq_nil_iff.mp he.symm
      cases hrest
  | cons c s ih =>
    simp only [hasLimitFrom, Bool.or_eq_true, Bool.and_eq_true, Bool.not_eq_true', ih]
    constructor
    · rintro (⟨hword, hrest⟩ | ⟨before, rest, rfl, hword, hrest⟩)
      · exact ⟨[], c :: s, rfl, hword, hrest⟩
      · exact ⟨c :: before, rest, rfl, hword, hrest⟩
    · rintro ⟨before, rest, he, hword, hrest⟩
      cases before with
      | nil =>
        obtain rfl : c :: s = rest := he
        exact Or.inl ⟨hword, hrest⟩
      | cons d before =>
        cases he
        exact Or.inr ⟨before, rest, rfl, hword, hrest⟩

theorem foldl_isWordChar (s : Text) :
    s.foldl (fun _ c => Text.isWordChar c) false = endsInWord s := by
  rcases List.eq_nil_or_concat s with rfl | ⟨s, c, rfl⟩ <;> simp [endsInWord]

/-- The search finds a limit exactly if the word is mentioned. -/
theorem hasLimit_iff {s : Text} : hasLimit s = true ↔ Nonempty (Mention s) := by
  simp only [hasLimit, hasLimitFrom_iff, foldl_isWordChar]
  constructor
  · rintro ⟨before, rest, rfl, hstarts, hrest⟩
    obtain ⟨word, blank, rest, rfl, hword, hblank⟩ := startsWithWord_iff.mp hrest
    exact ⟨⟨before, word, blank, rest, rfl, hstarts, hword, hblank⟩⟩
  · rintro ⟨m⟩
    exact ⟨m.before, _, m.text_eq, m.starts,
      startsWithWord_iff.mpr ⟨_, _, _, rfl, m.spelled, m.isBlank⟩⟩

/-! ## LIMIT clauses -/

/-- The text has a LIMIT clause: outside quotation marks it has the letters of the word, in either
case, with no word reaching up to them and a blank after them. -/
def HasClause (s : Text) : Prop :=
  ∃ before word blank rest, s = before ++ (word ++ blank :: rest) ∧
    before.foldl Region.next .plain = .plain ∧ endsInWord before = false ∧
    word.map Char.toLower = "limit".toList ∧ Text.isBlank blank = true

/-- A clause begins at a place of the text. -/
def clauseAt (s : Text) (k : Nat) : Bool :=
  ((s.drop k).take 5).map Char.toLower = "limit".toList && s[k + 5]?.any Text.isBlank &&
    (s.take k).foldl Region.next .plain = .plain && !endsInWord (s.take k)

theorem hasClause_iff_any {s : Text} :
    HasClause s ↔ (List.range s.length).any (clauseAt s) = true := by
  simp only [List.any_eq_true, List.mem_range, clauseAt, Bool.and_eq_true, decide_eq_true_eq,
    Bool.not_eq_true', Option.any_eq_true]
  constructor
  · rintro ⟨before, word, blank, rest, rfl, hregion, hstarts, hword, hblank⟩
    have hlength : word.length = 5 := by simpa using congrArg List.length hword
    refine ⟨before.length, ?_, ?_⟩
    · simp only [List.length_append, List.length_cons]
      omega
    · simp [hregion, hstarts, hword, hblank, ← hlength]
  · rintro ⟨k, -, ⟨⟨hword, blank, hat, hblank⟩, hregion⟩, hstarts⟩
    obtain ⟨hlt, rfl⟩ := List.getElem?_eq_some_iff.mp hat
    refine ⟨s.take k, (s.drop k).take 5, s[k + 5], s.drop (k + 6), ?_, hregion, hstarts, hword,
      hblank⟩
    rw [← List.drop_eq_getElem_cons hlt, ← List.drop_drop, List.take_append_drop,
      List.take_append_drop]

instance (s : Text) : Decidable (HasClause s) := decidable_of_iff _ hasClause_iff_any.symm

example : HasClause "ORDER BY `limit `, 'limit '\nLimit\t5".toList := by decide +kernel

namespace Mention

variable {s : Text}

/-- The word stands within quotation marks: in a string or in an identifier. -/
def IsQuoted (m : Mention s) : Prop := m.before.foldl Region.next .plain ≠ .plain

/-- The word has a capital i with a dot or a small i without one. -/
def IsMisspelled (m : Mention s) : Prop :=
  ∃ c ∈ m.word, c = Char.ofNat 0x130 ∨ c = Char.ofNat 0x131

end Mention

/-- A letter is spelled with A to Z unless it is one of the two that count as an i besides. -/
theorem toLower_eq_iff {small : Char} (hsmall : small ∈ "limit".toList) (c : Char) :
    small = c.toLower ↔
      isLetter small c = true ∧ ¬(c = Char.ofNat 0x130 ∨ c = Char.ofNat 0x131) := by
  simp only [isLetter, Bool.or_eq_true, Bool.and_eq_true, decide_eq_true_eq]
  constructor
  · rintro rfl
    refine ⟨Or.inl rfl, ?_⟩
    rintro (rfl | rfl) <;> exact absurd hsmall (by decide)
  · rintro ⟨he | ⟨-, hc⟩, hplain⟩
    · exact he.symm
    · exact absurd hc hplain

theorem map_toLower_eq_iff {word : Text} : word.map Char.toLower = "limit".toList ↔
    List.Forall₂ (fun small c => isLetter small c = true) "limit".toList word ∧
      ∀ c ∈ word, ¬(c = Char.ofNat 0x130 ∨ c = Char.ofNat 0x131) := by
  have hall (letters word : Text) (hletters : ∀ small ∈ letters, small ∈ "limit".toList) :
      letters = word.map Char.toLower ↔
        List.Forall₂ (fun small c => isLetter small c = true) letters word ∧
          ∀ c ∈ word, ¬(c = Char.ofNat 0x130 ∨ c = Char.ofNat 0x131) := by
    induction letters generalizing word with
    | nil => cases word <;> simp
    | cons small letters ih =>
      obtain ⟨hsmall, hletters⟩ := List.forall_mem_cons.mp hletters
      cases word with
      | nil => simp
      | cons c word =>
        rw [List.map_cons, List.cons.injEq, toLower_eq_iff hsmall, ih word hletters,
          List.forall₂_cons, List.forall_mem_cons]
        exact and_and_and_comm
  rw [eq_comm]
  exact hall _ word fun _ h => h

/-- A clause is a mention outside quotation marks with the letters A to Z. -/
theorem hasClause_iff {s : Text} :
    HasClause s ↔ ∃ m : Mention s, ¬m.IsQuoted ∧ ¬m.IsMisspelled := by
  simp only [Mention.IsQuoted, Mention.IsMisspelled, not_not, not_exists, not_and]
  constructor
  · rintro ⟨before, word, blank, rest, he, hregion, hstarts, hword, hblank⟩
    obtain ⟨hspelled, hplain⟩ := map_toLower_eq_iff.mp hword
    exact ⟨⟨before, word, blank, rest, he, hstarts, hspelled, hblank⟩, hregion, hplain⟩
  · rintro ⟨m, hregion, hplain⟩
    exact ⟨m.before, m.word, m.blank, m.rest, m.text_eq, hregion, m.starts,
      map_toLower_eq_iff.mpr ⟨m.spelled, hplain⟩, m.isBlank⟩

theorem not_hasClause_iff {s : Text} :
    ¬HasClause s ↔ ∀ m : Mention s, m.IsQuoted ∨ m.IsMisspelled := by
  rw [hasClause_iff, not_exists]
  exact forall_congr' fun m => by rw [← not_or, not_not]

theorem HasClause.mention {s : Text} (h : HasClause s) : Nonempty (Mention s) := by
  obtain ⟨m, -⟩ := hasClause_iff.mp h
  exact ⟨m⟩

/-! ## Ensuring a limit -/

/-- The tail with a limit of one row after it. -/
def withLimit (tail : Text) : Text :=
  if tail = [] then "LIMIT 1".toList else tail ++ " LIMIT 1".toList

theorem joinClauses_limit (tail : Text) :
    joinClauses [tail, "LIMIT 1".toList] = withLimit tail := by
  cases tail with
  | nil => rfl
  | cons c tail =>
    rw [joinClauses_cons (List.cons_ne_nil c tail), withLimit, if_neg (List.cons_ne_nil c tail)]
    rfl

theorem withLimit_ne (tail : Text) : withLimit tail ≠ tail := by
  unfold withLimit
  split
  · next h =>
    rw [h]
    exact List.cons_ne_nil _ _
  · simp

/-- A tail is kept if the word is mentioned in it, and gets a limit otherwise. -/
theorem ensureLimit_tailValue (tail? : Option Text) : ensureLimit (tailValue tail?) =
    .ok (if hasLimit (tailText tail?) then tailText tail? else withLimit (tailText tail?)) := by
  have htext (s : Text) : limitTail s =
      if hasLimit (Text.strip s) then Text.strip s else withLimit (Text.strip s) := by
    rw [limitTail, joinClauses_limit]
  cases tail? with
  | none => rfl
  | some s =>
    rw [tailText, ← htext]
    cases s <;> rfl

/-- The tail is kept exactly if it has a LIMIT clause, and gets a limit otherwise. -/
def IsLimited (tail limited : Text) : Prop :=
  (limited = tail ↔ HasClause tail) ∧ (¬HasClause tail → limited = withLimit tail)

theorem isLimited_self_iff {tail : Text} : IsLimited tail tail ↔ HasClause tail := by
  constructor
  · intro h
    exact h.1.mp rfl
  · intro h
    exact ⟨iff_of_true rfl h, fun hnone => absurd h hnone⟩

theorem isLimited_withLimit {tail : Text} (h : ¬HasClause tail) :
    IsLimited tail (withLimit tail) :=
  ⟨iff_of_false (withLimit_ne tail) h, fun _ => rfl⟩

/-- A tail in which the word is mentioned is kept, any other gets a limit. This goes by LIMIT
clauses except where the word is mentioned, but every time within quotation marks or with an i that
has the wrong dot: such a tail is kept although it has no clause. -/
theorem ensureLimit_isLimited_iff (s : Text) :
    ∃ limited, ensureLimit (.text s) = .ok limited ∧
      (Nonempty (Mention (Text.strip s)) ∧ limited = Text.strip s ∨
        ¬Nonempty (Mention (Text.strip s)) ∧ limited = withLimit (Text.strip s)) ∧
      (¬IsLimited (Text.strip s) limited ↔ Nonempty (Mention (Text.strip s)) ∧
        ∀ m : Mention (Text.strip s), m.IsQuoted ∨ m.IsMisspelled) := by
  refine ⟨_, ensureLimit_tailValue (some s), ?_⟩
  rw [tailText, ← not_hasClause_iff, ← hasLimit_iff]
  by_cases hmention : hasLimit (Text.strip s) = true
  · rw [if_pos hmention, isLimited_self_iff]
    exact ⟨Or.inl ⟨hmention, rfl⟩, (and_iff_right hmention).symm⟩
  · rw [if_neg hmention]
    have hclause : ¬HasClause (Text.strip s) := fun h => hmention (hasLimit_iff.mpr h.mention)
    refine ⟨Or.inr ⟨hmention, rfl⟩, ?_⟩
    exact iff_of_false (not_not.mpr (isLimited_withLimit hclause)) fun h => hmention h.1

/-- A tail whose only mention of the word stands in a string. -/
def quotedMention : Text := "ORDER BY FIELD(state, 'no limit left')".toList

/-- It has no clause and is left without a limit. -/
theorem quotedMention_not_isLimited : ensureLimit (.text quotedMention) = .ok quotedMention ∧
    ¬HasClause (Text.strip quotedMention) ∧
    ¬IsLimited (Text.strip quotedMention) quotedMention := by
  have hstrip : Text.strip quotedMention = quotedMention := by decide +kernel
  have hclause : ¬HasClause quotedMention := by decide +kernel
  rw [hstrip, isLimited_self_iff]
  exact ⟨by decide +kernel, hclause, hclause⟩

/-! ## Selecting one row -/

theorem mention_withLimit (tail : Text) : Nonempty (Mention (withLimit tail)) := by
  have hspelled : List.Forall₂ (fun small c => isLetter small c = true) "limit".toList
      "LIMIT".toList := by decide
  unfold withLimit
  split
  · exact ⟨⟨[], "LIMIT".toList, ' ', ['1'], rfl, rfl, hspelled, by decide⟩⟩
  · refine ⟨⟨tail ++ [' '], "LIMIT".toList, ' ', ['1'], by simp, ?_, hspelled, by decide⟩⟩
    have hspace : Text.isWordChar ' ' = false := by decide +kernel
    simp [endsInWord, hspace]

theorem isStripped_withLimit {tail : Text} (h : Text.IsStripped tail) :
    Text.IsStripped (withLimit tail) := by
  have hfirst : ¬Text.isBlank 'L' = true := by decide
  have hlast : ¬Text.isBlank '1' = true := by decide
  unfold withLimit
  split
  · constructor
    · rintro c ⟨⟩
      exact hfirst
    · rintro c ⟨⟩
      exact hlast
  · next hne =>
    constructor
    · rw [List.head?_append_of_ne_nil _ hne]
      exact h.1
    · have hadded : " LIMIT 1".toList ≠ [] := List.cons_ne_nil _ _
      rw [List.getLast?_append_of_ne_nil tail hadded]
      rintro c ⟨⟩
      exact hlast

theorem not_isBlank_of_hasLimit {s : Text} (hs : Text.IsStripped s) (h : hasLimit s = true) :
    ¬Condition.IsBlank s := by
  rw [← Condition.strip_isEmpty_iff, Text.strip_eq_self_iff.mpr hs, List.isEmpty_iff]
  rintro rfl
  cases h

/-- A stripped text at the end of a statement is a clause of its own. -/
theorem ending_text {tail clause : Text} (hne : tail ≠ []) (htail : Text.IsStripped tail)
    (hclause : clause ≠ []) (zone : ZoneChoice) (clauses : List Text) (condition : Value) :
    ending zone (clause :: clauses) condition (.text tail) =
      (ending zone (clause :: clauses) condition .null).map fun s => s ++ ' ' :: tail := by
  cases hcondition : Condition.ofValueSql? zone condition with
  | error f =>
    rw [ending, ending, whereClause, hcondition]
    rfl
  | ok s? =>
    have htext := ending_eq hcondition hclause clauses (some tail)
    have hnull := ending_eq hcondition hclause clauses none
    simp only [tailValue, remainder, tailText, Text.strip_eq_self_iff.mpr htail] at htext hnull
    rw [htext, hnull]
    simp [Except.map, spaced, hne]

theorem isStripped_tailText (tail? : Option Text) : Text.IsStripped (tailText tail?) := by
  cases tail? with
  | none => exact ⟨nofun, nofun⟩
  | some s => exact Text.isStripped_strip s

/-- A stripped tail with a limit is kept. -/
theorem ensureLimit_of_hasLimit {tail : Text} (htail : Text.IsStripped tail)
    (h : hasLimit tail = true) : ensureLimit (.text tail) = .ok tail := by
  have hensured := ensureLimit_tailValue (some tail)
  rwa [tailText, Text.strip_eq_self_iff.mpr htail, if_pos h] at hensured

theorem exists_ensureLimit (tail? : Option Text) :
    ∃ limited, ensureLimit (tailValue tail?) = .ok limited ∧ Text.IsStripped limited ∧
      hasLimit limited = true ∧
      (limited = tailText tail? ∨ limited = withLimit (tailText tail?)) := by
  have htail := isStripped_tailText tail?
  refine ⟨_, ensureLimit_tailValue tail?, ?_⟩
  split
  · next h => exact ⟨htail, h, Or.inl rfl⟩
  · exact ⟨isStripped_withLimit htail, hasLimit_iff.mpr (mention_withLimit _), Or.inr rfl⟩

theorem selectOne_eq {tail : Value} {limited : Text} (h : ensureLimit tail = .ok limited)
    (zone : ZoneChoice) (table fields condition : Value) :
    selectOne zone table fields condition tail =
      select zone table fields condition (.text limited) := by
  rw [selectOne, h]
  rfl

/-- Once a limit has been ensured, the tail is not blank, the search finds the limit, and nothing
more is added. To select one row with the original tail is to select with this one, and it is to
select one row with this one; the statement is the one without a tail with this one at its end. -/
theorem selectOne_ensured (tail? : Option Text) :
    ∃ limited, ensureLimit (tailValue tail?) = .ok limited ∧
      ¬Condition.IsBlank limited ∧ hasLimit limited = true ∧
      ensureLimit (.text limited) = .ok limited ∧
      (limited = tailText tail? ∨ limited = withLimit (tailText tail?)) ∧
      ∀ zone table fields condition,
        selectOne zone table fields condition (tailValue tail?) =
          select zone table fields condition (.text limited) ∧
        selectOne zone table fields condition (.text limited) =
          select zone table fields condition (.text limited) ∧
        select zone table fields condition (.text limited) =
          (select zone table fields condition .null).map fun s => s ++ ' ' :: limited := by
  obtain ⟨limited, hlimited, hstripped, hlimit, htail⟩ := exists_ensureLimit tail?
  have hkept := ensureLimit_of_hasLimit hstripped hlimit
  have hne : limited ≠ [] := by
    rintro rfl
    cases hlimit
  refine ⟨limited, hlimited, not_isBlank_of_hasLimit hstripped hlimit, hlimit, hkept, htail, ?_⟩
  intro zone table fields condition
  refine ⟨selectOne_eq hlimited zone table fields condition,
    selectOne_eq hkept zone table fields condition, ?_⟩
  rw [select_eq, select_eq]
  cases fieldList fields with
  | error f => rfl
  | ok selected => exact ending_text hne hstripped (by decide) zone _ condition

end SqlGateway.Statement
