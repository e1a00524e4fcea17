import Mathlib.Data.List.Induction
import SqlGateway.Proofs.List
import SqlGateway.Proofs.Text.Basic
import SqlGateway.Proofs.Url.Percent
import SqlGateway.Url.Parts

/-!
# Written queries

The query of a URL is written parameter by parameter (`WritesQuery`); a parameter may come without a
value, and one that comes several times is written several times. It is read as the parameters with
a value in order (`WritesQuery.cut`), and where a parameter is looked up, the last value
that is not empty decides (`Decides.last?_eq`).
-/

namespace SqlGateway.Url

open Percent (Encodes IsEncodedChar)

/-! ## What is written -/

/-- The text stands for a parameter. Its name alone may be given, without a sign for the value. -/
inductive WritesParameter : Text × Option Text → Text → Prop
  | bare {name n : Text} : Encodes name n → WritesParameter (name, none) n
  | valued {name value n v : Text} : Encodes name n → Encodes value v →
      WritesParameter (name, some value) (n ++ '=' :: v)

/-- The text is the end of a URL with the given parameters. -/
inductive WritesQuery : List (Text × Option Text) → Text → Prop
  | nothing : WritesQuery [] []
  | parameters {ps : List (Text × Option Text)} {parts : List Text} :
      List.Forall₂ WritesParameter ps parts → WritesQuery ps ('?' :: ['&'].intercalate parts)

/-- The parameter with all but letters and digits encoded. -/
def writeParameter : Text × Option Text → Text
  | (name, none) => Percent.encode name
  | (name, some value) => Percent.encode name ++ '=' :: Percent.encode value

theorem writesParameter_write (p : Text × Option Text) : WritesParameter p (writeParameter p) := by
  obtain ⟨name, value⟩ := p
  cases value with
  | none => exact .bare (Percent.encodes_encode name)
  | some value => exact .valued (Percent.encodes_encode name) (Percent.encodes_encode value)

/-- The query with all but letters and digits encoded; none if there are no parameters. -/
def writeQuery : List (Text × Option Text) → Text
  | [] => []
  | p :: ps => '?' :: ['&'].intercalate ((p :: ps).map writeParameter)

theorem writesQuery_write (ps : List (Text × Option Text)) : WritesQuery ps (writeQuery ps) := by
  cases ps with
  | nil => exact .nothing
  | cons p ps =>
    refine .parameters ?_
    rw [List.forall₂_map_right_iff]
    exact List.forall₂_same.mpr fun p _ => writesParameter_write p

/-- The parameter with its value, if it has one that is not empty. -/
def given? : Text × Option Text → Option (Text × Text)
  | (name, some (c :: value)) => some (name, c :: value)
  | _ => none

/-- The parameter is another one, or it has no value, or an empty one. -/
def IsSilent (name : Text) (p : Text × Option Text) : Prop :=
  p.1 = name → p.2 = none ∨ p.2 = some []

instance (name : Text) : DecidablePred (IsSilent name) := fun p =>
  inferInstanceAs (Decidable (p.1 = name → p.2 = none ∨ p.2 = some []))

/-- What the parameters say of one name: the last value that is not empty, if there is any. -/
inductive Decides (name : Text) (ps : List (Text × Option Text)) : Option Text → Prop
  | absent : (∀ p ∈ ps, IsSilent name p) → Decides name ps none
  | last (before after : List (Text × Option Text)) {value : Text} : value ≠ [] →
      ps = before ++ (name, some value) :: after → (∀ p ∈ after, IsSilent name p) →
        Decides name ps (some value)

/-! ## Reading the parameters -/

/-- In an encoded text no plus sign stands for a space. -/
theorem decode_plus {s t : Text} (h : Encodes s t) :
    Percent.decode (t.map fun c => if c = '+' then ' ' else c) = s := by
  have hplus : '+' ∉ t := h.not_mem (by decide)
  have hmap : (t.map fun c => if c = '+' then ' ' else c) = t := by
    rw [List.map_congr_left (g := id), List.map_id]
    intro c hc
    have hne : c ≠ '+' := by
      rintro rfl
      exact hplus hc
    exact if_neg hne
  rw [hmap, h.decode]

variable {p : Text × Option Text} {ps : List (Text × Option Text)} {s : Text}

theorem WritesParameter.chars (h : WritesParameter p s) : ∀ c ∈ s, IsEncodedChar c ∨ c = '=' := by
  cases h with
  | bare hname => exact fun c hc => Or.inl (hname.chars c hc)
  | valued hname hvalue =>
    rw [List.forall_mem_append, List.forall_mem_cons]
    exact ⟨fun c hc => Or.inl (hname.chars c hc), Or.inr rfl,
      fun c hc => Or.inl (hvalue.chars c hc)⟩

theorem WritesParameter.read (h : WritesParameter p s) : parameter? s = given? p := by
  cases h with
  | bare hname =>
    rw [parameter?, Text.cutAt?_eq_none (hname.not_mem (by decide))]
    rfl
  | @valued name value n v hname hvalue =>
    rw [parameter?, Text.cutAt?_append (hname.not_mem (by decide))]
    cases v with
    | nil =>
      rw [hvalue.eq_nil_iff.mp rfl]
      rfl
    | cons c v =>
      cases value with
      | nil => cases hvalue.eq_nil_iff.mpr rfl
      | cons d value =>
        change some (Percent.decode _, Percent.decode _) = some (name, d :: value)
        rw [decode_plus hname, decode_plus hvalue]

theorem filterMap_parameter? {parts : List Text} (h : List.Forall₂ WritesParameter ps parts) :
    parts.filterMap parameter? = ps.filterMap given? := by
  induction h with
  | nil => rfl
  | cons hpart _ ih => rw [List.filterMap_cons, List.filterMap_cons, hpart.read, ih]

theorem forall₂_mem_chars {parts : List Text} (h : List.Forall₂ WritesParameter ps parts) :
    ∀ s ∈ parts, ∀ c ∈ s, IsEncodedChar c ∨ c = '=' := by
  induction h with
  | nil => nofun
  | cons hpart _ ih => exact List.forall_mem_cons.mpr ⟨hpart.chars, ih⟩

theorem parameters_intercalate {parts : List Text} (h : List.Forall₂ WritesParameter ps parts) :
    ((['&'].intercalate parts).splitOn '&').filterMap parameter? = ps.filterMap given? := by
  have hchars := forall₂_mem_chars h
  have hread := filterMap_parameter? h
  cases parts with
  | nil => exact hread
  | cons part parts =>
    have hseparator : ∀ s ∈ part :: parts, '&' ∉ s := by
      intro s hs hmem
      exact absurd (hchars s hs '&' hmem) (by decide)
    rw [List.splitOn_intercalate '&' hseparator (List.cons_ne_nil part parts), hread]

/-- The query is cut off the path, and its parameters are read in order. -/
theorem WritesQuery.cut {query : Text} (h : WritesQuery ps query) {path : Text}
    (hpath : '?' ∉ path) :
    ∃ q, (Text.cutAt? '?' (path ++ query)).getD (path ++ query, []) = (path, q) ∧
      (q.splitOn '&').filterMap parameter? = ps.filterMap given? := by
  cases h with
  | nothing =>
    refine ⟨[], ?_, rfl⟩
    rw [List.append_nil, Text.cutAt?_eq_none hpath]
    rfl
  | parameters hparts =>
    refine ⟨_, ?_, parameters_intercalate hparts⟩
    rw [Text.cutAt?_append hpath]
    rfl

theorem WritesQuery.chars {query : Text} (h : WritesQuery ps query) :
    ∀ c ∈ query, IsEncodedChar c ∨ c ∈ ['?', '&', '='] := by
  cases h with
  | nothing => nofun
  | parameters hparts =>
    refine List.forall_mem_cons.mpr ⟨Or.inr (by decide), fun c hc => ?_⟩
    rcases mem_intercalate hc with hc | ⟨s, hs, hc⟩
    · obtain rfl := List.mem_singleton.mp hc
      exact Or.inr (by decide)
    · rcases forall₂_mem_chars hparts s hs c hc with hc | rfl
      · exact Or.inl hc
      · exact Or.inr (by decide)

/-! ## Looking up a parameter -/

theorem find?_silent {name : Text} (h : ∀ p ∈ ps, IsSilent name p) :
    (ps.filterMap given?).reverse.find? (fun q => q.1 = name) = none := by
  rw [List.find?_eq_none]
  intro q hq hname
  obtain ⟨p, hp, hgiven⟩ := List.mem_filterMap.mp (List.mem_reverse.mp hq)
  unfold given? at hgiven
  split at hgiven
  · next c value =>
    cases hgiven
    rcases h _ hp (of_decide_eq_true hname) with hvalue | hvalue
    · cases hvalue
    · cases hvalue
  · cases hgiven

theorem Decides.append {name : Text} {value : Option Text} (h : Decides name ps value)
    (hp : IsSilent name p) : Decides name (ps ++ [p]) value := by
  cases h with
  | absent hsilent =>
    exact .absent (List.forall_mem_append.mpr ⟨hsilent, List.forall_mem_singleton.mpr hp⟩)
  | @last before after value hne hps hsilent =>
    refine .last before (after ++ [p]) hne (by simp [hps]) ?_
    exact List.forall_mem_append.mpr ⟨hsilent, List.forall_mem_singleton.mpr hp⟩

/-- A lookup finds the value that decides. -/
theorem Decides.last?_eq {name : String} {value : Option Text} (h : Decides name.toList ps value) :
    last? name (ps.filterMap given?) = value := by
  cases h with
  | absent hsilent =>
    rw [last?, find?_silent hsilent]
    rfl
  | @last before after value hne hps hsilent =>
    cases value with
    | nil => exact absurd rfl hne
    | cons c value =>
      have hgiven : ps.filterMap given? =
          before.filterMap given? ++ (name.toList, c :: value) :: after.filterMap given? := by
        rw [hps, List.filterMap_append]
        rfl
      rw [last?, hgiven, List.reverse_append, List.reverse_cons, List.find?_append,
        List.find?_append, find?_silent hsilent]
      simp

/-- Of every name the parameters decide something. -/
theorem exists_decides (name : Text) (ps : List (Text × Option Text)) :
    ∃ value, Decides name ps value := by
  induction ps using List.reverseRecOn with
  | nil => exact ⟨none, .absent nofun⟩
  | append_singleton ps p ih =>
    by_cases hp : IsSilent name p
    · obtain ⟨value, h⟩ := ih
      exact ⟨value, h.append hp⟩
    · obtain ⟨n, value⟩ := p
      simp only [IsSilent, Classical.not_imp, not_or] at hp
      obtain ⟨rfl, hnone, hempty⟩ := hp
      cases value with
      | none => exact absurd rfl hnone
      | some value =>
        have hne : value ≠ [] := fun h => hempty (congrArg some h)
        exact ⟨some value, .last ps [] hne rfl nofun⟩

/-- Where no parameter comes twice, their order does not matter. -/
theorem Decides.perm {name : Text} {value : Option Text} {qs : List (Text × Option Text)}
    (h : Decides name ps value) (hperm : ps.Perm qs) (hdistinct : (ps.map Prod.fst).Nodup) :
    Decides name qs value := by
  cases h with
  | absent hsilent => exact .absent fun p hp => hsilent p (hperm.mem_iff.mpr hp)
  | @last before after value hne hps hsilent =>
    have hmem : (name, some value) ∈ qs := hperm.mem_iff.mp (by simp [hps])
    obtain ⟨front, back, rfl⟩ := List.append_of_mem hmem
    have hnodup := (hperm.map Prod.fst).nodup_iff.mp hdistinct
    refine .last front back hne rfl fun p hp hname => ?_
    rw [List.map_append, List.map_cons, List.nodup_append, List.nodup_cons] at hnodup
    exact absurd (List.mem_map.mpr ⟨p, hp, hname⟩) hnodup.2.1.1

end SqlGateway.Url
