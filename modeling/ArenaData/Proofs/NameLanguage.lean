import ArenaData.Proofs.NameDraws
import Mathlib.Data.List.Forall2
import Mathlib.Data.Stream.Init

/-!
# The language of name rules

Which names a sequence of rules can come to, said without draws: each rule adds one of its texts
(`Adds`), and a name is what the rules add, one behind the other. A gate lets a rule act for some
value iff its chance is not negative, because 0 passes it then, and holds it back for some value iff
its chance is below 99, because 99 is held back then.

That no stream leads out of the language is read off the account of what the rules draw. For the
other direction every text has its script: the gate 0 and the place of the fragment in its chunk, or
the gate 99 alone; the scripts of the rules, one behind the other, make up the stream.
-/

namespace ArenaData

/-- A stream of numbers as a source. -/
def streamed : Draw (Stream' Nat) := fun numbers => (numbers.head, numbers.tail)

theorem supplies_streamed (script : List Nat) (numbers : Stream' Nat) :
    Supplies streamed (script ++ₛ numbers) (script.map Int.ofNat) numbers := by
  induction script with
  | nil => rfl
  | cons number script ih => exact ⟨rfl, ih⟩

namespace NameRule

variable {chunks : List NameChunk} {rule : NameRule} {rules : List NameRule} {index : Int}
  {values : List Int} {outcome : Except Fault Text} {text part : Text}

/-- The text is one of the fragments of a chunk. -/
def IsFragment (chunks : List NameChunk) (index : Int) (text : Text) : Prop :=
  ∃ chunk, NameChunk.at? chunks index = some chunk ∧ text ∈ chunk

/-- What a rule can add to a name. -/
inductive Adds (chunks : List NameChunk) : NameRule → Text → Prop where
  /-- Any fragment of its chunk. -/
  | fragment {index : Int} {text : Text} (h : IsFragment chunks index text) :
      Adds chunks (.fragment index) text
  /-- Its text. -/
  | literal (text : Text) : Adds chunks (.literal text) text
  /-- Any fragment, if its chance is not negative. -/
  | maybeFragment {index chance : Int} {text : Text} (hchance : 0 ≤ chance)
      (h : IsFragment chunks index text) : Adds chunks (.maybeFragment index chance) text
  /-- Nothing, if its chance is below 99. -/
  | noFragment {index chance : Int} (hchance : chance < 99) :
      Adds chunks (.maybeFragment index chance) []
  /-- Any fragment with its text behind it, if its chance is not negative. -/
  | maybeFragmentThen {index chance : Int} {last text : Text} (hchance : 0 ≤ chance)
      (h : IsFragment chunks index text) :
      Adds chunks (.maybeFragmentThen index last chance) (text ++ last)
  /-- Neither, if its chance is below 99. -/
  | noFragmentThen {index chance : Int} {last : Text} (hchance : chance < 99) :
      Adds chunks (.maybeFragmentThen index last chance) []

/-! ## No stream leads out of the language -/

theorem Picks.isFragment (h : Picks chunks index values outcome) (hok : outcome = .ok text) :
    IsFragment chunks index text := by
  cases h with
  | missing => cases hok
  | empty => cases hok
  | fragment hchunk htext =>
    obtain rfl := Except.ok.inj hok
    exact ⟨_, hchunk, List.mem_of_getElem? htext⟩

theorem nonneg_of_gate {gate chance : Int} (h : gate % 100 ≤ chance) : 0 ≤ chance := by
  omega

theorem lt_of_gate {gate chance : Int} (h : chance < gate % 100) : chance < 99 := by
  omega

theorem Acts.adds (h : Acts chunks rule values outcome) (hok : outcome = .ok part) :
    Adds chunks rule part := by
  cases h with
  | fragment h => exact .fragment (h.isFragment hok)
  | literal text =>
    obtain rfl := Except.ok.inj hok
    exact .literal text
  | maybeFragment hgate h => exact .maybeFragment (nonneg_of_gate hgate) (h.isFragment hok)
  | noFragment hgate =>
    obtain rfl := Except.ok.inj hok
    exact .noFragment (lt_of_gate hgate)
  | @maybeFragmentThen _ _ _ _ _ picked hgate h =>
    cases picked with
    | error fault => cases hok
    | ok text =>
      obtain rfl := Except.ok.inj hok
      exact .maybeFragmentThen (nonneg_of_gate hgate) (h.isFragment rfl)
  | noFragmentThen hgate =>
    obtain rfl := Except.ok.inj hok
    exact .noFragmentThen (lt_of_gate hgate)
  | unrecognized => cases hok

theorem Composes.exists_parts {name : Text} (h : Composes chunks rules values outcome)
    (hok : outcome = .ok name) :
    ∃ parts, List.Forall₂ (Adds chunks) rules parts ∧ parts.flatten = name := by
  induction h generalizing name with
  | nil => exact ⟨[], .nil, Except.ok.inj hok⟩
  | @cons _ _ _ _ part last hacts _ ih =>
    cases last with
    | error fault => cases hok
    | ok rest =>
      obtain ⟨parts, hparts, rfl⟩ := ih rfl
      exact ⟨part :: parts, .cons (hacts.adds rfl) hparts, Except.ok.inj hok⟩
  | stop => cases hok

/-! ## Every name of the language has a stream -/

theorem IsFragment.exists_picks (h : IsFragment chunks index text) :
    ∃ number : Nat, Picks chunks index [(number : Int)] (.ok text) := by
  obtain ⟨chunk, hchunk, hmem⟩ := h
  obtain ⟨place, hplace, htext⟩ := List.getElem_of_mem hmem
  have hmod : ((place : Int) % chunk.length).toNat = place := by
    rw [← Int.natCast_emod, Nat.mod_eq_of_lt hplace, Int.toNat_natCast]
  refine ⟨place, .fragment hchunk ?_⟩
  rw [hmod, List.getElem?_eq_getElem hplace, htext]

theorem Adds.exists_acts (h : Adds chunks rule part) :
    ∃ script : List Nat, Acts chunks rule (script.map Int.ofNat) (.ok part) := by
  cases h with
  | fragment h =>
    obtain ⟨number, hpicks⟩ := h.exists_picks
    exact ⟨[number], .fragment hpicks⟩
  | literal => exact ⟨[], .literal _⟩
  | maybeFragment hchance h =>
    obtain ⟨number, hpicks⟩ := h.exists_picks
    exact ⟨[0, number], .maybeFragment hchance hpicks⟩
  | noFragment hchance => exact ⟨[99], .noFragment hchance⟩
  | maybeFragmentThen hchance h =>
    obtain ⟨number, hpicks⟩ := h.exists_picks
    exact ⟨[0, number], .maybeFragmentThen hchance hpicks⟩
  | noFragmentThen hchance => exact ⟨[99], .noFragmentThen hchance⟩

theorem exists_composes_of_parts {parts : List Text}
    (h : List.Forall₂ (Adds chunks) rules parts) :
    ∃ script : List Nat, Composes chunks rules (script.map Int.ofNat) (.ok parts.flatten) := by
  induction h with
  | nil => exact ⟨[], .nil⟩
  | cons hadds _ ih =>
    obtain ⟨script, hacts⟩ := hadds.exists_acts
    obtain ⟨others, hcomposes⟩ := ih
    refine ⟨script ++ others, ?_⟩
    rw [List.map_append]
    exact .cons hacts hcomposes

/-- The names that a sequence of rules can come to are exactly its language: what the rules add, one
behind the other. Where a rule is not recognized, or a chunk is missing or empty, it adds nothing
that needs it. -/
theorem exists_compose_streamed_iff (chunks : List NameChunk) (rules : List NameRule)
    (name : Text) :
    (∃ numbers : Stream' Nat, (compose streamed chunks rules numbers).1 = .ok name) ↔
      ∃ parts, List.Forall₂ (Adds chunks) rules parts ∧ parts.flatten = name := by
  constructor
  · rintro ⟨numbers, hname⟩
    obtain ⟨values, hcomposes, -⟩ := exists_composes streamed chunks rules numbers
    exact hcomposes.exists_parts hname
  · rintro ⟨parts, hparts, rfl⟩
    obtain ⟨script, hcomposes⟩ := exists_composes_of_parts hparts
    refine ⟨script ++ₛ Stream'.const 0, ?_⟩
    rw [compose_of_composes hcomposes (supplies_streamed script (Stream'.const 0))]

-- The gate 99 holds back a chance of 98, which can therefore come to nothing, but not one of 99.
example : (compose streamed [["a".toList]] [.maybeFragment 0 98] (Stream'.const 99)).1 = .ok [] ∧
    (compose streamed [["a".toList]] [.maybeFragment 0 99] (Stream'.const 99)).1 =
      .ok "a".toList := ⟨rfl, rfl⟩

end NameRule

end ArenaData
