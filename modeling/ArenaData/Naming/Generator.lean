import ArenaData.Naming.Rule

/-!
# Name generators

The game has rules for each of its 24 races and both sexes. A generator ties such a table to the
chunks of fragments; it is built only if every rule is recognized and every chunk mentioned exists.
Both hold for good then, so they are part of the type.
-/

namespace ArenaData

/-- The rules for all races and sexes: slot `2 * race` is for males, the next one for females. -/
abbrev RuleTable := List (List NameRule)

namespace RuleTable

open NameRule

/-- First and last name of two fragments each. -/
def twoNames (first second third fourth : Int) : List NameRule :=
  [fragment first, fragment second, literal [' '], fragment third, fragment fourth]

/-- The ending of last names of race 2. -/
def patronymic : List NameRule := [literal "sen".toList]

/-- The rules of races 8 to 16. -/
def races8To16 : List NameRule := [fragment 47, maybeFragment 48 75, fragment 49]

/-- The rules of races 17 to 20. -/
def races17To20 : List NameRule := [fragment 50, maybeFragment 51 75, fragment 52]

/-- The rules of race 21. -/
def race21 : List NameRule := [fragment 50, fragment 52, fragment 53]

/-- The rules of race 23. -/
def race23 : List NameRule := [fragment 55, fragment 56, fragment 57]

/-- The rules of race 22. -/
def race22 : List NameRule := maybeFragmentThen 54 [' '] 25 :: race23

/-- The game's rules. -/
def standard : RuleTable := [
  twoNames 0 1 4 5, twoNames 2 3 4 5,
  [fragment 6, fragment 7, fragment 8, maybeFragment 9 75],
  [fragment 6, fragment 7, fragment 8, maybeFragment 9 75, fragment 10],
  twoNames 11 12 15 16 ++ patronymic, twoNames 13 14 15 16 ++ patronymic,
  twoNames 17 18 21 22, twoNames 19 20 21 22,
  twoNames 23 24 27 28, twoNames 25 26 27 28,
  twoNames 29 30 33 34, twoNames 31 32 33 34,
  twoNames 35 36 39 40, twoNames 37 38 39 40,
  twoNames 41 42 45 46, twoNames 43 44 45 46] ++
  List.replicate 18 races8To16 ++ List.replicate 8 races17To20 ++
  [race21, race21, race22, race22, race23, race23]

/-- The number of races in the game's table. -/
def raceCount : Nat := standard.length / 2

/-- The slot of a race and sex. -/
def slot (race : Int) (male : Bool) : Int := race * 2 + (if male then 0 else 1)

end RuleTable

/-- A table of rules with the chunks it picks from. -/
structure NameGenerator where
  /-- The chunks of fragments. -/
  chunks : List NameChunk
  /-- The rules by slot. -/
  rules : RuleTable
  /-- Every rule is recognized, and every chunk mentioned exists. -/
  sound : ∃ mentioned, NameRule.mentioned rules = .ok mentioned ∧
    ∀ index ∈ mentioned, 0 ≤ index ∧ index < chunks.length

namespace NameGenerator

/-- The index of a chunk that exists. -/
def isChunk (chunks : List NameChunk) (index : Int) : Bool :=
  0 ≤ index && index < chunks.length

/-- The generator of a table and chunks. -/
def build (chunks : List NameChunk) (rules : RuleTable) : Except Fault NameGenerator :=
  match h : NameRule.mentioned rules with
  | .error fault => .error fault
  | .ok mentioned =>
    match hm : mentioned.find? (!isChunk chunks ·) with
    | some index => .error (Fault.danglingRule index chunks.length).reported
    | none => .ok {
        chunks, rules
        sound := ⟨mentioned, h, fun index hi => by
          have := List.find?_eq_none.1 hm index hi
          simpa [isChunk] using this⟩ }

/-- The rules for a race and sex. -/
def rulesFor (g : NameGenerator) (race : Int) (male : Bool) : Except Fault (List NameRule) :=
  let slot := RuleTable.slot race male
  if race < 0 ∨ slot < 0 then .error (Fault.noNameRules race male).reported
  else match g.rules[slot.toNat]? with
    | some rules => .ok rules
    | none => .error (Fault.noNameRules race male).reported

/-- A name for a race and sex. -/
def generate {σ : Type} (g : NameGenerator) (next : Draw σ) (race : Int) (male : Bool)
    (source : σ) : Except Fault Text × σ :=
  match g.rulesFor race male with
  | .error fault => (.error fault, source)
  | .ok rules => NameRule.compose next g.chunks rules source

end NameGenerator

end ArenaData
