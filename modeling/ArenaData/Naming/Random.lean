/-!
# Random numbers

Names are drawn from a source of numbers: a state and a function that gives the next number and the
next state. The game's own source is a linear congruential generator on 32-bit words that shows the
upper half of its state.
-/

namespace ArenaData

/-- A source of numbers over states of type `σ`: one draw. -/
abbrev Draw (σ : Type) := σ → Int × σ

/-- The game's generator. -/
structure ArenaRandom where
  /-- Its state. -/
  value : UInt32
  deriving DecidableEq, Repr

namespace ArenaRandom

/-- What the state is multiplied by. -/
def multiplier : UInt32 := 7143469

/-- The seed of a generator that is given none. -/
def defaultSeed : Int := 12345

/-- The generator of a seed, of which the 32 low bits count. -/
def ofSeed (seed : Int) : ArenaRandom := ⟨UInt32.ofNat (seed % 0x100000000).toNat⟩

/-- The generator after one draw. -/
def advance (r : ArenaRandom) : ArenaRandom := ⟨r.value * multiplier + 1⟩

/-- The number that a draw shows once the state is advanced. -/
def output (r : ArenaRandom) : Nat := (r.value >>> 16).toNat

/-- One draw. -/
def next : Draw ArenaRandom := fun r => (r.advance.output, r.advance)

/-- Several draws. -/
def draws : Nat → ArenaRandom → List Int × ArenaRandom
  | 0, r => ([], r)
  | count + 1, r =>
    let (drawn, r) := next r
    let (others, r) := draws count r
    (drawn :: others, r)

end ArenaRandom

/-- A source with a script: it gives the numbers of a list and then zeros. -/
structure ScriptedRandom where
  /-- The numbers still to come. -/
  script : List Int
  /-- How many draws there have been. -/
  drawn : Nat
  deriving DecidableEq, Repr

namespace ScriptedRandom

/-- The source of a script. -/
def ofList (script : List Int) : ScriptedRandom := ⟨script, 0⟩

/-- One draw. -/
def next : Draw ScriptedRandom := fun r => (r.script.headD 0, ⟨r.script.tail, r.drawn + 1⟩)

end ScriptedRandom

end ArenaData
