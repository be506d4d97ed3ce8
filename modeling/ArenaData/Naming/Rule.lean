import ArenaData.Fault
import ArenaData.NameChunk
import ArenaData.Naming.Random

/-!
# Name rules

A name is put together by a sequence of rules, applied from left to right. A rule adds a fragment of
a chunk or a fixed text; some rules act only if a draw modulo 100 does not exceed their chance. The
source of numbers goes through all of them, one draw for each choice, and every outcome tells in
which state it left the source, a failure too.
-/

namespace ArenaData

/-- A rule for one part of a name. -/
inductive NameRule where
  /-- Any fragment of a chunk. -/
  | fragment (chunk : Int)
  /-- A fixed text. -/
  | literal (text : Text)
  /-- Any fragment of a chunk, by chance. -/
  | maybeFragment (chunk chance : Int)
  /-- Any fragment of a chunk and a fixed text behind it, by chance. -/
  | maybeFragmentThen (chunk : Int) (text : Text) (chance : Int)
  /-- Something that is no rule: its text, or the fault that keeps it from being shown. -/
  | unrecognized (shown : Except Fault Text)

namespace NameRule

variable {σ : Type}

/-- Any fragment of a chunk. A chunk that is missing or empty costs no draw. -/
def pick (next : Draw σ) (chunks : List NameChunk) (index : Int) (source : σ) :
    Except Fault Text × σ :=
  if 0 ≤ index ∧ index < chunks.length then
    let chunk := (chunks[index.toNat]?).getD []
    if chunk.isEmpty then (.error (.emptyChunk index), source)
    else
      let (drawn, source) := next source
      (.ok ((chunk[(drawn % (chunk.length : Int)).toNat]?).getD []), source)
  else (.error (Fault.noChunk index chunks.length).reported, source)

/-- The fault of something that is no rule. -/
def unrecognizedFault : Except Fault Text → Fault
  | .ok shown => .badRule shown
  | .error fault => fault

/-- A draw lets a rule act if its last two digits do not exceed the chance. -/
def passes (drawn chance : Int) : Bool := drawn % 100 ≤ chance

/-- What a rule adds to a name. -/
def apply (next : Draw σ) (chunks : List NameChunk) (rule : NameRule) (source : σ) :
    Except Fault Text × σ :=
  match rule with
  | fragment chunk => pick next chunks chunk source
  | literal text => (.ok text, source)
  | maybeFragment chunk chance =>
    let (drawn, source) := next source
    if passes drawn chance then pick next chunks chunk source else (.ok [], source)
  | maybeFragmentThen chunk text chance =>
    let (drawn, source) := next source
    if passes drawn chance then
      let (picked, source) := pick next chunks chunk source
      (picked.map (· ++ text), source)
    else (.ok [], source)
  | unrecognized shown => (.error (unrecognizedFault shown), source)

/-- The name of a sequence of rules. -/
def compose (next : Draw σ) (chunks : List NameChunk) : List NameRule → σ → Except Fault Text × σ
  | [], source => (.ok [], source)
  | rule :: rest, source =>
    match rule.apply next chunks source with
    | (.error fault, source) => (.error fault, source)
    | (.ok part, source) =>
      let (name, source) := compose next chunks rest source
      (name.map (part ++ ·), source)

/-- The chunk that a rule mentions. -/
def chunk? : NameRule → Except Fault (Option Int)
  | fragment chunk => .ok (some chunk)
  | literal _ => .ok none
  | maybeFragment chunk _ => .ok (some chunk)
  | maybeFragmentThen chunk _ _ => .ok (some chunk)
  | unrecognized shown => .error (unrecognizedFault shown)

/-- The chunks that a table of rules mentions, in order. -/
def mentioned (rules : List (List NameRule)) : Except Fault (List Int) := do
  let chunks ← rules.flatten.mapM chunk?
  pure (chunks.filterMap id)

end NameRule

end ArenaData
