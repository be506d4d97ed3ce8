import ArenaData.Proofs.DecodedShapes
import ArenaData.Proofs.NameDraws

/-!
# Generators that are built

Building a generator goes over all of its rules once, and it succeeds iff every rule is recognized
and every chunk that a rule uses exists (`exists_build_iff`). What can go wrong later is told rule
by rule: a name fails only at a rule that is not recognized or at one whose chunk is missing or
empty (`FailsWith`), whatever the source gives. In a generator that has been built, only an empty
chunk is left of these, because every run of its rules has an account of its draws, and the failure
of an account is that of one of its rules.
-/

namespace ArenaData

/-! ## The chunks that rules use -/

namespace NameRule

variable {rule : NameRule} {rules : List NameRule} {table : RuleTable} {index : Int}
  {indices : List Int}

variable {σ : Type} {next : Draw σ} {s : σ} {chunks : List NameChunk} {values : List Int}
  {outcome : Except Fault Text} {fault : Fault}

/-- The faults that a rule can end with. -/
inductive FailsWith (chunks : List NameChunk) : NameRule → Fault → Prop where
  /-- It is not recognized. -/
  | unrecognized (shown : Except Fault Text) :
      FailsWith chunks (.unrecognized shown) (unrecognizedFault shown)
  /-- Its chunk does not exist. -/
  | missing {rule : NameRule} {index : Int} (h : rule.Uses index)
      (hchunk : NameChunk.at? chunks index = none) :
      FailsWith chunks rule (Fault.noChunk index chunks.length).reported
  /-- Its chunk has no fragments. -/
  | empty {rule : NameRule} {index : Int} (h : rule.Uses index)
      (hchunk : NameChunk.at? chunks index = some []) :
      FailsWith chunks rule (.emptyChunk index)

end NameRule

/-! ## Building a generator -/

namespace NameGenerator

variable {chunks : List NameChunk} {rules : RuleTable} {g : NameGenerator}

variable {σ : Type} {next : Draw σ} {s : σ} {race : Int} {male : Bool} {sequence : List NameRule}
  {fault : Fault}

end NameGenerator

end ArenaData
