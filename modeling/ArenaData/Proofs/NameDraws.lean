import ArenaData.Naming.Rule
import ArenaData.Proofs.Outcome

/-!
# The draws of a name

A name is a fold of its rules over a source of numbers. `Composes` says which values a sequence of
rules draws and what it makes of them, without any source: the values of the rules stand one behind
the other, and every rule has its own account of them (`Acts`). The fold and the account agree in
both directions: a source that supplies the values of an account comes to its outcome
(`compose_of_composes`), and whatever a source does follows some account (`exists_composes`). The
values are told from a run itself by `recorded`, a source that keeps a record of what it has given.
-/

namespace ArenaData

variable {σ τ : Type}

/-! ## Sources -/

/-- From the state `s` on, the source gives these values in their order, and is in the state `t`
then. -/
def Supplies (next : Draw σ) (s : σ) : List Int → σ → Prop
  | [], t => s = t
  | value :: rest, t => (next s).1 = value ∧ Supplies next (next s).2 rest t

/-- The source, with a record of all that it has given. -/
def recorded (next : Draw σ) : Draw (σ × List Int) := fun s =>
  ((next s.1).1, ((next s.1).2, s.2 ++ [(next s.1).1]))

theorem supplies_singleton (next : Draw σ) (s : σ) : Supplies next s [(next s).1] (next s).2 :=
  ⟨rfl, rfl⟩

theorem Supplies.append {next : Draw σ} {s t u : σ} {values others : List Int}
    (h : Supplies next s values t) (h' : Supplies next t others u) :
    Supplies next s (values ++ others) u := by
  induction values generalizing s with
  | nil =>
    obtain rfl : s = t := h
    exact h'
  | cons value rest ih => exact ⟨h.1, ih h.2⟩

theorem supplies_append_iff {next : Draw σ} {s u : σ} {values others : List Int} :
    Supplies next s (values ++ others) u ↔
      ∃ t, Supplies next s values t ∧ Supplies next t others u := by
  constructor
  · intro h
    induction values generalizing s with
    | nil => exact ⟨s, rfl, h⟩
    | cons value rest ih =>
      obtain ⟨t, ht, hu⟩ := ih h.2
      exact ⟨t, ⟨h.1, ht⟩, hu⟩
  · rintro ⟨t, ht, hu⟩
    exact ht.append hu

/-- What a source gives is what its record grows by. -/
theorem Supplies.recorded {next : Draw σ} {s t : σ} {values : List Int}
    (h : Supplies next s values t) (record : List Int) :
    Supplies (recorded next) (s, record) values (t, record ++ values) := by
  induction values generalizing s record with
  | nil =>
    obtain rfl : s = t := h
    rw [List.append_nil]
    rfl
  | cons value rest ih =>
    obtain ⟨rfl, hrest⟩ := h
    have hih := ih hrest (record ++ [(next s).1])
    rw [List.append_assoc] at hih
    exact ⟨rfl, hih⟩

/-! ## Accounts of draws -/

/-- The chunk of an index, if there is one. -/
def NameChunk.at? (chunks : List NameChunk) (index : Int) : Option NameChunk :=
  if 0 ≤ index then chunks[index.toNat]? else none

namespace NameRule

/-- Which values are drawn to pick a fragment, and what is picked. -/
inductive Picks (chunks : List NameChunk) (index : Int) : List Int → Except Fault Text → Prop where
  /-- A chunk that does not exist costs no value. -/
  | missing (h : NameChunk.at? chunks index = none) :
      Picks chunks index [] (.error (Fault.noChunk index chunks.length).reported)
  /-- Neither does a chunk without fragments. -/
  | empty (h : NameChunk.at? chunks index = some []) :
      Picks chunks index [] (.error (.emptyChunk index))
  /-- Of a chunk with fragments, one value picks one. -/
  | fragment {chunk : NameChunk} {text : Text} {value : Int}
      (h : NameChunk.at? chunks index = some chunk)
      (htext : chunk[(value % chunk.length).toNat]? = some text) :
      Picks chunks index [value] (.ok text)

/-- Which values a rule draws, and what it makes of them. -/
inductive Acts (chunks : List NameChunk) : NameRule → List Int → Except Fault Text → Prop where
  /-- A fragment costs the value that picks it. -/
  | fragment {index : Int} {values : List Int} {outcome : Except Fault Text}
      (h : Picks chunks index values outcome) : Acts chunks (.fragment index) values outcome
  /-- A fixed text costs nothing. -/
  | literal (text : Text) : Acts chunks (.literal text) [] (.ok text)
  /-- A gate costs one value; if it lets the rule act, the fragment costs what it does alone. -/
  | maybeFragment {index chance gate : Int} {values : List Int} {outcome : Except Fault Text}
      (hgate : gate % 100 ≤ chance) (h : Picks chunks index values outcome) :
      Acts chunks (.maybeFragment index chance) (gate :: values) outcome
  /-- If it does not, there is no further value and no text. -/
  | noFragment {index chance gate : Int} (hgate : chance < gate % 100) :
      Acts chunks (.maybeFragment index chance) [gate] (.ok [])
  /-- With a text behind the fragment, the values are the same. -/
  | maybeFragmentThen {index chance gate : Int} {text : Text} {values : List Int}
      {outcome : Except Fault Text} (hgate : gate % 100 ≤ chance)
      (h : Picks chunks index values outcome) :
      Acts chunks (.maybeFragmentThen index text chance) (gate :: values)
        (outcome.map (· ++ text))
  /-- A gate that keeps the fragment back also keeps back the text. -/
  | noFragmentThen {index chance gate : Int} {text : Text} (hgate : chance < gate % 100) :
      Acts chunks (.maybeFragmentThen index text chance) [gate] (.ok [])
  /-- What is no rule fails at no cost. -/
  | unrecognized (shown : Except Fault Text) :
      Acts chunks (.unrecognized shown) [] (.error (unrecognizedFault shown))

/-- Which values a sequence of rules draws, and which name or fault it makes of them. -/
inductive Composes (chunks : List NameChunk) :
    List NameRule → List Int → Except Fault Text → Prop where
  /-- No rules make the empty name of no values. -/
  | nil : Composes chunks [] [] (.ok [])
  /-- The values of a rule stand before those of the rules behind it, and so do the texts. -/
  | cons {rule : NameRule} {rest : List NameRule} {values others : List Int} {part : Text}
      {outcome : Except Fault Text} (h : Acts chunks rule values (.ok part))
      (hrest : Composes chunks rest others outcome) :
      Composes chunks (rule :: rest) (values ++ others) (outcome.map (part ++ ·))
  /-- Behind a rule that fails nothing is drawn any more. -/
  | stop {rule : NameRule} {rest : List NameRule} {values : List Int} {fault : Fault}
      (h : Acts chunks rule values (.error fault)) :
      Composes chunks (rule :: rest) values (.error fault)

variable {next : Draw σ} {chunks : List NameChunk} {s t : σ}

/-! ## One rule -/

theorem pick_eq (next : Draw σ) (chunks : List NameChunk) (index : Int) (s : σ) :
    pick next chunks index s =
      match NameChunk.at? chunks index with
      | none => (.error (Fault.noChunk index chunks.length).reported, s)
      | some [] => (.error (.emptyChunk index), s)
      | some (text :: rest) =>
        (.ok ((text :: rest)[((next s).1 % ((text :: rest).length : Int)).toNat]?.getD []),
          (next s).2) := by
  unfold pick NameChunk.at?
  by_cases hneg : 0 ≤ index
  · by_cases hin : index < chunks.length
    · have hlt : index.toNat < chunks.length := by omega
      rw [if_pos ⟨hneg, hin⟩, if_pos hneg, List.getElem?_eq_getElem hlt, Option.getD_some]
      cases chunks[index.toNat] with
      | nil => rfl
      | cons text rest => rfl
    · have hge : chunks.length ≤ index.toNat := by omega
      rw [if_neg (fun h => hin h.2), if_pos hneg, List.getElem?_eq_none hge]
  · rw [if_neg (fun h => hneg h.1), if_neg hneg]

/-- A value picks a fragment, whatever its size or sign. -/
theorem getElem?_mod (chunk : NameChunk) (hchunk : chunk ≠ []) (value : Int) :
    ∃ text, chunk[(value % chunk.length).toNat]? = some text := by
  have hpos := List.length_pos_iff.mpr hchunk
  have hnonneg := Int.emod_nonneg value (by omega : (chunk.length : Int) ≠ 0)
  have hlt := Int.emod_lt_of_pos value (by omega : (0 : Int) < chunk.length)
  have hin : (value % chunk.length).toNat < chunk.length := by omega
  exact ⟨chunk[(value % chunk.length).toNat], List.getElem?_eq_getElem hin⟩

theorem pick_of_picks {index : Int} {values : List Int} {outcome : Except Fault Text}
    (h : Picks chunks index values outcome) (hs : Supplies next s values t) :
    pick next chunks index s = (outcome, t) := by
  rw [pick_eq]
  cases h with
  | missing hchunk =>
    obtain rfl : s = t := hs
    rw [hchunk]
  | empty hchunk =>
    obtain rfl : s = t := hs
    rw [hchunk]
  | @fragment chunk text value hchunk htext =>
    obtain ⟨rfl, rfl⟩ : (next s).1 = value ∧ (next s).2 = t := hs
    rw [hchunk]
    cases chunk with
    | nil => simp at htext
    | cons first rest => simp only [htext, Option.getD_some]

theorem exists_picks (next : Draw σ) (chunks : List NameChunk) (index : Int) (s : σ) :
    ∃ values, Picks chunks index values (pick next chunks index s).1 ∧
      Supplies next s values (pick next chunks index s).2 := by
  rw [pick_eq]
  cases hchunk : NameChunk.at? chunks index with
  | none => exact ⟨[], .missing hchunk, rfl⟩
  | some chunk => cases chunk with
    | nil => exact ⟨[], .empty hchunk, rfl⟩
    | cons first rest =>
      obtain ⟨text, htext⟩ := getElem?_mod (first :: rest) (List.cons_ne_nil _ _) (next s).1
      refine ⟨[(next s).1], ?_, supplies_singleton next s⟩
      simp only [htext, Option.getD_some]
      exact .fragment hchunk htext

theorem apply_maybeFragment_of_le {index chance : Int} (h : (next s).1 % 100 ≤ chance) :
    (maybeFragment index chance).apply next chunks s = pick next chunks index (next s).2 := by
  simp [apply, passes, h]

theorem apply_maybeFragment_of_lt {index chance : Int} (h : chance < (next s).1 % 100) :
    (maybeFragment index chance).apply next chunks s = (.ok [], (next s).2) := by
  simp [apply, passes, Int.not_le.mpr h]

theorem apply_maybeFragmentThen_of_le {index chance : Int} {text : Text}
    (h : (next s).1 % 100 ≤ chance) :
    (maybeFragmentThen index text chance).apply next chunks s =
      ((pick next chunks index (next s).2).1.map (· ++ text),
        (pick next chunks index (next s).2).2) := by
  simp [apply, passes, h]

theorem apply_maybeFragmentThen_of_lt {index chance : Int} {text : Text}
    (h : chance < (next s).1 % 100) :
    (maybeFragmentThen index text chance).apply next chunks s = (.ok [], (next s).2) := by
  simp [apply, passes, Int.not_le.mpr h]

/-- A rule comes to the outcome of its account if the source supplies the values. -/
theorem apply_of_acts {rule : NameRule} {values : List Int} {outcome : Except Fault Text}
    (h : Acts chunks rule values outcome) (hs : Supplies next s values t) :
    rule.apply next chunks s = (outcome, t) := by
  cases h with
  | fragment h => exact pick_of_picks h hs
  | literal text =>
    obtain rfl : s = t := hs
    rfl
  | maybeFragment hgate h =>
    obtain ⟨rfl, hs⟩ := hs
    rw [apply_maybeFragment_of_le hgate]
    exact pick_of_picks h hs
  | noFragment hgate =>
    obtain ⟨rfl, rfl⟩ := hs
    exact apply_maybeFragment_of_lt hgate
  | maybeFragmentThen hgate h =>
    obtain ⟨rfl, hs⟩ := hs
    rw [apply_maybeFragmentThen_of_le hgate, pick_of_picks h hs]
  | noFragmentThen hgate =>
    obtain ⟨rfl, rfl⟩ := hs
    exact apply_maybeFragmentThen_of_lt hgate
  | unrecognized shown =>
    obtain rfl : s = t := hs
    rfl

theorem exists_acts (next : Draw σ) (chunks : List NameChunk) (rule : NameRule) (s : σ) :
    ∃ values, Acts chunks rule values (rule.apply next chunks s).1 ∧
      Supplies next s values (rule.apply next chunks s).2 := by
  cases rule with
  | fragment index =>
    obtain ⟨values, hpicks, hs⟩ := exists_picks next chunks index s
    exact ⟨values, .fragment hpicks, hs⟩
  | literal text => exact ⟨[], .literal text, rfl⟩
  | maybeFragment index chance =>
    by_cases hgate : (next s).1 % 100 ≤ chance
    · obtain ⟨values, hpicks, hs⟩ := exists_picks next chunks index (next s).2
      rw [apply_maybeFragment_of_le hgate]
      exact ⟨(next s).1 :: values, .maybeFragment hgate hpicks, rfl, hs⟩
    · have hgate := Int.not_le.mp hgate
      rw [apply_maybeFragment_of_lt hgate]
      exact ⟨[(next s).1], .noFragment hgate, supplies_singleton next s⟩
  | maybeFragmentThen index text chance =>
    by_cases hgate : (next s).1 % 100 ≤ chance
    · obtain ⟨values, hpicks, hs⟩ := exists_picks next chunks index (next s).2
      rw [apply_maybeFragmentThen_of_le hgate]
      exact ⟨(next s).1 :: values, .maybeFragmentThen hgate hpicks, rfl, hs⟩
    · have hgate := Int.not_le.mp hgate
      rw [apply_maybeFragmentThen_of_lt hgate]
      exact ⟨[(next s).1], .noFragmentThen hgate, supplies_singleton next s⟩
  | unrecognized shown => exact ⟨[], .unrecognized shown, rfl⟩

/-! ## Sequences of rules -/

theorem compose_cons (next : Draw σ) (chunks : List NameChunk) (rule : NameRule)
    (rest : List NameRule) (s : σ) :
    compose next chunks (rule :: rest) s =
      match rule.apply next chunks s with
      | (.error fault, t) => (.error fault, t)
      | (.ok part, t) =>
        ((compose next chunks rest t).1.map (part ++ ·), (compose next chunks rest t).2) := rfl

/-- Rules come to the outcome of their account if the source supplies the values. -/
theorem compose_of_composes {rules : List NameRule} {values : List Int}
    {outcome : Except Fault Text} (h : Composes chunks rules values outcome)
    (hs : Supplies next s values t) : compose next chunks rules s = (outcome, t) := by
  induction h generalizing s with
  | nil =>
    obtain rfl : s = t := hs
    rfl
  | cons hacts _ ih =>
    obtain ⟨u, hu, ht⟩ := supplies_append_iff.mp hs
    rw [compose_cons, apply_of_acts hacts hu]
    simp only [ih ht]
  | stop hacts => rw [compose_cons, apply_of_acts hacts hs]

/-- Whatever a source gives, there is an account of what the rules draw from it. -/
theorem exists_composes (next : Draw σ) (chunks : List NameChunk) (rules : List NameRule) (s : σ) :
    ∃ values, Composes chunks rules values (compose next chunks rules s).1 ∧
      Supplies next s values (compose next chunks rules s).2 := by
  induction rules generalizing s with
  | nil => exact ⟨[], .nil, rfl⟩
  | cons rule rest ih =>
    obtain ⟨values, hacts, hs⟩ := exists_acts next chunks rule s
    rw [compose_cons]
    cases happly : rule.apply next chunks s with
    | mk outcome t =>
      rw [happly] at hacts hs
      cases outcome with
      | error fault => exact ⟨values, .stop hacts, hs⟩
      | ok part =>
        obtain ⟨others, hcomposes, ht⟩ := ih t
        exact ⟨values ++ others, .cons hacts hcomposes, hs.append ht⟩

theorem compose_append (next : Draw σ) (chunks : List NameChunk) (front back : List NameRule)
    (s : σ) :
    compose next chunks (front ++ back) s =
      match compose next chunks front s with
      | (.error fault, t) => (.error fault, t)
      | (.ok name, t) =>
        ((compose next chunks back t).1.map (name ++ ·), (compose next chunks back t).2) := by
  induction front generalizing s with
  | nil =>
    show compose next chunks back s =
      ((compose next chunks back s).1.map ([] ++ ·), (compose next chunks back s).2)
    cases compose next chunks back s with
    | mk outcome t => cases outcome with
      | error fault => rfl
      | ok name => rfl
  | cons rule rest ih =>
    rw [List.cons_append, compose_cons, compose_cons]
    cases rule.apply next chunks s with
    | mk outcome t => cases outcome with
      | error fault => rfl
      | ok part =>
        simp only [ih]
        cases compose next chunks rest t with
        | mk outcome u => cases outcome with
          | error fault => rfl
          | ok name =>
            simp only [Except.map]
            cases (compose next chunks back u).1 with
            | error fault => rfl
            | ok last => simp

/-- A name is a sequential fold over its source. Rules one behind the other go on from the source as
the first ones left it, unless these fail; then nothing more is drawn. What is drawn is told by an
account of the rules: the source that keeps a record has recorded exactly its values, and any other
source that supplies these values, whatever it would give after them, comes to the same name or
fault and to the state behind them. -/
theorem compose_sequential (next : Draw σ) (chunks : List NameChunk) (s : σ) :
    (∀ front back, compose next chunks (front ++ back) s =
      match compose next chunks front s with
      | (.error fault, t) => (.error fault, t)
      | (.ok name, t) =>
        ((compose next chunks back t).1.map (name ++ ·), (compose next chunks back t).2)) ∧
    ∀ rules, ∃ values, Composes chunks rules values (compose next chunks rules s).1 ∧
      compose (recorded next) chunks rules (s, []) =
        ((compose next chunks rules s).1, (compose next chunks rules s).2, values) ∧
      ∀ (τ : Type) (other : Draw τ) (t u : τ), Supplies other t values u →
        compose other chunks rules t = ((compose next chunks rules s).1, u) := by
  refine ⟨fun front back => compose_append next chunks front back s, fun rules => ?_⟩
  obtain ⟨values, hcomposes, hs⟩ := exists_composes next chunks rules s
  refine ⟨values, hcomposes, ?_, fun τ other t u hother => compose_of_composes hcomposes hother⟩
  exact compose_of_composes hcomposes (hs.recorded [])

/-- A gate of 51 keeps the second rule back, so the third one has the third value and not the
fourth; what the script goes on with is left for the next name. -/
theorem compose_of_closed_gate :
    compose (recorded ScriptedRandom.next) [["Al".toList, "Bo".toList], ["ric".toList, "vel".toList]]
        [.fragment 0, .maybeFragment 1 50, .fragment 1] (.ofList [1, 51, 3], []) =
      (.ok "Bovel".toList, ⟨[], 3⟩, [1, 51, 3]) ∧
    ∀ later, compose ScriptedRandom.next
        [["Al".toList, "Bo".toList], ["ric".toList, "vel".toList]]
        [.fragment 0, .maybeFragment 1 50, .fragment 1] (.ofList ([1, 51, 3] ++ later)) =
      (.ok "Bovel".toList, ⟨later, 3⟩) := by
  obtain ⟨-, hdraws⟩ := compose_sequential ScriptedRandom.next
    [["Al".toList, "Bo".toList], ["ric".toList, "vel".toList]] (.ofList [1, 51, 3])
  obtain ⟨values, -, hrecord, hother⟩ := hdraws [.fragment 0, .maybeFragment 1 50, .fragment 1]
  obtain rfl : [1, 51, 3] = values := congrArg (fun run => run.2.2) hrecord
  exact ⟨hrecord, fun later => hother _ ScriptedRandom.next _ _ ⟨rfl, rfl, rfl, rfl⟩⟩

end NameRule

end ArenaData
