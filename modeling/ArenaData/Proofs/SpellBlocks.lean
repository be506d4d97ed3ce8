import ArenaData.Proofs.DecodedShapes
import ArenaData.Proofs.LeadingIndex

/-!
# The blocks of the spell maker file

A line that starts with `#` is a mark. It closes the block that is open and opens a block of its
own, and a mark without room for an index ends the file. `parse` keeps the open block and the slots
while it goes from line to line. Here the same is told from the lines alone: which block is open
after some lines (`Opened`), which lines close a block (`ClosesAt`), what a slot holds then
(`IsSlot`) and which lines cannot stand where they do (`RefusedAt`).

What the reader has kept after some lines is what these say of them (`Reads`), one more line keeps
it so, whether it is empty, a text or a mark, and so the slots of a file are those of all its lines,
and a file fails at its first refused line (`finish_tells`).
-/

namespace ArenaData.SpellMaker

variable {count : Nat} {lines before behind : List Text} {line : Text} {index : Int}
  {body : List Text} {fault : Fault} {i j : Nat}

/-! ## Marks -/

/-- The line starts with `#`. -/
def IsMark (line : Text) : Prop := line.head? = some '#'

instance (line : Text) : Decidable (IsMark line) := inferInstanceAs (Decidable (_ = _))

/-- The line is a mark without room for an index, which ends the file. -/
def IsEnd (line : Text) : Prop := IsMark line ∧ line.length < 3

instance (line : Text) : Decidable (IsEnd line) := inferInstanceAs (Decidable (_ ∧ _))

/-- The lines up to the first that ends the file, with that one. -/
def upToEnd : List Text → List Text
  | [] => []
  | line :: rest => if IsEnd line then [line] else line :: upToEnd rest

/-- The two characters behind a mark. -/
def indexText (line : Text) : Text := (line.drop 1).take 2

/-- The line is a mark with room for an index and with this index in there. -/
def Begins (line : Text) (index : Int) : Prop :=
  IsMark line ∧ 3 ≤ line.length ∧ StartsWith (indexText line) index

/-! ## Blocks -/

/-- After the lines `before` a block is open: its first line gives its index, and the lines of its
body have no mark among them. -/
def Opened (before : List Text) (index : Int) (body : List Text) : Prop :=
  ∃ front header, before = front ++ header :: body ∧ Begins header index ∧
    ∀ line ∈ body, ¬ IsMark line

/-- Line number `i` closes a block. -/
def ClosesAt (lines : List Text) (i : Nat) (index : Int) (body : List Text) : Prop :=
  ∃ line, lines[i]? = some line ∧ IsMark line ∧ Opened (lines.take i) index body

/-- What a slot holds after these lines: the body of the last block with this index that has been
closed, and nothing if there is none. -/
def IsSlot (lines : List Text) (index : Int) (text : Text) : Prop :=
  (∃ i body, ClosesAt lines i index body ∧ text = body.flatten ∧
    ∀ j other, ClosesAt lines j index other → j ≤ i) ∨
  (text = [] ∧ ∀ j other, ¬ ClosesAt lines j index other)

/-- The line cannot stand behind the lines `before`, and this is the fault. -/
inductive Refused (count : Nat) (before : List Text) (line : Text) : Fault → Prop where
  /-- A text before the first block. -/
  | stray (hne : line ≠ []) (hmark : ¬ IsMark line) (hnone : ∀ mark ∈ before, ¬ IsMark mark) :
      Refused count before line (.noIndexYet line)
  /-- A mark that closes a block without a slot. -/
  | outside {index : Int} {body : List Text} (hmark : IsMark line)
      (hopen : Opened before index body) (hout : ¬ (0 ≤ index ∧ index < count)) :
      Refused count before line (.noSlot index count)
  /-- A mark with room for an index and without one; the block that it closes goes first. -/
  | unindexed (hmark : IsMark line) (hroom : 3 ≤ line.length) (hno : ¬ ∃ index, Begins line index)
      (hslot : ∀ index body, Opened before index body → 0 ≤ index ∧ index < count) :
      Refused count before line (.badIndex fileName (indexText line))

/-- The line closes a block without a slot. -/
def ClosesOutside (count : Nat) (before : List Text) (line : Text) : Prop :=
  IsMark line ∧ ∃ index body, Opened before index body ∧ ¬ (0 ≤ index ∧ index < count)

/-- Line number `i` is refused. -/
def RefusedAt (count : Nat) (lines : List Text) (i : Nat) (fault : Fault) : Prop :=
  ∃ line, lines[i]? = some line ∧ Refused count (lines.take i) line fault

/-- The fault of the first line that is refused. -/
def IsFirstFault (count : Nat) (lines : List Text) (fault : Fault) : Prop :=
  ∃ i, RefusedAt count lines i fault ∧ ∀ j < i, ∀ other, ¬ RefusedAt count lines j other

/-- Nothing is refused among the lines. -/
def Fine (count : Nat) (lines : List Text) : Prop := ∀ i fault, ¬ RefusedAt count lines i fault

/-! ### What is unique -/

theorem length_indexText_le (line : Text) : (indexText line).length ≤ Text.maxDigits :=
  Nat.le_trans (List.length_take_le 2 _) (by decide)

theorem Begins.unique {other : Int} (h : Begins line index) (hother : Begins line other) :
    index = other :=
  h.2.2.unique (length_indexText_le line) hother.2.2

/-- A mark with no mark behind it is the last one. -/
theorem eq_of_lastMark {header header' : Text} {body' between : List Text}
    (hsplit : header :: body = between ++ header' :: body') (hmark : IsMark header')
    (hbody : ∀ line ∈ body, ¬ IsMark line) : header = header' ∧ body = body' := by
  cases between with
  | nil => exact List.cons.inj hsplit
  | cons first between =>
    obtain ⟨rfl, rfl⟩ := List.cons.inj hsplit
    exact absurd hmark (hbody header' (by simp))

theorem Opened.unique {other : Int} {body' : List Text} (h : Opened before index body)
    (hother : Opened before other body') : index = other ∧ body = body' := by
  obtain ⟨front, header, rfl, hbegins, hbody⟩ := h
  obtain ⟨front', header', hsame, hbegins', hbody'⟩ := hother
  rcases List.append_eq_append_iff.mp hsame with ⟨between, -, hrest⟩ | ⟨between, -, hrest⟩
  · obtain ⟨rfl, rfl⟩ := eq_of_lastMark hrest hbegins'.1 hbody
    exact ⟨hbegins.unique hbegins', rfl⟩
  · obtain ⟨rfl, rfl⟩ := eq_of_lastMark hrest hbegins.1 hbody'
    exact ⟨hbegins.unique hbegins', rfl⟩

theorem Opened.exists_isMark (h : Opened before index body) : ∃ mark ∈ before, IsMark mark := by
  obtain ⟨front, header, rfl, hbegins, -⟩ := h
  exact ⟨header, by simp, hbegins.1⟩

theorem IsSlot.unique {text other : Text} (h : IsSlot lines index text)
    (hother : IsSlot lines index other) : text = other := by
  rcases h with ⟨i, body, hcloses, rfl, hlast⟩ | ⟨rfl, hnone⟩
  · rcases hother with ⟨j, body', hcloses', rfl, hlast'⟩ | ⟨-, hnone'⟩
    · obtain rfl : i = j := Nat.le_antisymm (hlast' i body hcloses) (hlast j body' hcloses')
      obtain ⟨-, -, -, hopen⟩ := hcloses
      obtain ⟨-, -, -, hopen'⟩ := hcloses'
      rw [(hopen.unique hopen').2]
    · exact absurd hcloses (hnone' i body)
  · rcases hother with ⟨j, body', hcloses', -, -⟩ | ⟨rfl, -⟩
    · exact absurd hcloses' (hnone j body')
    · rfl

theorem Refused.unique {other : Fault} (h : Refused count before line fault)
    (hother : Refused count before line other) : fault = other := by
  cases h with
  | stray _ hmark => cases hother with
    | stray => rfl
    | outside hmark' => exact absurd hmark' hmark
    | unindexed hmark' => exact absurd hmark' hmark
  | outside hmark hopen hout => cases hother with
    | stray _ hmark' => exact absurd hmark hmark'
    | outside _ hopen' => rw [(hopen.unique hopen').1]
    | unindexed _ _ _ hslot => exact absurd (hslot _ _ hopen) hout
  | unindexed hmark _ _ hslot => cases hother with
    | stray _ hmark' => exact absurd hmark hmark'
    | outside _ hopen hout => exact absurd (hslot _ _ hopen) hout
    | unindexed => rfl

/-- An index out of range goes before whatever else is wrong with the line. -/
theorem Refused.kind (h : Refused count before line fault) :
    (fault.kind = .indexOutOfRange ↔ ClosesOutside count before line) ∧
      (fault.kind = .malformedRecord ↔ ¬ ClosesOutside count before line) := by
  cases h with
  | stray _ hmark =>
    have hno : ¬ ClosesOutside count before line := fun h => hmark h.1
    exact ⟨iff_of_false (by simp [Fault.kind]) hno, iff_of_true rfl hno⟩
  | outside hmark hopen hout =>
    have hout : ClosesOutside count before line := ⟨hmark, _, _, hopen, hout⟩
    exact ⟨iff_of_true rfl hout, iff_of_false (by simp [Fault.kind]) (not_not.mpr hout)⟩
  | unindexed _ _ _ hslot =>
    have hno : ¬ ClosesOutside count before line := by
      rintro ⟨-, index, body, hopen, hout⟩
      exact hout (hslot index body hopen)
    exact ⟨iff_of_false (by simp [Fault.kind]) hno, iff_of_true rfl hno⟩

theorem not_refused_of_not_isMark (hmark : ¬ IsMark line)
    (h : line = [] ∨ ∃ mark ∈ before, IsMark mark) : ¬ Refused count before line fault := by
  rintro (⟨hne, -, hnone⟩ | ⟨hmark', -, -⟩ | ⟨hmark', -, -, -⟩)
  · rcases h with rfl | ⟨mark, hmem, hmark'⟩
    · exact hne rfl
    · exact hnone mark hmem hmark'
  · exact hmark hmark'
  · exact hmark hmark'

theorem not_refused_of_isMark (hmark : IsMark line)
    (hslot : ∀ index body, Opened before index body → 0 ≤ index ∧ index < count)
    (hbegins : 3 ≤ line.length → ∃ index, Begins line index) :
    ¬ Refused count before line fault := by
  rintro (⟨-, hnot, -⟩ | ⟨-, hopen, hout⟩ | ⟨-, hroom, hno, -⟩)
  · exact hnot hmark
  · exact hout (hslot _ _ hopen)
  · exact hno (hbegins hroom)

theorem IsFirstFault.unique {other : Fault} (h : IsFirstFault count lines fault)
    (hother : IsFirstFault count lines other) : fault = other := by
  obtain ⟨i, hrefused, hfirst⟩ := h
  obtain ⟨j, hrefused', hfirst'⟩ := hother
  have hge : ¬ j < i := fun hlt => hfirst j hlt other hrefused'
  have hle : ¬ i < j := fun hlt => hfirst' i hlt fault hrefused
  obtain rfl : i = j := by omega
  obtain ⟨line, hline, hrefused⟩ := hrefused
  obtain ⟨line', hline', hrefused'⟩ := hrefused'
  rw [hline] at hline'
  obtain rfl := Option.some.inj hline'
  exact hrefused.unique hrefused'

/-! ## One more line -/

theorem Opened.concat (h : Opened before index body) (hmark : ¬ IsMark line) :
    Opened (before ++ [line]) index (body ++ [line]) := by
  obtain ⟨front, header, rfl, hbegins, hbody⟩ := h
  refine ⟨front, header, by simp, hbegins, ?_⟩
  rw [List.forall_mem_append]
  exact ⟨hbody, by simpa using hmark⟩

theorem Begins.opened (h : Begins line index) : Opened (before ++ [line]) index [] :=
  ⟨before, line, rfl, h, by simp⟩

theorem ClosesAt.lt (h : ClosesAt lines i index body) : i < lines.length := by
  obtain ⟨line, hline, -⟩ := h
  exact (List.getElem?_eq_some_iff.mp hline).1

theorem closesAt_concat_iff : ClosesAt (before ++ [line]) i index body ↔
    ClosesAt before i index body ∨ i = before.length ∧ IsMark line ∧ Opened before index body := by
  rcases Nat.lt_trichotomy i before.length with hlt | rfl | hgt
  · rw [ClosesAt, List.getElem?_append_left hlt, List.take_append_of_le_length hlt.le]
    exact ⟨Or.inl, fun h => h.resolve_right fun h => absurd h.1 hlt.ne⟩
  · simp [ClosesAt]
  · have hnot : ¬ ClosesAt before i index body := fun h => absurd h.lt (by omega)
    have hnot' : ¬ ClosesAt (before ++ [line]) i index body := fun h => by
      have hlt := h.lt
      rw [List.length_append, List.length_singleton] at hlt
      omega
    simp only [hnot, hnot', false_or, false_iff]
    omega

theorem IsSlot.concat {text : Text} (h : IsSlot before index text)
    (hno : ∀ body, ¬ (IsMark line ∧ Opened before index body)) :
    IsSlot (before ++ [line]) index text := by
  have hsame (i : Nat) (body : List Text) :
      ClosesAt (before ++ [line]) i index body ↔ ClosesAt before i index body := by
    rw [closesAt_concat_iff, or_iff_left fun h => hno body h.2]
  simp only [IsSlot, hsame]
  exact h

theorem Opened.isSlot (h : Opened before index body) (hmark : IsMark line) :
    IsSlot (before ++ [line]) index body.flatten := by
  refine Or.inl ⟨before.length, body, closesAt_concat_iff.mpr (Or.inr ⟨rfl, hmark, h⟩), rfl, ?_⟩
  intro j other hcloses
  have hlt := hcloses.lt
  rw [List.length_append, List.length_singleton] at hlt
  omega

theorem refusedAt_append_iff (h : i < before.length) :
    RefusedAt count (before ++ behind) i fault ↔ RefusedAt count before i fault := by
  rw [RefusedAt, List.getElem?_append_left h, List.take_append_of_le_length h.le, RefusedAt]

theorem refusedAt_length_iff :
    RefusedAt count (before ++ line :: behind) before.length fault ↔
      Refused count before line fault := by
  simp [RefusedAt]

theorem Fine.concat (h : Fine count before) (hline : ∀ fault, ¬ Refused count before line fault) :
    Fine count (before ++ [line]) := by
  intro i fault hrefused
  have hlt : i < (before ++ [line]).length := by
    obtain ⟨line, hget, -⟩ := hrefused
    exact (List.getElem?_eq_some_iff.mp hget).1
  rw [List.length_append, List.length_singleton] at hlt
  rcases Nat.lt_succ_iff_lt_or_eq.mp hlt with hbefore | rfl
  · exact h i fault ((refusedAt_append_iff hbefore).mp hrefused)
  · exact hline fault (refusedAt_length_iff.mp hrefused)

theorem Fine.isFirstFault (h : Fine count before) (hline : Refused count before line fault) :
    IsFirstFault count (before ++ line :: behind) fault := by
  refine ⟨before.length, refusedAt_length_iff.mpr hline, fun j hj other hrefused => ?_⟩
  exact h j other ((refusedAt_append_iff hj).mp hrefused)

/-! ## Reading -/

variable {r : Reading} {slots : Std.TreeMap Nat Text}

/-- The slots hold what these lines put there. -/
def Holds (lines : List Text) (slots : Std.TreeMap Nat Text) : Prop :=
  ∀ index : Nat, IsSlot lines index (slots.getD index [])

/-- What has been read tells of the lines `before`. -/
structure Reads (before : List Text) (r : Reading) : Prop where
  /-- Without an open block there has been no mark. -/
  noMark : r.entry = none → ∀ mark ∈ before, ¬ IsMark mark
  /-- The block that is open; empty lines are left out of its body. -/
  opened : ∀ e, r.entry = some e →
    ∃ body, Opened before e.index body ∧ e.body.reverse.flatten = body.flatten
  /-- The slots. -/
  holds : Holds before r.slots

theorem reads_nil : Reads [] ⟨∅, none⟩ where
  noMark _ := by simp
  opened e he := absurd he (Option.some_ne_none e).symm
  holds index := Or.inr ⟨by simp, fun j other h => absurd h.lt (Nat.not_lt_zero j)⟩

theorem Holds.concat_of_not_isMark (h : Holds before slots) (hmark : ¬ IsMark line) :
    Holds (before ++ [line]) slots :=
  fun index => (h index).concat fun _ h => hmark h.1

theorem Holds.insert (h : Holds before slots) (hopen : Opened before index body)
    (hmark : IsMark line) (hindex : 0 ≤ index) :
    Holds (before ++ [line]) (slots.insert index.toNat body.flatten) := by
  intro other
  simp only [Std.TreeMap.getD_insert, Nat.compare_eq_eq]
  by_cases hother : index.toNat = other
  · obtain rfl : index = other := by omega
    rw [if_pos hother]
    exact hopen.isSlot hmark
  · rw [if_neg hother]
    refine (h other).concat fun body' hcloses => hother ?_
    have hsame : index = other := (hopen.unique hcloses.2).1
    omega

theorem Reads.skip (h : Reads before r) : Reads (before ++ [[]]) r := by
  have hmark : ¬ IsMark [] := by decide
  refine ⟨fun hnone => ?_, fun e he => ?_, h.holds.concat_of_not_isMark hmark⟩
  · rw [List.forall_mem_append]
    exact ⟨h.noMark hnone, by simpa using hmark⟩
  · obtain ⟨body, hopen, hflat⟩ := h.opened e he
    exact ⟨body ++ [[]], hopen.concat hmark, by simpa using hflat⟩

theorem Reads.addLine (count : Nat) (h : Reads before r) (hne : line ≠ []) (hmark : ¬ IsMark line) :
    (∃ next, r.addLine line = .ok next ∧ Reads (before ++ [line]) next ∧
      ∀ fault, ¬ Refused count before line fault) ∨
    ∃ fault, r.addLine line = .error fault ∧ Refused count before line fault := by
  cases hentry : r.entry with
  | none =>
    right
    refine ⟨.noIndexYet line, ?_, .stray hne hmark (h.noMark hentry)⟩
    rw [Reading.addLine, hentry]
  | some e =>
    left
    obtain ⟨body, hopen, hflat⟩ := h.opened e hentry
    refine ⟨{ r with entry := some { e with body := line :: e.body } }, ?_, ?_, ?_⟩
    · rw [Reading.addLine, hentry]
    · refine ⟨fun hnone => absurd hnone (Option.some_ne_none _), fun next hnext => ?_,
        h.holds.concat_of_not_isMark hmark⟩
      obtain rfl := Option.some.inj hnext
      refine ⟨body ++ [line], hopen.concat hmark, ?_⟩
      rw [List.reverse_cons, List.flatten_append, List.flatten_append, hflat]
    · exact fun fault => not_refused_of_not_isMark hmark (Or.inr hopen.exists_isMark)

theorem Reads.store (count : Nat) (h : Reads before r) (hmark : IsMark line) :
    (∃ slots, r.store count = .ok slots ∧ Holds (before ++ [line]) slots ∧
      ∀ index body, Opened before index body → 0 ≤ index ∧ index < count) ∨
    ∃ fault, r.store count = .error fault ∧ Refused count before line fault := by
  cases hentry : r.entry with
  | none =>
    have hclosed (index : Int) (body : List Text) : ¬ Opened before index body := by
      intro hopen
      obtain ⟨mark, hmem, hmark⟩ := hopen.exists_isMark
      exact h.noMark hentry mark hmem hmark
    left
    refine ⟨r.slots, by rw [Reading.store, hentry], fun index => ?_,
      fun index body hopen => absurd hopen (hclosed index body)⟩
    exact (h.holds index).concat fun body hcloses => hclosed index body hcloses.2
  | some e =>
    obtain ⟨body, hopen, hflat⟩ := h.opened e hentry
    by_cases hin : 0 ≤ e.index ∧ e.index < count
    · left
      refine ⟨r.slots.insert e.index.toNat e.body.reverse.flatten, ?_, ?_, ?_⟩
      · rw [Reading.store, hentry]
        exact if_pos hin
      · rw [hflat]
        exact h.holds.insert hopen hmark hin.1
      · intro index other hother
        obtain ⟨rfl, -⟩ := hopen.unique hother
        exact hin
    · right
      refine ⟨.noSlot e.index count, ?_, .outside hmark hopen hin⟩
      rw [Reading.store, hentry]
      exact if_neg hin

theorem Begins.reads (h : Begins line index) (hholds : Holds (before ++ [line]) slots) :
    Reads (before ++ [line]) ⟨slots, some ⟨index, []⟩⟩ where
  noMark hnone := absurd hnone (Option.some_ne_none _)
  opened e he := by
    obtain rfl := Option.some.inj he
    exact ⟨[], h.opened, rfl⟩
  holds := hholds

/-! ## All lines -/

/-- The outcome tells of all these lines. -/
def Tells (count : Nat) (lines : List Text) : Except Fault (Std.TreeMap Nat Text) → Prop
  | .ok slots => Holds lines slots ∧ Fine count lines
  | .error fault => IsFirstFault count lines fault

theorem upToEnd_of_not_isEnd (h : ¬ IsEnd line) (rest : List Text) :
    upToEnd (line :: rest) = line :: upToEnd rest := by
  rw [upToEnd, if_neg h]

/-- A mark with room for an index is read to the end of it, or refused. -/
theorem parseIndex_indexText (hmark : IsMark line) (hroom : 3 ≤ line.length) :
    (∃ index, parseIndex (indexText line) fileName = .ok index ∧ Begins line index) ∨
    (parseIndex (indexText line) fileName = .error (.badIndex fileName (indexText line)) ∧
      ¬ ∃ index, Begins line index) := by
  have hlength := length_indexText_le line
  cases hindex : parseIndex (indexText line) fileName with
  | ok index =>
    have hstarts := (parseIndex_eq_ok_iff fileName hlength).mp hindex
    exact Or.inl ⟨index, rfl, hmark, hroom, hstarts⟩
  | error fault =>
    obtain ⟨hno, rfl⟩ := (parseIndex_eq_error_iff fileName hlength).mp hindex
    right
    refine ⟨rfl, ?_⟩
    rintro ⟨index, hbegins⟩
    exact hno ⟨index, hbegins.2.2⟩

theorem finish_tells (h : Reads before r) (hfine : Fine count before) (rest : List Text) :
    Tells count (before ++ upToEnd rest) (r.finish count rest) := by
  fun_induction Reading.finish r count rest generalizing before with
  | case1 r =>
    rw [upToEnd, List.append_nil]
    exact ⟨h.holds, hfine⟩
  | case2 r rest ih =>
    have hmark : ¬ IsMark [] := by decide
    have hempty := hfine.concat fun fault => not_refused_of_not_isMark hmark (Or.inl rfl)
    have hrest := ih h.skip hempty
    rw [upToEnd_of_not_isEnd (fun hend => hmark hend.1)]
    simpa using hrest
  | case3 r digits rest ih =>
    have hmark : IsMark ('#' :: digits) := rfl
    rcases h.store count hmark with ⟨slots, hstore, hholds, hslot⟩ | ⟨fault, hstore, hout⟩
    · rw [hstore, ok_bind]
      by_cases hshort : digits.length < 2
      · -- The file ends here.
        have hend : IsEnd ('#' :: digits) := ⟨hmark, Nat.succ_lt_succ hshort⟩
        rw [if_pos hshort, upToEnd, if_pos hend]
        exact ⟨hholds, hfine.concat fun fault => not_refused_of_isMark hmark hslot
          fun hroom => absurd hend.2 (Nat.not_lt.mpr hroom)⟩
      · have hroom : 3 ≤ ('#' :: digits).length := Nat.succ_le_succ (Nat.not_lt.mp hshort)
        have hend : ¬ IsEnd ('#' :: digits) := fun h => absurd h.2 (Nat.not_lt.mpr hroom)
        rw [if_neg hshort, upToEnd_of_not_isEnd hend]
        rcases parseIndex_indexText hmark hroom with ⟨index, hindex, hbegins⟩ | ⟨hindex, hno⟩
        · have hline := hfine.concat fun fault =>
            not_refused_of_isMark hmark hslot fun _ => ⟨index, hbegins⟩
          have hrest := ih slots index (hbegins.reads hholds) hline
          rw [show digits.take 2 = indexText ('#' :: digits) from rfl, hindex, ok_bind]
          simpa using hrest
        · rw [show digits.take 2 = indexText ('#' :: digits) from rfl, hindex, error_bind]
          exact hfine.isFirstFault (.unindexed hmark hroom hno hslot)
    · -- The line is refused, whether it ends the file or not.
      rw [hstore, error_bind, upToEnd]
      split
      · exact hfine.isFirstFault hout
      · exact hfine.isFirstFault hout
  | case4 r line rest hne hmark ih =>
    have hplain : ¬ IsMark line := by
      intro h
      obtain ⟨digits, rfl⟩ := List.head?_eq_some_iff.mp h
      exact hmark digits rfl
    rw [upToEnd_of_not_isEnd fun hend => hplain hend.1]
    rcases h.addLine count hne hplain with
      ⟨next, hnext, hreads, hline⟩ | ⟨fault, hnext, hstray⟩
    · have hrest := ih next hreads (hfine.concat hline)
      rw [hnext, ok_bind]
      simpa using hrest
    · rw [hnext, error_bind]
      exact hfine.isFirstFault hstray

/-! ## The file -/

/-- What the descriptions of a file are, and where it fails. -/
theorem parse_tells (t : Text) (count : Nat) :
    (∃ descriptions, parse t count = .ok descriptions ∧ Fine count (upToEnd t.lines) ∧
      ∀ (index : Nat) text, descriptions[index]? = some text →
        IsSlot (upToEnd t.lines) index text) ∨
    ∃ fault, parse t count = .error fault ∧ IsFirstFault count (upToEnd t.lines) fault := by
  have hfine : Fine count [] := fun i fault h => by simp [RefusedAt] at h
  have htells := finish_tells reads_nil hfine t.lines
  rw [List.nil_append] at htells
  rw [parse]
  cases hfinish : Reading.finish ⟨∅, none⟩ count t.lines with
  | error fault =>
    rw [hfinish] at htells
    exact Or.inr ⟨fault, rfl, htells⟩
  | ok slots =>
    rw [hfinish] at htells
    obtain ⟨hholds, hfine⟩ := htells
    refine Or.inl ⟨_, rfl, hfine, fun index text htext => ?_⟩
    rw [List.getElem?_map, Option.map_eq_some_iff] at htext
    obtain ⟨number, hnumber, rfl⟩ := htext
    obtain ⟨hlt, rfl⟩ := List.getElem?_eq_some_iff.mp hnumber
    rw [List.getElem_range]
    exact hholds index

theorem parse_eq_error_iff (t : Text) (fault : Fault) :
    parse t count = .error fault ↔ IsFirstFault count (upToEnd t.lines) fault := by
  rcases parse_tells t count with ⟨descriptions, hparse, hfine, -⟩ | ⟨first, hparse, hfirst⟩
  · rw [hparse]
    refine iff_of_false (by simp) ?_
    rintro ⟨i, hrefused, -⟩
    exact hfine i fault hrefused
  · rw [hparse]
    constructor
    · intro h
      exact Except.error.inj h ▸ hfirst
    · intro h
      rw [hfirst.unique h]

theorem parse_eq_ok_iff (t : Text) (descriptions : List Text) :
    parse t count = .ok descriptions ↔
      Fine count (upToEnd t.lines) ∧ descriptions.length = count ∧
        ∀ (index : Nat) text, descriptions[index]? = some text →
          IsSlot (upToEnd t.lines) index text := by
  rcases parse_tells t count with ⟨found, hparse, hfine, hslots⟩ | ⟨fault, hparse, hfirst⟩
  · have hlength := length_of_parse hparse
    rw [hparse]
    constructor
    · intro h
      obtain rfl := Except.ok.inj h
      exact ⟨hfine, hlength, hslots⟩
    · rintro ⟨-, hlength', hslots'⟩
      refine congrArg Except.ok (List.ext_getElem (hlength.trans hlength'.symm) ?_)
      intro index hfound hlt
      exact (hslots index _ (List.getElem?_eq_getElem hfound)).unique
        (hslots' index _ (List.getElem?_eq_getElem hlt))
  · rw [hparse]
    refine iff_of_false (by simp) ?_
    rintro ⟨hfine, -, -⟩
    obtain ⟨i, hrefused, -⟩ := hfirst
    exact hfine i fault hrefused

/-- There is room for a table of so many slots. -/
def HasSlots (slots : Int) : Prop :=
  -Capacity.countBound ≤ slots ∧ slots < Capacity.countBound ∧
    slots.toNat * slotSize ≤ Capacity.room

theorem table_of_hasSlots (t : Text) {slots : Int} (h : HasSlots slots) :
    table t slots = parse t slots.toNat := by
  obtain ⟨hlow, hhigh, hroom⟩ := h
  have hcount : ¬ (slots < -Capacity.countBound ∨ Capacity.countBound ≤ slots) := by omega
  rw [table, Capacity.checkCount, if_neg hcount, ok_bind, Capacity.checkRoom,
    if_neg (Nat.not_lt.mpr hroom), ok_bind]

theorem table_of_not_hasSlots (t : Text) {slots : Int} (h : ¬ HasSlots slots) :
    Fails .overflow (table t slots) ∨ Fails .memory (table t slots) := by
  rw [table, Capacity.checkCount]
  by_cases hcount : slots < -Capacity.countBound ∨ Capacity.countBound ≤ slots
  · rw [if_pos hcount]
    exact Or.inl (fails_error.mpr rfl)
  · have hroom : Capacity.room < slots.toNat * slotSize := by
      by_contra hroom
      exact h ⟨by omega, by omega, Nat.not_lt.mp hroom⟩
    rw [if_neg hcount, ok_bind, Capacity.checkRoom, if_pos hroom]
    exact Or.inr (fails_error.mpr rfl)

/-- Reading the spell maker file is cutting it into blocks. What stands behind the first line that
ends it changes nothing; it fails iff one of its lines is refused, with the fault of the first; and
otherwise every slot holds the body of the last block with its index that a mark has closed. That is
so for a table of any number of slots that there is room for, and no others are made. -/
theorem parse_blocks (t : Text) (count : Nat) :
    (∀ u : Text, upToEnd u.lines = upToEnd t.lines → parse u count = parse t count) ∧
    (∀ fault, parse t count = .error fault ↔ IsFirstFault count (upToEnd t.lines) fault) ∧
    (∀ before line fault, Refused count before line fault →
      (fault.kind = .indexOutOfRange ↔ ClosesOutside count before line) ∧
      (fault.kind = .malformedRecord ↔ ¬ ClosesOutside count before line)) ∧
    (∀ descriptions, parse t count = .ok descriptions ↔
      Fine count (upToEnd t.lines) ∧ descriptions.length = count ∧
        ∀ (index : Nat) text, descriptions[index]? = some text →
          IsSlot (upToEnd t.lines) index text) ∧
    ∀ slots : Int,
      (HasSlots slots → slots.toNat = count → table t slots = parse t count) ∧
      (¬ HasSlots slots → Fails .overflow (table t slots) ∨ Fails .memory (table t slots)) := by
  refine ⟨fun u hu => ?_, parse_eq_error_iff t, fun before line fault => Refused.kind,
    parse_eq_ok_iff t, fun slots => ⟨fun hslots hcount => ?_, table_of_not_hasSlots t⟩⟩
  · cases hparse : parse t count with
    | ok descriptions => rwa [parse_eq_ok_iff, hu, ← parse_eq_ok_iff]
    | error fault => rwa [parse_eq_error_iff, hu, ← parse_eq_error_iff]
  · rw [← hcount, table_of_hasSlots t hslots]

/-- The second block with index 1 replaces the first, a carriage return belongs to its line, and the
last block is not closed, whatever its index. With one slot only, the first block fails where it is
closed. -/
theorem parse_of_unended_file :
    let t : Text := "#01\nab\n\n#+1 one\ncd\r\n\r\n# 0\nef\n#99\ngh".toList
    parse t 2 = .ok ["ef".toList, "cd\r\r".toList] ∧ table t 2 = parse t 2 ∧
      IsSlot (upToEnd (Text.lines t)) 1 "cd\r\r".toList ∧
      IsFirstFault 1 (upToEnd (Text.lines t)) (.noSlot 1 1) ∧
      parse "#00\nab\n#\r\n#xx".toList 1 = parse "#00\nab\n#\r".toList 1 := by
  intro t
  obtain ⟨-, herror, -, -⟩ := parse_blocks t 1
  obtain ⟨-, -, -, hok, htable⟩ := parse_blocks t 2
  obtain ⟨hbehind, -, -, -⟩ := parse_blocks "#00\nab\n#\r".toList 1
  have hparse : parse t 2 = .ok ["ef".toList, "cd\r\r".toList] := rfl
  obtain ⟨-, -, hslots⟩ := (hok _).mp hparse
  have hroom : HasSlots 2 := ⟨by decide, by decide, by decide⟩
  exact ⟨hparse, (htable 2).1 hroom rfl, hslots 1 _ rfl, (herror _).mp rfl, hbehind _ (by decide)⟩

end ArenaData.SpellMaker
