import ArenaData.Proofs.Lines
import ArenaData.Proofs.LogTimes
import ArenaData.Proofs.Outcome

/-!
# Reading the rows of the log file back

A reader of rows goes through a file character by character. A semicolon ends a field, and a line
feed a row, but not between quotes: there they belong to the field, and so does a quote that is
doubled. A quote that is not ends the field, and only an end may follow it.

Messages can hold anything. As every quote in them is doubled, none of them ends the field before
the closing quote does (`spells_enquote`), so what looks like further fields or rows in a message is
read as part of it.
-/

namespace ArenaData.Log

open Text (newline ofLines doubleQuote)

/-- Where a reader is in a field. -/
inductive Place where
  /-- Before its first character. -/
  | before
  /-- In a field without quotes. -/
  | bare
  /-- In a field between quotes. -/
  | quoted
  /-- Behind a quote in such a field. -/
  | closing
  deriving DecidableEq, Repr

/-- What has been read of a file of rows. -/
structure RowReading where
  /-- The rows that are complete, the last one first. -/
  rows : List (List Text)
  /-- The fields of the open row that are complete, the last one first. -/
  fields : List Text
  /-- The characters of the open field, the last one first. -/
  field : Text
  /-- Where in that field the reader is. -/
  place : Place
  deriving DecidableEq, Repr

namespace RowReading

/-- Before the first character. -/
def start : RowReading := ⟨[], [], [], .before⟩

/-- A character of the open field. -/
def add (s : RowReading) (c : Char) (place : Place) : RowReading :=
  { s with field := c :: s.field, place }

/-- The open field is complete. -/
def endField (s : RowReading) : RowReading := ⟨s.rows, s.field.reverse :: s.fields, [], .before⟩

/-- The open field is complete, and so is its row. -/
def endRow (s : RowReading) : RowReading :=
  ⟨(s.field.reverse :: s.fields).reverse :: s.rows, [], [], .before⟩

/-- A character that ends a field outside of quotes, if it does. -/
def finish? (s : RowReading) (c : Char) : Option RowReading :=
  if c = ';' then some s.endField else if c = newline then some s.endRow else none

/-- One character. A quote inside a field without quotes is refused. -/
def step (s : RowReading) (c : Char) : Option RowReading :=
  match s.place with
  | .before =>
    if c = doubleQuote then some { s with place := .quoted }
    else (s.finish? c).or (some (s.add c .bare))
  | .bare => if c = doubleQuote then none else (s.finish? c).or (some (s.add c .bare))
  | .quoted =>
    if c = doubleQuote then some { s with place := .closing } else some (s.add c .quoted)
  | .closing => if c = doubleQuote then some (s.add c .quoted) else s.finish? c

end RowReading

/-- The rows of a file, each as its fields. -/
def readRows (t : Text) : Option (List (List Text)) :=
  match t.foldlM RowReading.step RowReading.start with
  | some ⟨rows, [], _, .before⟩ => some rows.reverse
  | _ => none

/-- What the fields of a row say. -/
def columns (pattern : Text) (r : Record) : List Text := [
  timeText pattern r.created,
  Text.padRight ' ' 8 r.levelName,
  Text.ofInt r.elapsed.truncated ++ " ms".toList,
  r.logger,
  r.line.text,
  r.message ++ r.raised.elim [] fun raised => newline :: raised.shown]

/-- The text has neither a quote nor what ends a field. -/
def IsBare (t : Text) : Prop := ∀ c ∈ t, c ≠ doubleQuote ∧ c ≠ ';' ∧ c ≠ newline

instance (t : Text) : Decidable (IsBare t) := List.decidableBAll _ t

/-- Where quotes are not doubled there are none, and the name of the level, which stands without
quotes, has nothing that ends a field. -/
structure IsPlain (pattern : Text) (r : Record) : Prop where
  time : doubleQuote ∉ timeText pattern r.created
  logger : doubleQuote ∉ r.logger
  level : IsBare r.levelName

variable {c : Char} {t value : Text} {written values : List Text} {pattern : Text} {r : Record}
  {records : List Record}

/-! ## Fields -/

theorem doubleQuotes_cons (c : Char) (t : Text) :
    doubleQuotes (c :: t) = (if c = doubleQuote then [c, c] else [c]) ++ doubleQuotes t := rfl

theorem doubleQuotes_of_notMem (h : doubleQuote ∉ t) : doubleQuotes t = t := by
  induction t with
  | nil => rfl
  | cons c t ih =>
    obtain ⟨hc, ht⟩ := List.ne_and_not_mem_of_not_mem_cons h
    rw [doubleQuotes_cons, if_neg hc.symm, ih ht, List.singleton_append]

namespace RowReading

/-- Between quotes a text is read as it was before its quotes were doubled. -/
theorem read_doubleQuotes (rows : List (List Text)) (fields : List Text) (field t : Text) :
    (doubleQuotes t).foldlM step ⟨rows, fields, field, .quoted⟩ =
      some ⟨rows, fields, t.reverse ++ field, .quoted⟩ := by
  induction t generalizing field with
  | nil => rfl
  | cons c t ih =>
    have hone : (if c = doubleQuote then [c, c] else [c]).foldlM step
        ⟨rows, fields, field, .quoted⟩ = some ⟨rows, fields, c :: field, .quoted⟩ := by
      by_cases hc : c = doubleQuote
      · rw [if_pos hc, hc]
        rfl
      · rw [if_neg hc]
        simp [step, hc, add]
    rw [doubleQuotes_cons, List.foldlM_append, hone]
    simp [ih]

/-- The text is a field that says `value`, if the row goes on with the end of the field. -/
def Spells (t value : Text) : Prop :=
  ∀ rows fields, ∃ place, (place = .bare ∨ place = .closing) ∧
    t.foldlM step ⟨rows, fields, [], .before⟩ = some ⟨rows, fields, value.reverse, place⟩

theorem spells_enquote (t : Text) : Spells (enquote (doubleQuotes t)) t := by
  intro rows fields
  refine ⟨.closing, Or.inr rfl, ?_⟩
  have hopen : step ⟨rows, fields, [], .before⟩ doubleQuote =
      some ⟨rows, fields, [], .quoted⟩ := rfl
  rw [enquote, List.foldlM_cons, hopen]
  show (doubleQuotes t ++ [doubleQuote]).foldlM step ⟨rows, fields, [], .quoted⟩ = _
  rw [List.foldlM_append, read_doubleQuotes, List.append_nil]
  rfl

theorem spells_enquote_of_notMem (h : doubleQuote ∉ t) : Spells (enquote t) t := by
  have hspells := spells_enquote t
  rwa [doubleQuotes_of_notMem h] at hspells

theorem step_bare {place : Place} (hplace : place = .before ∨ place = .bare)
    (hc : c ≠ doubleQuote ∧ c ≠ ';' ∧ c ≠ newline) (rows : List (List Text)) (fields : List Text)
    (field : Text) : step ⟨rows, fields, field, place⟩ c =
      some ⟨rows, fields, c :: field, .bare⟩ := by
  obtain ⟨hquote, hsemicolon, hfeed⟩ := hc
  rcases hplace with rfl | rfl
  · simp [step, finish?, add, hquote, hsemicolon, hfeed]
  · simp [step, finish?, add, hquote, hsemicolon, hfeed]

theorem read_bare (h : IsBare t) (rows : List (List Text)) (fields : List Text) (field : Text) :
    t.foldlM step ⟨rows, fields, field, .bare⟩ =
      some ⟨rows, fields, t.reverse ++ field, .bare⟩ := by
  induction t generalizing field with
  | nil => rfl
  | cons c t ih =>
    obtain ⟨hc, ht⟩ := List.forall_mem_cons.mp h
    rw [List.foldlM_cons, step_bare (Or.inr rfl) hc]
    simp [ih ht]

theorem spells_bare (hne : t ≠ []) (h : IsBare t) : Spells t t := by
  intro rows fields
  obtain ⟨c, rest, rfl⟩ := List.exists_cons_of_ne_nil hne
  obtain ⟨hc, hrest⟩ := List.forall_mem_cons.mp h
  refine ⟨.bare, Or.inl rfl, ?_⟩
  rw [List.foldlM_cons, step_bare (Or.inl rfl) hc]
  show rest.foldlM step ⟨rows, fields, [c], .bare⟩ = _
  rw [read_bare hrest, List.reverse_cons]

/-! ## Rows -/

/-- A field ends in the same way however it is written. -/
theorem Spells.foldlM_end (h : Spells t value) (hc : c = ';' ∨ c = newline)
    (rows : List (List Text)) (fields : List Text) :
    (t ++ [c]).foldlM step ⟨rows, fields, [], .before⟩ =
      finish? ⟨rows, fields, value.reverse, .before⟩ c := by
  obtain ⟨place, hplace, hread⟩ := h rows fields
  have hend : step ⟨rows, fields, value.reverse, place⟩ c =
      finish? ⟨rows, fields, value.reverse, .before⟩ c := by
    rcases hplace with rfl | rfl
    · rcases hc with rfl | rfl
      · rfl
      · rfl
    · rcases hc with rfl | rfl
      · rfl
      · rfl
  rw [List.foldlM_append, hread]
  simp [hend]

theorem foldlM_row (h : List.Forall₂ Spells written values) (hne : written ≠ [])
    (rows : List (List Text)) (fields : List Text) :
    (Text.joinWith [';'] written ++ [newline]).foldlM step ⟨rows, fields, [], .before⟩ =
      some ⟨(fields.reverse ++ values) :: rows, [], [], .before⟩ := by
  induction h generalizing fields with
  | nil => exact absurd rfl hne
  | @cons first value others rest hfirst hrest ih =>
    cases others with
    | nil =>
      cases hrest
      have hrow : Text.joinWith [';'] [first] = first := List.append_nil first
      have hend : finish? ⟨rows, fields, value.reverse, .before⟩ newline =
          some ⟨(fields.reverse ++ [value]) :: rows, [], [], .before⟩ := by
        simp [finish?, endRow, newline]
      rw [hrow, hfirst.foldlM_end (Or.inr rfl), hend]
    | cons second others =>
      have hrow : Text.joinWith [';'] (first :: second :: others) ++ [newline] =
          (first ++ [';']) ++ (Text.joinWith [';'] (second :: others) ++ [newline]) := by
        simp [Text.joinWith]
      have hend : finish? ⟨rows, fields, value.reverse, .before⟩ ';' =
          some ⟨rows, value :: fields, [], .before⟩ := by
        simp [finish?, endField]
      rw [hrow, List.foldlM_append, hfirst.foldlM_end (Or.inl rfl), hend]
      show (Text.joinWith [';'] (second :: others) ++ [newline]).foldlM step
        ⟨rows, value :: fields, [], .before⟩ = _
      rw [ih (List.cons_ne_nil _ _), List.reverse_cons, List.append_assoc, List.singleton_append]

end RowReading

open RowReading (Spells)

theorem rowMessage_eq (r : Record) : rowMessage r =
    r.message ++ r.raised.elim [] fun raised => newline :: raised.shown := by
  unfold rowMessage
  cases r.raised with
  | none => exact (List.append_nil _).symm
  | some raised => rfl

theorem IsPlain.spells_row (h : IsPlain pattern r) : ∃ written,
    row pattern r = Text.joinWith [';'] written ∧ written ≠ [] ∧
      List.Forall₂ Spells written (columns pattern r) := by
  have hnumber {t : Text} (ht : Text.IsNumeral t) : doubleQuote ∉ t := ht.notMem rfl (by decide)
  have helapsed : doubleQuote ∉ Text.ofInt r.elapsed.truncated ++ " ms".toList := by
    rw [List.mem_append, not_or]
    exact ⟨hnumber (Text.isNumeral_ofInt _), by decide⟩
  have hlevel : Spells (Text.padRight ' ' 8 r.levelName) (Text.padRight ' ' 8 r.levelName) := by
    refine RowReading.spells_bare ?_ ?_
    · have hlength : 0 < (Text.padRight ' ' 8 r.levelName).length := by
        rw [Text.padRight, List.length_append, List.length_replicate]
        omega
      exact List.length_pos_iff.mp hlength
    · intro c hc
      rcases List.mem_append.mp hc with hc | hc
      · exact h.level c hc
      · obtain rfl := List.eq_of_mem_replicate hc
        decide
  refine ⟨_, rfl, List.cons_ne_nil _ _, ?_⟩
  refine .cons (RowReading.spells_enquote_of_notMem h.time) (.cons hlevel ?_)
  refine .cons (RowReading.spells_enquote_of_notMem helapsed) ?_
  refine .cons (RowReading.spells_enquote_of_notMem h.logger) ?_
  refine .cons (RowReading.spells_enquote_of_notMem (hnumber r.line.isNumeral_text)) ?_
  rw [rowMessage_eq]
  exact .cons (RowReading.spells_enquote _) .nil

/-! ## The log file -/

theorem isBare_of_isNumeral (h : Text.IsNumeral t) : IsBare t := by
  have hmarks : IsBare Text.numeralMarks := by decide
  intro c hc
  rcases h c hc with hdigit | hmark
  · refine ⟨?_, ?_, ?_⟩
    all_goals
      rintro rfl
      cases hdigit
  · exact hmarks c hmark

theorem isBare_levelName (level : Number) : IsBare (levelName level) := by
  unfold levelName
  split
  · next name hname =>
    have hnames : ∀ pair ∈ levelNames, IsBare pair.2 := by decide
    obtain ⟨n, -, hname⟩ := Option.bind_eq_some_iff.mp hname
    obtain ⟨front, back, hlevels, -⟩ := List.lookup_eq_some_iff.mp hname
    exact hnames (n, name) (hlevels ▸ List.mem_append_right front List.mem_cons_self)
  · have hword : IsBare "Level ".toList := by decide
    exact List.forall_mem_append.mpr ⟨hword, isBare_of_isNumeral level.isNumeral_text⟩

/-- In the log file the times have no quotes, and neither do the names that levels have unless a
program gives them other ones. -/
theorem isPlain_of_defaults (hlogger : doubleQuote ∉ r.logger)
    (hlevel : r.levelName = levelName r.level) : IsPlain filePattern r where
  time := notMem_timeText (by decide) isNumeric_filePattern (by decide) (by decide) rfl (by decide)
  logger := hlogger
  level := hlevel ▸ isBare_levelName r.level

theorem foldlM_rows (h : ∀ r ∈ records, IsPlain pattern r) (rows : List (List Text)) :
    (ofLines (records.map (row pattern))).foldlM RowReading.step ⟨rows, [], [], .before⟩ =
      some ⟨(records.map (columns pattern)).reverse ++ rows, [], [], .before⟩ := by
  induction records generalizing rows with
  | nil => rfl
  | cons r records ih =>
    obtain ⟨hr, hrecords⟩ := List.forall_mem_cons.mp h
    obtain ⟨written, hrow, hne, hwritten⟩ := hr.spells_row
    have hfile : ofLines ((r :: records).map (row pattern)) =
        (Text.joinWith [';'] written ++ [newline]) ++ ofLines (records.map (row pattern)) := by
      rw [List.map_cons, Text.ofLines_cons, hrow]
      simp
    rw [hfile, List.foldlM_append, RowReading.foldlM_row hwritten hne]
    simp [ih hrecords]

theorem row_eq_of_rowOf (h : rowOf pattern r = .ok t) : row pattern r = t := by
  obtain ⟨_, -, h⟩ := bind_eq_ok.mp h
  obtain ⟨_, -, h⟩ := bind_eq_ok.mp h
  obtain ⟨_, -, h⟩ := bind_eq_ok.mp h
  exact Except.ok.inj h

theorem map_row_eq_of_mapM {rows : List Text} (h : records.mapM (rowOf pattern) = .ok rows) :
    records.map (row pattern) = rows := by
  have hrows := (mapM_eq_ok.mp h).imp fun _ _ => row_eq_of_rowOf
  rwa [← List.forall₂_map_left_iff, List.forall₂_eq_eq_eq] at hrows

/-- The rows of records are read back from their file, one for each record and with the six fields
that it has, whatever its message and its exception say. -/
theorem readRows_rows (h : ∀ r ∈ records, IsPlain pattern r) :
    readRows (ofLines (records.map (row pattern))) = some (records.map (columns pattern)) ∧
      ∀ rows, records.mapM (rowOf pattern) = .ok rows →
        readRows (ofLines rows) = some (records.map (columns pattern)) := by
  have hread : readRows (ofLines (records.map (row pattern))) =
      some (records.map (columns pattern)) := by
    rw [readRows, RowReading.start, foldlM_rows h []]
    simp
  refine ⟨hread, fun rows hrows => ?_⟩
  rwa [← map_row_eq_of_mapM hrows]

/-- A record with a message that looks like the ends of its field and its row and like a further
row, and an exception that ends with a quote. -/
def forgery : Record where
  logger := "arena".toList
  level := .whole warning
  line := .whole 7
  message := "\"\n\"1970-01-01 00:00:00\";ERROR   ;\"0 ms\";\"arena\";\"1\";\"\"".toList
  created := .whole 0
  elapsed := .whole 3
  raised := some ⟨"ValueError".toList, "\";\"".toList, none⟩

theorem readRows_of_forgeries :
    (∀ r ∈ [forgery, forgery], IsPlain filePattern r) ∧
      readRows (ofLines [row filePattern forgery, row filePattern forgery]) =
        some (List.replicate 2 ["1970-01-01 00:00:00".toList, "WARNING ".toList, "3 ms".toList,
          "arena".toList, "7".toList, forgery.message ++ "\nValueError: \";\"".toList]) := by
  have hplain : ∀ r ∈ [forgery, forgery], IsPlain filePattern r := by
    intro r hr
    have hforgery : r = forgery := by simpa using hr
    rw [hforgery]
    exact isPlain_of_defaults (by decide) rfl
  have hcolumns : columns filePattern forgery = ["1970-01-01 00:00:00".toList,
      "WARNING ".toList, "3 ms".toList, "arena".toList, "7".toList,
      forgery.message ++ "\nValueError: \";\"".toList] := by
    decide +kernel
  refine ⟨hplain, ?_⟩
  rw [List.replicate, List.replicate, List.replicate, ← hcolumns]
  exact (readRows_rows hplain).1

end ArenaData.Log
