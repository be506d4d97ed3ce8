import ArenaData.Proofs.LogTimes
import ArenaData.Proofs.Outcome

/-!
# The level in color

The name of the level is put in color where the finished line has it first. On the console that is
the column of the level: before it stand the time, in numbers and colons, and a colon between
blanks, so no letter, and the names that have colors start with one (`notMem_beforeLevel`). It makes
no difference what the record says further on.
-/

namespace ArenaData

theorem Text.replaceFirst_append {c : Char} {needle front : Text} (hneedle : needle.head? = some c)
    (hfront : c ∉ front) (replacement back : Text) :
    replaceFirst needle replacement (front ++ (needle ++ back)) =
      front ++ (replacement ++ back) := by
  obtain ⟨rest, rfl⟩ := List.head?_eq_some_iff.mp hneedle
  induction front with
  | nil =>
    have hfits : (c :: rest).isPrefixOf (c :: rest ++ back) :=
      List.isPrefixOf_iff_prefix.mpr (List.prefix_append _ _)
    rw [List.cons_append] at hfits
    rw [List.nil_append, List.nil_append, List.cons_append, replaceFirst, if_pos hfits,
      ← List.cons_append, List.drop_left]
  | cons d front ih =>
    obtain ⟨hd, hfront⟩ := List.ne_and_not_mem_of_not_mem_cons hfront
    have hfits : ¬ (c :: rest).isPrefixOf (d :: (front ++ (c :: rest ++ back))) := by
      rw [List.isPrefixOf_iff_prefix, List.cons_prefix_cons]
      exact fun h => hd h.1
    rw [List.cons_append, replaceFirst, if_neg hfits, ih hfront, List.cons_append]

namespace Log

variable {c : Char} {name : Text} {r : Record}

/-- A line of the console up to the name of the level. -/
def beforeLevel (r : Record) : Text := timeText consolePattern r.created ++ " : ".toList

/-- What the line of the console says behind the name of the level, without an exception. -/
def fieldsBehind (r : Record) : Text :=
  List.replicate (8 - r.levelName.length) ' ' ++ " : ".toList ++ r.logger ++ " : ".toList ++
    r.message

/-- A line of the console from the end of the name of the level on. -/
def behindLevel (r : Record) : Text :=
  fieldsBehind r ++ r.raised.elim [] fun raised =>
    (if (fieldsBehind r).getLast? = some '\n' then [] else ['\n']) ++ raised.shown

/-- Checks that the time of a record can be shown on the console. -/
def checkShown (r : Record) : Except Fault Unit := do
  checkInSeconds r.created
  checkTime consolePattern r.created

/-! ## The line without color -/

theorem line_console (r : Record) : consoleLayout.line consolePattern r =
    (beforeLevel r ++ r.levelName) ++ fieldsBehind r := by
  simp [Layout.line, consoleLayout, Layout.pieceText, Layout.fieldText, Conversion.apply,
    Conversion.pad, Conversion.cut, Conversion.unchanged, Text.padLeft, Text.padRight, beforeLevel,
    fieldsBehind]

theorem plain_console (r : Record) :
    plain consoleLayout consolePattern r = beforeLevel r ++ (r.levelName ++ behindLevel r) := by
  have hne : fieldsBehind r ≠ [] := by simp [fieldsBehind]
  have hlast : (consoleLayout.line consolePattern r).getLast? = (fieldsBehind r).getLast? := by
    rw [line_console, List.getLast?_append_of_ne_nil _ hne]
  unfold plain behindLevel
  cases r.raised with
  | none => simp [line_console]
  | some raised =>
    dsimp only
    rw [hlast, line_console]
    split
    · simp [*]
    · simp [*]

theorem fault?_console (r : Record) : consoleLayout.fault? consolePattern r = none := by
  rfl

theorem plainLineOf_console (r : Record) : plainLineOf consoleSource consolePattern r =
    (checkShown r).map fun _ => beforeLevel r ++ (r.levelName ++ behindLevel r) := by
  have htimed : consoleLayout.timed = true := rfl
  rw [plainLineOf, ofText_consoleSource, ← plain_console, checkShown]
  cases checkInSeconds r.created with
  | error fault => rfl
  | ok =>
    simp only [ok_bind, htimed, if_true, fault?_console]
    cases checkTime consolePattern r.created with
    | error fault => rfl
    | ok => rfl

/-! ## The names that have colors -/

/-- The letters that the names of the levels start with. -/
def initials : Text := "DIWEC".toList

theorem exists_initial (h : name ∈ settableLevels) : ∃ c ∈ initials, name.head? = some c := by
  have hinitials : ∀ name ∈ settableLevels, name.head?.any initials.contains := by decide
  obtain ⟨c, hname, hc⟩ := (Option.any_eq_true _ _).mp (hinitials name h)
  exact ⟨c, List.contains_iff_mem.mp hc, hname⟩

theorem notMem_beforeLevel (h : c ∈ initials) : c ∉ beforeLevel r := by
  have hall : initials.all fun c => .plain c ∉ partsOf consolePattern ∧ c ≠ ' ' ∧
      isPlainDigit c = false ∧ c ∉ Text.numeralMarks ∧ c ∉ " : ".toList := by
    decide
  obtain ⟨hplain, hblank, hdigit, hmark, hcolon⟩ :=
    of_decide_eq_true (List.all_eq_true.mp hall c h)
  rw [beforeLevel, List.mem_append, not_or]
  exact ⟨notMem_timeText (by decide) isNumeric_consolePattern hplain hblank hdigit hmark, hcolon⟩

theorem exists_color_iff :
    (∃ color, colors.lookup name = some color) ↔ name ∈ settableLevels := by
  have hnames : settableLevels = colors.map Prod.fst := by decide
  have hcolors : ∀ name ∈ settableLevels, (colors.lookup name).isSome := by decide
  constructor
  · rintro ⟨color, hcolor⟩
    obtain ⟨front, back, hsplit, -⟩ := List.lookup_eq_some_iff.mp hcolor
    rw [hnames, hsplit]
    simp
  · intro h
    exact Option.isSome_iff_exists.mp (hcolors name h)

/-! ## The line in color -/

theorem inColor_console {color : Text} (h : colors.lookup r.levelName = some color) :
    inColor r.levelName (beforeLevel r ++ (r.levelName ++ behindLevel r)) =
      beforeLevel r ++ (color ++ r.levelName ++ resetCode ++ behindLevel r) := by
  obtain ⟨c, hc, hname⟩ := exists_initial (exists_color_iff.mp ⟨color, h⟩)
  simp only [inColor, h]
  exact Text.replaceFirst_append hname (notMem_beforeLevel hc) _ _

theorem inColor_of_lookup {line : Text} (h : colors.lookup name = none) :
    inColor name line = line := by
  simp only [inColor, h]

/-- On the console the name of one of the five levels is in color where the column of the level is,
and nothing else of the line changes, whatever the logger is called and the message and the
exception say. With any other name the line stays as it is. -/
theorem lineOf_console (r : Record) :
    plainLineOf consoleSource consolePattern r =
        (checkShown r).map (fun _ => beforeLevel r ++ (r.levelName ++ behindLevel r)) ∧
      (r.levelName ∈ settableLevels → ∃ color, colors.lookup r.levelName = some color ∧
        lineOf consoleSource consolePattern r = (checkShown r).map fun _ =>
          beforeLevel r ++ (color ++ r.levelName ++ resetCode ++ behindLevel r)) ∧
      (r.levelName ∉ settableLevels →
        lineOf consoleSource consolePattern r = plainLineOf consoleSource consolePattern r) := by
  refine ⟨plainLineOf_console r, fun hname => ?_, fun hname => ?_⟩
  · obtain ⟨color, hcolor⟩ := exists_color_iff.mpr hname
    refine ⟨color, hcolor, ?_⟩
    rw [lineOf, plainLineOf_console]
    cases checkShown r with
    | error fault => rfl
    | ok => exact congrArg Except.ok (inColor_console hcolor)
  · have hnone : colors.lookup r.levelName = none := by
      rw [Option.eq_none_iff_forall_ne_some]
      exact fun color hcolor => hname (exists_color_iff.mp ⟨color, hcolor⟩)
    have hid : inColor r.levelName = id := funext fun _ => inColor_of_lookup hnone
    rw [lineOf, hid]
    cases plainLineOf consoleSource consolePattern r with
    | error fault => rfl
    | ok line => rfl

/-- A record in which the name of its level and its color come up again and again. -/
def echoing : Record where
  logger := "WARNING".toList
  level := .whole warning
  line := .whole 1
  message := "WARNING ".toList ++ escapeCode "[33mWARNING\n"
  created := .whole 3600000
  elapsed := .whole 0
  raised := some ⟨"UserWarning".toList, "WARNING".toList, none⟩

theorem lineOf_echoing : echoing.levelName ∈ settableLevels ∧
    lineOf consoleSource consolePattern echoing =
      .ok ("01:00:00 : ".toList ++ (escapeCode "[33mWARNING" ++ resetCode) ++
        "  : WARNING : WARNING ".toList ++ escapeCode "[33mWARNING\nUserWarning: WARNING") := by
  have hname : echoing.levelName ∈ settableLevels := by decide
  obtain ⟨color, hcolor, hline⟩ := (lineOf_console echoing).2.1 hname
  have hshown : checkShown echoing = .ok () := by
    have hok : (checkShown echoing).isOk := by decide +kernel
    cases hcheck : checkShown echoing with
    | error fault =>
      rw [hcheck] at hok
      cases hok
    | ok => rfl
  have hbefore : beforeLevel echoing = "01:00:00 : ".toList := by decide +kernel
  obtain rfl : escapeCode "[33m" = color := Option.some.inj hcolor
  refine ⟨hname, ?_⟩
  rw [hline, hshown, hbefore]
  rfl

end Log

end ArenaData
