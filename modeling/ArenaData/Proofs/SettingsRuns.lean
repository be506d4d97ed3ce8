import ArenaData.Proofs.PathTexts
import ArenaData.Settings.Basic
import Mathlib.Data.List.Induction

/-!
# Runs of assignments

Settings of any profiles give values to their properties, one after the other, in one store. What
the settings of a profile read in the end depends on the assignments to this profile alone, and of
those to a property on the last one that counts (`run_reads`). For the names of profiles have no
slashes, so no key of one is a key of another, and no two properties are kept under one key.

Two properties are not kept but follow others: the place of the container, and that of the
executable's data as long as it is not set.
-/

namespace ArenaData

open Json (Value)
open ArenaData.Path (slash)

/-! ## Stores -/

theorem Json.lookup_setField (key other : Text) (value : Value) (fields : List (Text × Value)) :
    (setField key value fields).lookup other =
      if other = key then some value else fields.lookup other := by
  induction fields with
  | nil =>
    rw [setField, List.lookup_cons]
    split
    · rename_i h
      rw [if_pos (eq_of_beq h)]
    · rename_i h
      rw [if_neg (by simpa using h)]
  | cons field fields ih =>
    obtain ⟨k, v⟩ := field
    rw [setField]
    by_cases hk : k = key
    · subst hk
      by_cases ho : other = k
      · simp [ho]
      · simp [ho, List.lookup_cons, beq_eq_false_iff_ne.mpr ho]
    · rw [if_neg hk, List.lookup_cons, List.lookup_cons, ih]
      by_cases ho : other = k
      · subst ho
        simp [hk]
      · simp [beq_eq_false_iff_ne.mpr ho]

theorem Store.get?_set (store : Store) (key other : Text) (value : Value) :
    (store.set key value).get? other = if other = key then some value else store.get? other :=
  Json.lookup_setField key other value store.values

/-! ## Keys of properties -/

namespace Property

/-- The key of a property in its profile; those that are not kept have none. -/
def key : Property → Text
  | arenaPath => "paths/arena".toList
  | archiveName => "paths/archive_name".toList
  | exeDataPath => "paths/exe_data".toList
  | consoleLogging => "logging/console_enabled".toList
  | consoleLogLevel => "logging/console_level".toList
  | consoleUseColors => "logging/console_use_colors".toList
  | fileLogging => "logging/file_enabled".toList
  | version => "app/version".toList
  | archivePath | logFilePath | logFileAbsolutePath | settingsFile => []

/-- The properties that are kept under keys. -/
def kept : List Property := [
  arenaPath, archiveName, exeDataPath, consoleLogging, consoleLogLevel, consoleUseColors,
  fileLogging, version]

/-- The properties that are kept from whose values that of a property is made. -/
def sources : Property → List Property
  | exeDataPath => [exeDataPath, arenaPath]
  | archivePath => [arenaPath, archiveName]
  | logFilePath | logFileAbsolutePath | settingsFile => []
  | property => [property]

variable {p q : Property}

theorem key_inj (hp : p ∈ kept) (hq : q ∈ kept) : p.key = q.key ↔ p = q := by
  have hkeys : ∀ p ∈ kept, ∀ q ∈ kept, p.key = q.key → p = q := by decide
  exact ⟨hkeys p hp q hq, congrArg key⟩

theorem mem_kept_of_mem_sources (h : q ∈ p.sources) : q ∈ kept := by
  have hkept : ∀ q ∈ p.sources, q ∈ kept := by
    cases p <;> decide
  exact hkept q h

theorem eq_version_of_mem_sources (h : version ∈ p.sources) : p = version := by
  revert h
  cases p <;> decide

end Property

namespace Settings

variable {s t : Settings} {store next : Store} {tree : FileTree} {p q : Property}
  {name other : Text}

/-- Profiles without slashes have keys of their own. -/
theorem key_eq_iff (hs : slash ∉ s.profile) (ht : slash ∉ t.profile) :
    s.key name = t.key other ↔ s.profile = t.profile ∧ name = other := by
  rw [key, key]
  constructor
  · intro h
    -- The profile is what stands in front of the first slash.
    have hpieces : Path.splitFrom [] (s.profile ++ slash :: name) =
        Path.splitFrom [] (t.profile ++ slash :: other) := congrArg _ h
    rw [Path.splitFrom_append_slash hs, Path.splitFrom_append_slash ht] at hpieces
    have hprofile : s.profile = t.profile := (List.cons.inj hpieces).1
    rw [hprofile] at h
    exact ⟨hprofile, (List.cons.inj (List.append_cancel_left h)).2⟩
  · rintro ⟨hprofile, rfl⟩
    rw [hprofile]

theorem value?_setValue (hs : slash ∉ s.profile) (ht : slash ∉ t.profile) (store : Store)
    (name other : Text) (value : Value) : s.value? (t.setValue store name value) other =
      if t.profile = s.profile ∧ name = other then some value else s.value? store other := by
  have hkey : s.key other = t.key name ↔ t.profile = s.profile ∧ name = other := by
    rw [eq_comm, key_eq_iff ht hs]
  rw [value?, setValue, Store.get?_set]
  simp only [hkey]
  rfl

/-! ## What a property depends on -/

theorem text_congr {name : String} (h : s.value? next name.toList = s.value? store name.toList)
    (default : Text) : s.text next name default = s.text store name default := by
  rw [text, text, h]

theorem flag_congr {name : String} (h : s.value? next name.toList = s.value? store name.toList)
    (default : Bool) : s.flag next name default = s.flag store name default := by
  rw [flag, flag, h]

theorem text_of_none {name : String} (h : s.value? store name.toList = none) (default : Text) :
    s.text store name default = default := by
  rw [text, h]

theorem text_of_some {name : String} {t : Text} (h : s.value? store name.toList = some (.text t))
    (default : Text) : s.text store name default = t := by
  rw [text, h]
  rfl

theorem path?_congr {name : String} (h : s.value? next name.toList = s.value? store name.toList) :
    s.path? next name = s.path? store name := by
  rw [path?, path?, text_congr h]

theorem archiveName_congr
    (h : s.value? next Property.archiveName.key = s.value? store Property.archiveName.key) :
    s.archiveName next = s.archiveName store := by
  rw [archiveName, archiveName, text_congr h]

/-- A property has the same value wherever the values that it is made from are the same. -/
theorem get_congr (h : ∀ q ∈ p.sources, s.value? next q.key = s.value? store q.key) :
    s.get tree next p = s.get tree store p := by
  cases p with
  | arenaPath => exact congrArg pathValue (path?_congr (h .arenaPath (by decide)))
  | archiveName => exact congrArg Value.text (archiveName_congr (h .archiveName (by decide)))
  | exeDataPath =>
    have hset : s.path? next "paths/exe_data" = s.path? store "paths/exe_data" :=
      path?_congr (h .exeDataPath (by decide))
    have harena : s.arenaPath next = s.arenaPath store := path?_congr (h .arenaPath (by decide))
    rw [get, get, exeDataPath, exeDataPath, hset, harena]
  | archivePath =>
    have harena : s.arenaPath next = s.arenaPath store := path?_congr (h .arenaPath (by decide))
    have hname : s.archiveName next = s.archiveName store :=
      archiveName_congr (h .archiveName (by decide))
    rw [get, get, archivePath, archivePath, harena, hname]
  | consoleLogging => exact congrArg Value.bool (flag_congr (h .consoleLogging (by decide)) _)
  | consoleLogLevel => exact congrArg Value.text (text_congr (h .consoleLogLevel (by decide)) _)
  | consoleUseColors => exact congrArg Value.bool (flag_congr (h .consoleUseColors (by decide)) _)
  | fileLogging => exact congrArg Value.bool (flag_congr (h .fileLogging (by decide)) _)
  | version => exact congrArg Value.text (text_congr (h .version (by decide)) _)
  | logFilePath => rfl
  | logFileAbsolutePath => rfl
  | settingsFile => rfl

/-! ## Assignments -/

/-- A value given to a property, of the kind that the property has. The properties that are paths
take a path or none. A path is given by a text that spells it, and the empty text spells the path
`.`, which is one like any other: none alone takes the value away. -/
inductive Assignment where
  /-- The game directory, by a text that spells its path, or none. -/
  | arenaPath (spelling : Option Text)
  /-- The name of the container; an empty one is none. -/
  | archiveName (name : Text)
  /-- The file of the executable's data, by a text that spells its path, or none. -/
  | exeDataPath (spelling : Option Text)
  /-- Log to the console. -/
  | consoleLogging (on : Bool)
  /-- A word for the least level that the console shows. -/
  | consoleLogLevel (word : Text)
  /-- Color the level on the console. -/
  | consoleUseColors (on : Bool)
  /-- Log to a file. -/
  | fileLogging (on : Bool)
  deriving DecidableEq, Repr

namespace Assignment

/-- The property. -/
def property : Assignment → Property
  | arenaPath _ => .arenaPath
  | archiveName _ => .archiveName
  | exeDataPath _ => .exeDataPath
  | consoleLogging _ => .consoleLogging
  | consoleLogLevel _ => .consoleLogLevel
  | consoleUseColors _ => .consoleUseColors
  | fileLogging _ => .fileLogging

/-- The value as it is given. -/
def value : Assignment → Value
  | arenaPath spelling | exeDataPath spelling => (spelling.map Value.text).getD .null
  | archiveName name => .text name
  | consoleLogLevel word => .text word
  | consoleLogging on | consoleUseColors on | fileLogging on => .bool on

/-- The game directory that is given, if one is. -/
def arenaPath? : Assignment → Option (Option Path)
  | arenaPath spelling => some (spelling.map Path.ofText)
  | _ => none

/-- The name of the container that is given. -/
def archiveName? : Assignment → Option Text
  | archiveName name => some name
  | _ => none

/-- The file of the executable's data that is given, if one is. -/
def exeDataPath? : Assignment → Option (Option Path)
  | exeDataPath spelling => some (spelling.map Path.ofText)
  | _ => none

/-- The capitals of the word for the level, if they are the name of one that can be set. -/
def consoleLogLevel? : Assignment → Option Text
  | consoleLogLevel word => if isLevel word then some word.upper else none
  | _ => none

/-- Whether to log to the console. -/
def consoleLogging? : Assignment → Option Bool
  | consoleLogging on => some on
  | _ => none

/-- Whether to color the level on the console. -/
def consoleUseColors? : Assignment → Option Bool
  | consoleUseColors on => some on
  | _ => none

/-- Whether to log to a file. -/
def fileLogging? : Assignment → Option Bool
  | fileLogging on => some on
  | _ => none

/-- What is kept of a path. -/
def pathKept (path : Option Path) : Value := .text ((path.map Path.text).getD [])

/-- What is kept of the name of the container. -/
def nameKept (name : Text) : Value := .text (if name = [] then defaultArchiveName else name)

/-- The value that is kept under the key of a property, if the assignment leaves one there. -/
def keptFor (a : Assignment) : Property → Option Value
  | .arenaPath => a.arenaPath?.map pathKept
  | .archiveName => a.archiveName?.map nameKept
  | .exeDataPath => a.exeDataPath?.map pathKept
  | .consoleLogging => a.consoleLogging?.map Value.bool
  | .consoleLogLevel => a.consoleLogLevel?.map Value.text
  | .consoleUseColors => a.consoleUseColors?.map Value.bool
  | .fileLogging => a.fileLogging?.map Value.bool
  | _ => none

theorem property_mem_kept (a : Assignment) : a.property ∈ Property.kept := by
  cases a <;> simp [property, Property.kept]

theorem keptFor_of_ne (a : Assignment) (h : a.property ≠ q) : a.keptFor q = none := by
  cases a <;> cases q <;> first | rfl | exact absurd rfl h

end Assignment

/-- The store after an assignment. -/
def kept (s : Settings) (store : Store) (a : Assignment) : Store :=
  match a.keptFor a.property with
  | some value => s.setValue store a.property.key value
  | none => store

theorem assign_eq (s : Settings) (store : Store) (a : Assignment) :
    s.assign store a.property a.value = .ok (s.kept store a) := by
  cases a with
  | arenaPath spelling => cases spelling <;> rfl
  | exeDataPath spelling => cases spelling <;> rfl
  | archiveName name =>
    cases name with
    | nil => rfl
    | cons c name => rfl
  | consoleLogging on => rfl
  | consoleUseColors on => rfl
  | fileLogging on => rfl
  | consoleLogLevel word =>
    by_cases h : isLevel word
    · simp [assign, Assignment.property, Assignment.value, kept, Assignment.keptFor,
        Assignment.consoleLogLevel?, h]
      rfl
    · simp [assign, Assignment.property, Assignment.value, kept, Assignment.keptFor,
        Assignment.consoleLogLevel?, h]

/-- What an assignment keeps under a key. Only the key of its own property is concerned, and only in
its own profile. -/
theorem value?_kept (hs : slash ∉ s.profile) (ht : slash ∉ t.profile) (hq : q ∈ Property.kept)
    (store : Store) (a : Assignment) : s.value? (t.kept store a) q.key =
      if t.profile = s.profile then (a.keptFor q).or (s.value? store q.key)
      else s.value? store q.key := by
  have hkey := Property.key_inj a.property_mem_kept hq
  rw [kept]
  by_cases hproperty : a.property = q
  · rw [hproperty]
    cases hvalue : a.keptFor q with
    | none => simp
    | some value => simp [value?_setValue hs ht]
  · rw [a.keptFor_of_ne hproperty]
    cases a.keptFor a.property with
    | none => simp
    | some value => simp [value?_setValue hs ht, hkey, hproperty]

/-- Setting up any settings leaves the properties of all settings as they are. -/
theorem get_setUp (hs : slash ∉ s.profile) (ht : slash ∉ t.profile) (tree : FileTree)
    (store : Store) (p : Property) : s.get tree (t.setUp store) p = s.get tree store p := by
  rw [setUp]
  split
  · rfl
  · rename_i habsent
    have hvalue (q : Property) :=
      value?_setValue hs ht store Property.version.key q.key (.text currentVersion)
    by_cases hstamped : t.profile = s.profile ∧ p = .version
    · -- The version that is stamped is the one that an absent stamp stands for.
      obtain ⟨hprofile, rfl⟩ := hstamped
      have hkey : s.key Property.version.key = t.key Property.version.key :=
        (key_eq_iff hs ht).mpr ⟨hprofile.symm, rfl⟩
      have hbefore : s.version store = currentVersion :=
        text_of_none ((congrArg store.get? hkey).trans habsent) _
      have hafter : s.version (t.setValue store Property.version.key (.text currentVersion)) =
          currentVersion := text_of_some ((hvalue .version).trans (if_pos ⟨hprofile, rfl⟩)) _
      exact congrArg Value.text (hafter.trans hbefore.symm)
    · refine get_congr fun q hq => ?_
      have hkept := Property.mem_kept_of_mem_sources hq
      refine (hvalue q).trans (if_neg fun h => hstamped ⟨h.1, ?_⟩)
      rw [Property.key_inj (by decide) hkept] at h
      exact Property.eq_version_of_mem_sources (h.2 ▸ hq)

/-! ## Runs -/

/-- What is done to the settings of a store. -/
inductive Step where
  /-- Settings are set up. -/
  | setUp (s : Settings)
  /-- A property is given a value through settings. -/
  | assign (s : Settings) (a : Assignment)

namespace Step

/-- The settings that the step is taken with. -/
def settings : Step → Settings
  | setUp s | assign s _ => s

/-- The store after the step. -/
def apply (store : Store) : Step → Except Fault Store
  | setUp s => .ok (s.setUp store)
  | assign s a => s.assign store a.property a.value

/-- The assignment that the step makes to a profile, if it makes one. -/
def assignmentTo? (profile : Text) : Step → Option Assignment
  | setUp _ => none
  | assign s a => if s.profile = profile then some a else none

end Step

/-- The store after several steps. -/
def run (store : Store) (steps : List Step) : Except Fault Store := steps.foldlM Step.apply store

/-- The assignments to a profile, in their order. -/
def assignmentsTo (profile : Text) (steps : List Step) : List Assignment :=
  steps.filterMap (Step.assignmentTo? profile)

/-- What the last of some assignments gives, of those that give something. -/
def lastOf {α : Type} (give : Assignment → Option α) (given : List Assignment) : Option α :=
  (given.filterMap give).getLast?

section

variable {α β : Type} {give : Assignment → Option α}

theorem lastOf_concat (given : List Assignment) (a : Assignment) :
    lastOf give (given ++ [a]) = (give a).or (lastOf give given) := by
  cases h : give a with
  | none => simp [lastOf, h]
  | some value => simp [lastOf, h]

theorem lastOf_map (f : α → β) (given : List Assignment) :
    lastOf (fun a => (give a).map f) given = (lastOf give given).map f := by
  rw [lastOf, lastOf, ← List.getLast?_map, List.map_filterMap]

end

theorem assignmentsTo_concat (profile : Text) (steps : List Step) (step : Step) :
    assignmentsTo profile (steps ++ [step]) =
      assignmentsTo profile steps ++ (step.assignmentTo? profile).toList := by
  rw [assignmentsTo, List.filterMap_append, assignmentsTo]
  cases h : step.assignmentTo? profile with
  | none => simp [h]
  | some a => simp [h]

/-- What is kept for each property is what the last of the assignments has left there. -/
structure Keeps (s : Settings) (store : Store) (given : List Assignment) : Prop where
  value : ∀ q ∈ Property.kept, q ≠ .version →
    s.value? store q.key = lastOf (·.keptFor q) given
  /-- The version, which nothing is assigned to, is the present one. -/
  version : s.version store = currentVersion

section

variable {given : List Assignment}

theorem Keeps.setUp (h : s.Keeps store given) (hs : slash ∉ s.profile) (ht : slash ∉ t.profile) :
    s.Keeps (t.setUp store) given := by
  constructor
  · intro q hq hversion
    rw [Settings.setUp]
    split
    · exact h.value q hq hversion
    · have hne : Property.version.key ≠ q.key := fun hkey =>
        hversion ((Property.key_inj (by decide) hq).mp hkey).symm
      rw [← h.value q hq hversion]
      exact (value?_setValue hs ht _ _ _ _).trans (if_neg fun hsame => hne hsame.2)
  · exact (Value.text.inj (get_setUp hs ht (.empty []) store .version)).trans h.version

theorem Keeps.kept (h : s.Keeps store given) (hs : slash ∉ s.profile) (ht : slash ∉ t.profile)
    (a : Assignment) :
    s.Keeps (t.kept store a) (given ++ if t.profile = s.profile then [a] else []) := by
  constructor
  · intro q hq hversion
    rw [value?_kept hs ht hq, h.value q hq hversion]
    split
    · rw [lastOf_concat]
    · rw [List.append_nil]
  · have hversion := value?_kept hs ht (show Property.version ∈ Property.kept by decide) store a
    have hnone : a.keptFor .version = none := rfl
    rw [hnone, Option.none_or, ite_self] at hversion
    exact (text_congr hversion _).trans h.version

/-- A step is never refused, and only an assignment to the profile changes what is kept for it. -/
theorem Keeps.apply (h : s.Keeps store given) (hs : slash ∉ s.profile) (step : Step)
    (hstep : slash ∉ step.settings.profile) : ∃ next, step.apply store = .ok next ∧
      s.Keeps next (given ++ (step.assignmentTo? s.profile).toList) := by
  cases step with
  | setUp t =>
    refine ⟨_, rfl, ?_⟩
    rw [Step.assignmentTo?, Option.toList_none, List.append_nil]
    exact h.setUp hs hstep
  | assign t a =>
    have hkept := h.kept hs (show slash ∉ t.profile from hstep) a
    refine ⟨_, t.assign_eq store a, ?_⟩
    rw [Step.assignmentTo?]
    split
    · rwa [if_pos ‹_›] at hkept
    · rwa [if_neg ‹_›] at hkept

end

/-- A run from an empty store comes to an end, and its assignments are kept. -/
theorem exists_run (hs : slash ∉ s.profile) (steps : List Step)
    (hsteps : ∀ step ∈ steps, slash ∉ step.settings.profile) :
    ∃ store, run .empty steps = .ok store ∧ s.Keeps store (assignmentsTo s.profile steps) := by
  induction steps using List.reverseRecOn with
  | nil => exact ⟨.empty, rfl, fun _ _ _ => rfl, rfl⟩
  | append_singleton steps step ih =>
    obtain ⟨hfront, hstep⟩ := List.forall_mem_append.mp hsteps
    obtain ⟨store, hrun, hkept⟩ := ih hfront
    obtain ⟨next, hnext, hkept⟩ := hkept.apply hs step (by simpa using hstep)
    refine ⟨next, ?_, ?_⟩
    · rw [run, List.foldlM_append]
      exact bind_eq_ok.mpr ⟨store, hrun, bind_eq_ok.mpr ⟨next, hnext, rfl⟩⟩
    · rwa [assignmentsTo_concat]

/-! ## What is read -/

section

variable {given : List Assignment} {name : String}

theorem exists_of_lastOf {α : Type} {give : Assignment → Option α} {value : α}
    (h : lastOf give given = some value) : ∃ a ∈ given, give a = some value :=
  List.mem_filterMap.mp (List.mem_of_getLast? h)

theorem text_of_kept {last : Option Text}
    (h : s.value? store name.toList = last.map Value.text) (default : Text) :
    s.text store name default = last.getD default := by
  cases last with
  | none => exact text_of_none h default
  | some word => exact text_of_some h default

theorem flag_of_kept {last : Option Bool}
    (h : s.value? store name.toList = last.map Value.bool) (default : Bool) :
    s.flag store name default = last.getD default := by
  rw [flag, h]
  cases last <;> rfl

/-- A path is kept as its text and read back from it; no path is kept as the empty text. -/
theorem path?_of_kept {last : Option (Option Path)}
    (hlast : ∀ path, last = some (some path) → path.Spelled)
    (h : s.value? store name.toList = last.map Assignment.pathKept) :
    s.path? store name = last.join := by
  rw [path?]
  cases last with
  | none =>
    rw [text_of_none h]
    rfl
  | some given => cases given with
    | none =>
      rw [text_of_some h]
      rfl
    | some path =>
      have hspelled := hlast path rfl
      have hne : path.text.isEmpty = false := by simpa using Path.text_ne_nil path hspelled
      have htext : s.text store name [] = path.text := text_of_some h []
      simp [htext, hne, Path.ofText_text hspelled]

/-- What settings read, as it follows from the assignments to their profile. -/
structure Reads (s : Settings) (store : Store) (given : List Assignment) : Prop where
  /-- The directory given last, if one was given. -/
  arenaPath : s.arenaPath store = (lastOf Assignment.arenaPath? given).join
  /-- The name given last, if it is one. -/
  archiveName : s.archiveName store =
    ((lastOf Assignment.archiveName? given).filter (· ≠ [])).getD defaultArchiveName
  /-- The file given last, if one was given, and else one in the present game directory. -/
  exeDataPath : s.exeDataPath store = (lastOf Assignment.exeDataPath? given).join.or
    ((lastOf Assignment.arenaPath? given).join.map (·.child defaultExeDataName))
  /-- The container, under its name in the game directory. -/
  archivePath : s.archivePath store = (lastOf Assignment.arenaPath? given).join.map (·.child
    (((lastOf Assignment.archiveName? given).filter (· ≠ [])).getD defaultArchiveName))
  /-- The capitals of the last word for a level. -/
  consoleLogLevel : s.consoleLogLevel store =
    (lastOf Assignment.consoleLogLevel? given).getD "INFO".toList
  consoleLogging : s.consoleLogging store = (lastOf Assignment.consoleLogging? given).getD true
  consoleUseColors : s.consoleUseColors store =
    (lastOf Assignment.consoleUseColors? given).getD true
  fileLogging : s.fileLogging store = (lastOf Assignment.fileLogging? given).getD false
  /-- No assignment changes the version. -/
  version : s.version store = currentVersion

theorem spelled_of_arenaPath {path : Path}
    (h : lastOf Assignment.arenaPath? given = some (some path)) : path.Spelled := by
  obtain ⟨a, -, ha⟩ := exists_of_lastOf h
  cases a with
  | arenaPath spelling =>
    obtain ⟨t, -, rfl⟩ := Option.map_eq_some_iff.mp (Option.some.inj ha)
    exact Path.spelled_ofText t
  | _ => cases ha

theorem spelled_of_exeDataPath {path : Path}
    (h : lastOf Assignment.exeDataPath? given = some (some path)) : path.Spelled := by
  obtain ⟨a, -, ha⟩ := exists_of_lastOf h
  cases a with
  | exeDataPath spelling =>
    obtain ⟨t, -, rfl⟩ := Option.map_eq_some_iff.mp (Option.some.inj ha)
    exact Path.spelled_ofText t
  | _ => cases ha

theorem Keeps.value? {α : Type} {give : Assignment → Option α} {f : α → Value}
    (h : s.Keeps store given) (hq : q ∈ Property.kept) (hversion : q ≠ .version)
    (hgive : ∀ a, Assignment.keptFor a q = (give a).map f) :
    s.value? store q.key = (lastOf give given).map f := by
  rw [h.value q hq hversion, ← lastOf_map]
  exact congrArg (lastOf · given) (funext hgive)

theorem Keeps.exeDataSet (h : s.Keeps store given) :
    s.path? store "paths/exe_data" = (lastOf Assignment.exeDataPath? given).join :=
  path?_of_kept (fun _ => spelled_of_exeDataPath)
    (h.value? (q := .exeDataPath) (by decide) (by decide) fun _ => rfl)

/-- From what is kept for each property follows what is read. -/
theorem Keeps.reads (h : s.Keeps store given) : s.Reads store given := by
  have harena : s.arenaPath store = (lastOf Assignment.arenaPath? given).join :=
    path?_of_kept (fun _ => spelled_of_arenaPath)
      (h.value? (q := .arenaPath) (by decide) (by decide) fun _ => rfl)
  have hname : s.archiveName store =
      ((lastOf Assignment.archiveName? given).filter (· ≠ [])).getD defaultArchiveName := by
    have hkept := h.value? (q := .archiveName) (by decide) (by decide) fun _ => rfl
    rw [archiveName]
    cases hlast : lastOf Assignment.archiveName? given with
    | none =>
      rw [hlast] at hkept
      rw [text_of_none hkept]
      rfl
    | some name =>
      rw [hlast] at hkept
      rw [text_of_some hkept]
      cases name <;> rfl
  refine ⟨harena, hname, ?_, ?_, ?_, ?_, ?_, ?_, h.version⟩
  · rw [exeDataPath, h.exeDataSet, harena]
    cases (lastOf Assignment.exeDataPath? given).join <;> rfl
  · rw [archivePath, harena, hname]
  · exact text_of_kept (h.value? (q := .consoleLogLevel) (by decide) (by decide) fun _ => rfl) _
  · exact flag_of_kept (h.value? (q := .consoleLogging) (by decide) (by decide) fun _ => rfl) _
  · exact flag_of_kept (h.value? (q := .consoleUseColors) (by decide) (by decide) fun _ => rfl) _
  · exact flag_of_kept (h.value? (q := .fileLogging) (by decide) (by decide) fun _ => rfl) _

/-- The assignment bears on a property: it is one to this property, or to one that it follows. The
file of the executable's data follows the game directory only as long as it is not set. -/
def Assignment.BearsOn (a : Assignment) (given : List Assignment) (p : Property) : Prop :=
  a.property = p ∨
  (p = .exeDataPath ∧ a.property = .arenaPath ∧ (lastOf exeDataPath? given).join = none) ∨
  (p = .archivePath ∧ (a.property = .arenaPath ∨ a.property = .archiveName))

theorem Assignment.bearsOn_of_mem_sources {a : Assignment} (given : List Assignment)
    (h : a.property ∈ p.sources) : a.BearsOn given p ∨
      (p = .exeDataPath ∧ a.property = .arenaPath ∧
        ∃ path, (lastOf exeDataPath? given).join = some path) := by
  have hcases : ∀ q ∈ p.sources, q = p ∨ (p = .exeDataPath ∧ q = .arenaPath) ∨
      (p = .archivePath ∧ (q = .arenaPath ∨ q = .archiveName)) := by
    cases p <;> decide
  rcases hcases _ h with heq | ⟨hp, ha⟩ | hfollows
  · exact Or.inl (Or.inl heq)
  · cases hset : (lastOf exeDataPath? given).join with
    | none => exact Or.inl (Or.inr (Or.inl ⟨hp, ha, hset⟩))
    | some path => exact Or.inr ⟨hp, ha, path, rfl⟩
  · exact Or.inl (Or.inr (Or.inr hfollows))

/-- An assignment to another profile, or one that does not bear on a property, leaves it as it
is. -/
theorem get_kept (hs : slash ∉ s.profile) (ht : slash ∉ t.profile) {a : Assignment}
    (hset : s.path? store "paths/exe_data" = (lastOf Assignment.exeDataPath? given).join)
    (h : t.profile = s.profile → ¬ a.BearsOn given p) (tree : FileTree) :
    s.get tree (t.kept store a) p = s.get tree store p := by
  have hvalue (q : Property) (hq : q ∈ Property.kept)
      (hother : t.profile = s.profile → a.property ≠ q) :
      s.value? (t.kept store a) q.key = s.value? store q.key := by
    rw [value?_kept hs ht hq]
    split
    · rename_i hprofile
      rw [a.keptFor_of_ne (hother hprofile), Option.none_or]
    · rfl
  by_cases hsource : t.profile = s.profile ∧ a.property ∈ p.sources
  · obtain ⟨hprofile, hsource⟩ := hsource
    rcases Assignment.bearsOn_of_mem_sources given hsource with hbears | ⟨rfl, harena, path, hpath⟩
    · exact absurd hbears (h hprofile)
    · -- The file is set, so that it does not matter where the game is.
      have hsame : s.path? (t.kept store a) "paths/exe_data" = s.path? store "paths/exe_data" :=
        path?_congr (hvalue .exeDataPath (by decide) fun _ => by rw [harena]; decide)
      rw [hpath] at hset
      rw [get, get, exeDataPath, exeDataPath, hsame, hset]
  · refine get_congr fun q hq => hvalue q (Property.mem_kept_of_mem_sources hq) ?_
    rintro hprofile rfl
    exact hsource ⟨hprofile, hq⟩

/-- In a run of assignments in one store, which starts empty, no assignment fails, and in the end
the settings of a profile read what the assignments to this profile come to. One more step makes no
difference to a property of theirs, unless it is an assignment to this profile that bears on the
property. -/
theorem run_reads (s : Settings) (steps : List Step) (hs : slash ∉ s.profile)
    (hsteps : ∀ step ∈ steps, slash ∉ step.settings.profile) :
    ∃ store, run .empty steps = .ok store ∧ s.Reads store (assignmentsTo s.profile steps) ∧
      ∀ step : Step, slash ∉ step.settings.profile → ∃ next, step.apply store = .ok next ∧
        ∀ tree p, (∀ a ∈ step.assignmentTo? s.profile,
            ¬ a.BearsOn (assignmentsTo s.profile steps) p) →
          s.get tree next p = s.get tree store p := by
  obtain ⟨store, hrun, hkept⟩ := exists_run hs steps hsteps
  refine ⟨store, hrun, hkept.reads, ?_⟩
  intro step hstep
  cases step with
  | setUp t => exact ⟨_, rfl, fun tree p _ => get_setUp hs hstep tree store p⟩
  | assign t a =>
    refine ⟨_, t.assign_eq store a, fun tree p h => get_kept hs hstep hkept.exeDataSet ?_ tree⟩
    intro hprofile
    exact h a (if_pos hprofile)

/-- Two profiles in one store: a directory that is changed, a file that is unset again, an empty
name, and a word for no level. -/
theorem run_reads_of_two_profiles :
    let one : Settings := ⟨"one".toList, none⟩
    let two : Settings := ⟨"two".toList, none⟩
    let steps : List Step := [.setUp one, .assign one (.arenaPath (some "/games//arena/".toList)),
      .assign one (.exeDataPath (some "data.json".toList)), .setUp two,
      .assign one (.consoleLogLevel "debug".toList), .assign one (.archiveName "A.BSA".toList),
      .assign two (.archiveName "B.BSA".toList), .assign two (.arenaPath (some "other".toList)),
      .assign one (.consoleLogLevel "loud".toList), .assign one (.exeDataPath none),
      .assign one (.archiveName []), .setUp one, .assign one (.arenaPath (some "here".toList)),
      .assign one (.fileLogging true), .assign two (.consoleLogging false)]
    slash ∉ one.profile ∧ (∀ step ∈ steps, slash ∉ step.settings.profile) ∧
      ∃ store, run .empty steps = .ok store ∧
        one.arenaPath store = some (.ofText "here".toList) ∧
        one.archiveName store = defaultArchiveName ∧
        one.exeDataPath store = some (.ofText "here/exe_data.json".toList) ∧
        one.consoleLogLevel store = "DEBUG".toList ∧ one.consoleLogging store = true ∧
        one.fileLogging store = true ∧
        ∃ next, Step.apply store (.assign two (.arenaPath none)) = .ok next ∧
          ∀ tree p, one.get tree next p = one.get tree store p := by
  intro one two steps
  have hone : slash ∉ one.profile := by decide
  have hsteps : ∀ step ∈ steps, slash ∉ step.settings.profile := by decide
  obtain ⟨store, hrun, hreads, hnext⟩ := run_reads one steps hone hsteps
  obtain ⟨next, happly, hsame⟩ := hnext (.assign two (.arenaPath none)) (by decide)
  refine ⟨hone, hsteps, store, hrun, hreads.arenaPath.trans rfl, hreads.archiveName.trans rfl,
    hreads.exeDataPath.trans rfl, hreads.consoleLogLevel.trans rfl,
    hreads.consoleLogging.trans rfl, hreads.fileLogging.trans rfl, next, happly, ?_⟩
  intro tree p
  exact hsame tree p fun _ hnone => nomatch hnone

end

end Settings

end ArenaData
