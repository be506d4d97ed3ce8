import ArenaData.CharacterClass.SideData
import ArenaData.Proofs.ShownValues

/-!
# Columns of the class tables

A document is read column by column, and each column item by item, so a reading ends with the first
thing that is wrong. What is in a column that can be read is said by `HasTexts`, `HasInts` and
`HasLists`, and tables describe a document iff all eleven columns have what they say. Almost
everything else that a document may hold is malformed. The exception are values that cannot be
shown, because they are nested too deeply or hold an integer of too many digits: reading stops at
one wherever a text or an integer is to stand, as `Stuck` says of a column, unless it has found
something malformed before.
-/

namespace ArenaData

/-- What may be wrong with the executable's document. -/
def Fault.OfDocument (fault : Fault) : Prop := fault.kind = .malformedRecord ∨ fault.Unshown

namespace SideData

open Fault (OfDocument Unshown)
open Json (Value)

variable {levels : Nat} {tables value : Value} {items : List Value} {column : String}
  {fault : Fault}

/-! ## Items -/

theorem asInt_eq_ok_iff {n : Int} : asInt levels column value = .ok n ↔ value = .int n := by
  unfold asInt
  split
  · simp
  · rename_i hint
    refine iff_of_false (fun h => ?_) (hint n)
    obtain ⟨_, -, h⟩ := bind_eq_ok.mp h
    cases h

/-- A value that is no integer is malformed if it can be shown. -/
theorem asInt_of_not_int (h : ∀ n, value ≠ .int n) :
    asInt levels column value = (do throw (.notInteger (← value.shownWithin levels) column)) := by
  unfold asInt
  split
  · rename_i n
    exact absurd rfl (h n)
  · rfl

theorem failsWith_asInt_iff : FailsWith Unshown (asInt levels column value) ↔
    (∀ n, value ≠ .int n) ∧ ¬ value.CanBeShown levels := by
  by_cases hint : ∃ n, value = .int n
  · obtain ⟨n, rfl⟩ := hint
    exact iff_of_false (not_failsWith_ok n) fun h => h.1 n rfl
  · rw [asInt_of_not_int (not_exists.mp hint), and_iff_right (not_exists.mp hint),
      failsWith_bind_iff, (Value.shownWithin_faults value levels).failsWith_iff]
    have hthrow (shown : Text) : ¬ FailsWith Unshown
        (throw (.notInteger shown column) : Except Fault Int) :=
      fun h => (failsWith_error.mp h).kind_ne rfl
    simp [hthrow, Value.shownWithin_eq_ok_iff]

theorem asInt_faults (levels : Nat) (column : String) (value : Value) :
    FailsOnly OfDocument (asInt levels column value) := by
  unfold asInt
  split
  · exact failsOnly_ok _
  · refine ((Value.shownWithin_faults _ levels).imp fun _ h => Or.inr h).bind fun shown _ => ?_
    exact failsOnly_error.mpr (Or.inl rfl)

theorem asList_eq_ok_iff {value? : Option Value} :
    asList value? column = .ok items ↔ value? = some (.list items) := by
  unfold asList
  split
  · simp
  · rename_i hlist
    exact iff_of_false error_ne_ok (hlist items)

theorem eq_notAList_of_asList {value? : Option Value} (h : asList value? column = .error fault) :
    fault = .notAList column := by
  unfold asList at h
  split at h
  · cases h
  · exact (Except.error.inj h).symm

theorem mapM_asInt_eq_ok_iff {ints : List Int} :
    items.mapM (asInt levels column) = .ok ints ↔ items = ints.map .int :=
  mapM_eq_ok_of_inverse fun _ _ => asInt_eq_ok_iff

theorem failsWith_mapM_asInt_iff : FailsWith Unshown (items.mapM (asInt levels column)) ↔
    ∃ (ints : List Int) (v : Value) (rest : List Value),
      items = ints.map .int ++ v :: rest ∧ (∀ n, v ≠ .int n) ∧ ¬ v.CanBeShown levels := by
  rw [failsWith_mapM_iff_of_inverse fun _ _ => asInt_eq_ok_iff]
  simp only [failsWith_asInt_iff]

/-! ## Columns -/

theorem perClass_eq_ok_iff : perClass tables column = .ok items ↔
    tables.get? column.toList = some (.list items) ∧ items.length = classCount := by
  rw [perClass, bind_eq_ok]
  simp only [asList_eq_ok_iff]
  constructor
  · rintro ⟨all, hget, h⟩
    by_cases hcount : all.length = classCount
    · rw [if_neg (not_not_intro hcount)] at h
      obtain rfl : all = items := Except.ok.inj h
      exact ⟨hget, hcount⟩
    · rw [if_pos hcount] at h
      cases h
  · rintro ⟨hget, hcount⟩
    refine ⟨items, hget, ?_⟩
    rw [if_neg (not_not_intro hcount)]
    rfl

theorem kind_of_perClass (h : perClass tables column = .error fault) :
    fault.kind = .malformedRecord := by
  rcases bind_eq_error.mp h with h | ⟨all, -, h⟩
  · rw [eq_notAList_of_asList h]
    rfl
  · by_cases hcount : all.length = classCount
    · rw [if_neg (not_not_intro hcount)] at h
      cases h
    · rw [if_pos hcount] at h
      rw [← Except.error.inj h]
      rfl

/-- The column has a value for each class, each value has a text, and these are the texts. -/
def HasTexts (levels : Nat) (tables : Value) (column : String) (texts : List Text) : Prop :=
  texts.length = classCount ∧ ∃ items, tables.get? column.toList = some (.list items) ∧
    List.Forall₂ (fun v t => v.HasText levels ∧ v.plain = t) items texts

/-- The column has an integer for each class, and nothing but integers. -/
def HasInts (tables : Value) (column : String) (ints : List Int) : Prop :=
  ints.length = classCount ∧ tables.get? column.toList = some (intsValue ints)

/-- The column has lists of integers, and nothing else. -/
def HasLists (tables : Value) (column : String) (lists : List (List Int)) : Prop :=
  tables.get? column.toList = some (.list (lists.map intsValue))

theorem textColumn_eq_ok_iff {texts : List Text} :
    textColumn levels tables column = .ok texts ↔ HasTexts levels tables column texts := by
  rw [textColumn, bind_eq_ok]
  simp only [perClass_eq_ok_iff, mapM_eq_ok, Value.plainWithin_eq_ok_iff]
  constructor
  · rintro ⟨items, ⟨hget, hlength⟩, hitems⟩
    exact ⟨hitems.length_eq ▸ hlength, items, hget, hitems⟩
  · rintro ⟨hlength, items, hget, hitems⟩
    exact ⟨items, ⟨hget, hitems.length_eq ▸ hlength⟩, hitems⟩

theorem intColumn_eq_ok_iff {ints : List Int} :
    intColumn levels tables column = .ok ints ↔ HasInts tables column ints := by
  rw [intColumn, bind_eq_ok]
  simp only [perClass_eq_ok_iff, mapM_asInt_eq_ok_iff]
  constructor
  · rintro ⟨items, ⟨hget, hlength⟩, rfl⟩
    exact ⟨by rwa [List.length_map] at hlength, hget⟩
  · rintro ⟨hlength, hget⟩
    exact ⟨ints.map .int, ⟨hget, by rwa [List.length_map]⟩, rfl⟩

/-- The integers of one list of ids. -/
def idList (levels : Nat) (column : String) (item : Value) : Except Fault (List Int) := do
  let ids ← asList (some item) column
  ids.mapM (asInt levels column)

theorem idList_eq_ok_iff {ids : List Int} :
    idList levels column value = .ok ids ↔ value = intsValue ids := by
  rw [idList, bind_eq_ok]
  simp only [asList_eq_ok_iff, mapM_asInt_eq_ok_iff, Option.some.injEq]
  constructor
  · rintro ⟨items, rfl, rfl⟩
    rfl
  · rintro rfl
    exact ⟨_, rfl, rfl⟩

theorem asList_faults (value? : Option Value) (column : String) :
    FailsOnly (·.kind = .malformedRecord) (asList value? column) := by
  intro fault h
  rw [eq_notAList_of_asList h]
  rfl

/-- Reading that only fails malformed never comes to a value that cannot be shown. -/
theorem not_failsWith_unshown {α : Type} {r : Except Fault α}
    (h : FailsOnly (·.kind = .malformedRecord) r) : ¬ FailsWith Unshown r :=
  fun ⟨fault, hfault, hunshown⟩ => hunshown.kind_ne (h fault hfault)

theorem failsWith_idList_iff : FailsWith Unshown (idList levels column value) ↔
    ∃ (ints : List Int) (v : Value) (rest : List Value),
      value = .list (ints.map .int ++ v :: rest) ∧ (∀ n, v ≠ .int n) ∧ ¬ v.CanBeShown levels := by
  rw [idList, failsWith_bind_iff, or_iff_right (not_failsWith_unshown (asList_faults _ _))]
  simp only [asList_eq_ok_iff, failsWith_mapM_asInt_iff, Option.some.injEq]
  constructor
  · rintro ⟨items, rfl, ints, v, rest, rfl, hstuck⟩
    exact ⟨ints, v, rest, rfl, hstuck⟩
  · rintro ⟨ints, v, rest, rfl, hstuck⟩
    exact ⟨_, rfl, ints, v, rest, rfl, hstuck⟩

theorem idLists_eq_ok_iff {lists : List (List Int)} :
    idLists levels tables column = .ok lists ↔ HasLists tables column lists := by
  have hmap (items : List Value) : items.mapM (idList levels column) = .ok lists ↔
      items = lists.map intsValue := mapM_eq_ok_of_inverse fun _ _ => idList_eq_ok_iff
  unfold idLists HasLists
  split
  · rename_i items hget
    rw [hget, Option.some.injEq, Value.list.injEq]
    exact hmap items
  · rename_i hlist
    exact iff_of_false error_ne_ok (hlist _)

/-! ## Documents -/

/-- The tables are those of the document: all columns have what they say. -/
structure Describes (levels : Nat) (tables : Value) (d : SideData) : Prop where
  classNames : HasTexts levels tables "class_names" d.classNames
  preferredAttributes : HasTexts levels tables "preferred_attributes" d.preferredAttributes
  allowedArmors : HasInts tables "allowed_armors" d.allowedArmors
  allowedShieldsIndices : HasInts tables "allowed_shields_indices" d.allowedShieldsIndices
  allowedWeaponsIndices : HasInts tables "allowed_weapons_indices" d.allowedWeaponsIndices
  classNumbersToIds : HasInts tables "class_numbers_to_ids" d.classNumbersToIds
  initialExperienceCaps : HasInts tables "initial_experience_caps" d.initialExperienceCaps
  healthDice : HasInts tables "health_dice" d.healthDice
  lockpickingDivisors : HasInts tables "lockpicking_divisors" d.lockpickingDivisors
  allowedShieldsLists : HasLists tables "allowed_shields_lists" d.allowedShieldsLists
  allowedWeaponsLists : HasLists tables "allowed_weapons_lists" d.allowedWeaponsLists

theorem ofValue_eq_ok_iff {document : Value} {d : SideData} : ofValue levels document = .ok d ↔
    ∃ fields, document.get? rootKey = some (.object fields) ∧
      Describes levels (.object fields) d := by
  unfold ofValue
  split
  · rename_i fields hget
    constructor
    · intro h
      obtain ⟨classNames, h1, h⟩ := bind_eq_ok.mp h
      obtain ⟨preferredAttributes, h2, h⟩ := bind_eq_ok.mp h
      obtain ⟨allowedArmors, h3, h⟩ := bind_eq_ok.mp h
      obtain ⟨allowedShieldsIndices, h4, h⟩ := bind_eq_ok.mp h
      obtain ⟨allowedWeaponsIndices, h5, h⟩ := bind_eq_ok.mp h
      obtain ⟨classNumbersToIds, h6, h⟩ := bind_eq_ok.mp h
      obtain ⟨initialExperienceCaps, h7, h⟩ := bind_eq_ok.mp h
      obtain ⟨healthDice, h8, h⟩ := bind_eq_ok.mp h
      obtain ⟨lockpickingDivisors, h9, h⟩ := bind_eq_ok.mp h
      obtain ⟨allowedShieldsLists, h10, h⟩ := bind_eq_ok.mp h
      obtain ⟨allowedWeaponsLists, h11, h⟩ := bind_eq_ok.mp h
      obtain rfl := Except.ok.inj h
      exact ⟨fields, hget, textColumn_eq_ok_iff.mp h1, textColumn_eq_ok_iff.mp h2,
        intColumn_eq_ok_iff.mp h3, intColumn_eq_ok_iff.mp h4, intColumn_eq_ok_iff.mp h5,
        intColumn_eq_ok_iff.mp h6, intColumn_eq_ok_iff.mp h7, intColumn_eq_ok_iff.mp h8,
        intColumn_eq_ok_iff.mp h9, idLists_eq_ok_iff.mp h10, idLists_eq_ok_iff.mp h11⟩
    · rintro ⟨fields', hget', h⟩
      obtain rfl : fields = fields' := by simpa [hget] using hget'
      refine bind_eq_ok.mpr ⟨_, textColumn_eq_ok_iff.mpr h.classNames, ?_⟩
      refine bind_eq_ok.mpr ⟨_, textColumn_eq_ok_iff.mpr h.preferredAttributes, ?_⟩
      refine bind_eq_ok.mpr ⟨_, intColumn_eq_ok_iff.mpr h.allowedArmors, ?_⟩
      refine bind_eq_ok.mpr ⟨_, intColumn_eq_ok_iff.mpr h.allowedShieldsIndices, ?_⟩
      refine bind_eq_ok.mpr ⟨_, intColumn_eq_ok_iff.mpr h.allowedWeaponsIndices, ?_⟩
      refine bind_eq_ok.mpr ⟨_, intColumn_eq_ok_iff.mpr h.classNumbersToIds, ?_⟩
      refine bind_eq_ok.mpr ⟨_, intColumn_eq_ok_iff.mpr h.initialExperienceCaps, ?_⟩
      refine bind_eq_ok.mpr ⟨_, intColumn_eq_ok_iff.mpr h.healthDice, ?_⟩
      refine bind_eq_ok.mpr ⟨_, intColumn_eq_ok_iff.mpr h.lockpickingDivisors, ?_⟩
      refine bind_eq_ok.mpr ⟨_, idLists_eq_ok_iff.mpr h.allowedShieldsLists, ?_⟩
      exact bind_eq_ok.mpr ⟨_, idLists_eq_ok_iff.mpr h.allowedWeaponsLists, rfl⟩
  · rename_i hno
    refine iff_of_false error_ne_ok ?_
    rintro ⟨fields, hget, -⟩
    exact hno fields hget

/-! ## Values that cannot be shown -/

/-- What a column holds. -/
inductive ColumnKind where
  /-- A text for each class. -/
  | texts
  /-- An integer for each class. -/
  | ints
  /-- Any number of id lists. -/
  | idLists

/-- The columns, in the order in which they are read. -/
def columns : List (String × ColumnKind) := [
  ("class_names", .texts), ("preferred_attributes", .texts), ("allowed_armors", .ints),
  ("allowed_shields_indices", .ints), ("allowed_weapons_indices", .ints),
  ("class_numbers_to_ids", .ints), ("initial_experience_caps", .ints), ("health_dice", .ints),
  ("lockpicking_divisors", .ints), ("allowed_shields_lists", .idLists),
  ("allowed_weapons_lists", .idLists)]

/-- The column can be read. -/
def Readable (levels : Nat) (tables : Value) : String × ColumnKind → Prop
  | (column, .texts) => ∃ texts, HasTexts levels tables column texts
  | (column, .ints) => ∃ ints, HasInts tables column ints
  | (column, .idLists) => ∃ lists, HasLists tables column lists

/-- Reading the column comes to a value that is not what it should be and cannot be shown, and not
before that to one that is wrong in another way: in front of the value there are only values that
have a text, or only integers, and in front of its id list there are only such lists. -/
def Stuck (levels : Nat) (tables : Value) : String × ColumnKind → Prop
  | (column, .texts) => ∃ items, tables.get? column.toList = some (.list items) ∧
      items.length = classCount ∧ ∃ v ∈ items, ¬ v.HasText levels
  | (column, .ints) => ∃ (ints : List Int) (v : Value) (rest : List Value),
      tables.get? column.toList = some (.list (ints.map .int ++ v :: rest)) ∧
      ints.length + 1 + rest.length = classCount ∧ (∀ n, v ≠ .int n) ∧ ¬ v.CanBeShown levels
  | (column, .idLists) => ∃ (lists : List (List Int)) (ints : List Int) (v : Value)
      (rest others : List Value), tables.get? column.toList =
        some (.list (lists.map intsValue ++ .list (ints.map .int ++ v :: rest) :: others)) ∧
      (∀ n, v ≠ .int n) ∧ ¬ v.CanBeShown levels

/-- Reading the document comes to a value that cannot be shown, and not before that to anything else
that is wrong. -/
def GetsStuck (levels : Nat) (document : Value) : Prop :=
  ∃ fields front column rest, document.get? rootKey = some (.object fields) ∧
    columns = front ++ column :: rest ∧ (∀ c ∈ front, Readable levels (.object fields) c) ∧
    Stuck levels (.object fields) column

/-- Reading a column, without its contents. -/
def check (levels : Nat) (tables : Value) : String × ColumnKind → Except Fault Unit
  | (column, .texts) => do let _ ← textColumn levels tables column
  | (column, .ints) => do let _ ← intColumn levels tables column
  | (column, .idLists) => do let _ ← idLists levels tables column

theorem exists_check_iff (c : String × ColumnKind) :
    (∃ u, check levels tables c = .ok u) ↔ Readable levels tables c := by
  obtain ⟨column, kind⟩ := c
  cases kind with
  | texts => exact exists_bind_unit_iff.trans (exists_congr fun _ => textColumn_eq_ok_iff)
  | ints => exact exists_bind_unit_iff.trans (exists_congr fun _ => intColumn_eq_ok_iff)
  | idLists => exact exists_bind_unit_iff.trans (exists_congr fun _ => idLists_eq_ok_iff)

theorem perClass_faults (tables : Value) (column : String) :
    FailsOnly (·.kind = .malformedRecord) (perClass tables column) := fun _ h => kind_of_perClass h

/-- A text is missing iff one of the values has none. -/
theorem failsWith_mapM_plainWithin_iff :
    FailsWith Unshown (items.mapM (Value.plainWithin levels)) ↔
      ∃ v ∈ items, ¬ v.HasText levels := by
  have hfaults : FailsOnly Unshown (items.mapM (Value.plainWithin levels)) :=
    .mapM fun v _ => Value.plainWithin_faults v levels
  rw [hfaults.failsWith_iff, exists_mapM_eq_ok_iff]
  simp [Value.plainWithin_eq_ok_iff]

theorem failsWith_textColumn_iff :
    FailsWith Unshown (textColumn levels tables column) ↔ Stuck levels tables (column, .texts) := by
  rw [textColumn, failsWith_bind_iff, or_iff_right (not_failsWith_unshown (perClass_faults _ _))]
  simp only [perClass_eq_ok_iff, failsWith_mapM_plainWithin_iff, Stuck, and_assoc]

theorem failsWith_intColumn_iff :
    FailsWith Unshown (intColumn levels tables column) ↔ Stuck levels tables (column, .ints) := by
  rw [intColumn, failsWith_bind_iff, or_iff_right (not_failsWith_unshown (perClass_faults _ _))]
  simp only [perClass_eq_ok_iff, failsWith_mapM_asInt_iff, Stuck]
  constructor
  · rintro ⟨_, ⟨hget, hlength⟩, ints, v, rest, rfl, hstuck⟩
    refine ⟨ints, v, rest, hget, ?_, hstuck⟩
    rw [← hlength, List.length_append, List.length_map, List.length_cons]
    omega
  · rintro ⟨ints, v, rest, hget, hlength, hstuck⟩
    refine ⟨_, ⟨hget, ?_⟩, ints, v, rest, rfl, hstuck⟩
    rw [← hlength, List.length_append, List.length_map, List.length_cons]
    omega

theorem failsWith_idLists_iff :
    FailsWith Unshown (idLists levels tables column) ↔ Stuck levels tables (column, .idLists) := by
  have hmap (items : List Value) : FailsWith Unshown (items.mapM (idList levels column)) ↔
      ∃ (lists : List (List Int)) (item : Value) (others : List Value),
        items = lists.map intsValue ++ item :: others ∧
        FailsWith Unshown (idList levels column item) :=
    failsWith_mapM_iff_of_inverse fun _ _ => idList_eq_ok_iff
  unfold idLists Stuck
  split
  · rename_i items hget
    simp only [hget, Option.some.injEq, Value.list.injEq]
    refine (hmap items).trans ?_
    simp only [failsWith_idList_iff]
    constructor
    · rintro ⟨lists, _, others, rfl, ints, v, rest, rfl, hstuck⟩
      exact ⟨lists, ints, v, rest, others, rfl, hstuck⟩
    · rintro ⟨lists, ints, v, rest, others, rfl, hstuck⟩
      exact ⟨lists, _, others, rfl, ints, v, rest, rfl, hstuck⟩
  · rename_i hlist
    refine iff_of_false (fun h => (failsWith_error.mp h).kind_ne rfl) ?_
    rintro ⟨lists, ints, v, rest, others, hget, -⟩
    exact hlist _ hget

theorem failsWith_check_iff (c : String × ColumnKind) :
    FailsWith Unshown (check levels tables c) ↔ Stuck levels tables c := by
  obtain ⟨column, kind⟩ := c
  cases kind with
  | texts => exact failsWith_bind_unit_iff.trans failsWith_textColumn_iff
  | ints => exact failsWith_bind_unit_iff.trans failsWith_intColumn_iff
  | idLists => exact failsWith_bind_unit_iff.trans failsWith_idLists_iff

theorem ofValue_eq_error_iff {document : Value} {fields : List (Text × Value)}
    (h : document.get? rootKey = some (.object fields)) : ofValue levels document = .error fault ↔
      columns.mapM (check levels (.object fields)) = .error fault := by
  apply eq_error_iff_of_bind_unit
  rw [ofValue, h]
  simp only [columns, List.mapM_cons, List.mapM_nil, check, bind_assoc, pure_bind]

theorem ofValue_of_no_fields {document : Value}
    (h : ¬ ∃ fields, document.get? rootKey = some (.object fields)) :
    ofValue levels document = .error .noClassTables := by
  unfold ofValue
  split
  · rename_i fields hget
    exact absurd ⟨fields, hget⟩ h
  · rfl

/-- Reading a document ends at a value that cannot be shown just where it comes to one first. -/
theorem failsWith_ofValue_iff {document : Value} :
    FailsWith Unshown (ofValue levels document) ↔ GetsStuck levels document := by
  by_cases hfields : ∃ fields, document.get? rootKey = some (.object fields)
  · obtain ⟨fields, hget⟩ := hfields
    have hcheck : FailsWith Unshown (ofValue levels document) ↔
        FailsWith Unshown (columns.mapM (check levels (.object fields))) := by
      simp only [FailsWith, ofValue_eq_error_iff hget]
    rw [hcheck, failsWith_mapM_iff]
    simp only [exists_check_iff, failsWith_check_iff]
    constructor
    · rintro ⟨front, column, rest, hcolumns, hfront, hcolumn⟩
      exact ⟨fields, front, column, rest, hget, hcolumns, hfront, hcolumn⟩
    · rintro ⟨fields', front, column, rest, hget', hcolumns, hfront, hcolumn⟩
      obtain rfl : fields = fields' := by simpa [hget] using hget'
      exact ⟨front, column, rest, hcolumns, hfront, hcolumn⟩
  · rw [ofValue_of_no_fields hfields]
    refine iff_of_false (fun h => (failsWith_error.mp h).kind_ne rfl) ?_
    rintro ⟨fields, front, column, rest, hget, -⟩
    exact hfields ⟨fields, hget⟩

/-! ## Everything else -/

theorem perClass_ofDocument (tables : Value) (column : String) :
    FailsOnly OfDocument (perClass tables column) :=
  (perClass_faults tables column).imp fun _ h => Or.inl h

theorem textColumn_faults (levels : Nat) (tables : Value) (column : String) :
    FailsOnly OfDocument (textColumn levels tables column) :=
  (perClass_ofDocument tables column).bind fun _ _ => .mapM fun value _ =>
    (Value.plainWithin_faults value levels).imp fun _ h => Or.inr h

theorem intColumn_faults (levels : Nat) (tables : Value) (column : String) :
    FailsOnly OfDocument (intColumn levels tables column) :=
  (perClass_ofDocument tables column).bind fun _ _ => .mapM fun value _ =>
    asInt_faults levels column value

theorem idLists_faults (levels : Nat) (tables : Value) (column : String) :
    FailsOnly OfDocument (idLists levels tables column) := by
  rw [idLists]
  split
  · refine .mapM fun item _ => ?_
    refine ((asList_faults (some item) column).imp fun _ h => Or.inl h).bind fun ids _ => ?_
    exact .mapM fun v _ => asInt_faults levels column v
  · exact failsOnly_error.mpr (Or.inl rfl)

theorem check_faults (levels : Nat) (c : String × ColumnKind) :
    FailsOnly OfDocument (check levels tables c) := by
  obtain ⟨column, kind⟩ := c
  cases kind with
  | texts => exact (textColumn_faults levels tables column).bind fun _ _ => failsOnly_ok _
  | ints => exact (intColumn_faults levels tables column).bind fun _ _ => failsOnly_ok _
  | idLists => exact (idLists_faults levels tables column).bind fun _ _ => failsOnly_ok _

theorem ofValue_faults (levels : Nat) (document : Value) :
    FailsOnly OfDocument (ofValue levels document) := by
  intro fault h
  by_cases hfields : ∃ fields, document.get? rootKey = some (.object fields)
  · obtain ⟨fields, hget⟩ := hfields
    exact FailsOnly.mapM (fun c _ => check_faults levels c) fault ((ofValue_eq_error_iff hget).mp h)
  · rw [ofValue_of_no_fields hfields] at h
    rw [← Except.error.inj h]
    exact Or.inl rfl

/-- A document is malformed or has tables unless reading it gets stuck at a value that cannot be
shown. -/
theorem ofValue_malformed_or_ok_iff {document : Value} :
    (Fails .malformedRecord (ofValue levels document) ∨ ∃ d, ofValue levels document = .ok d) ↔
      ¬ GetsStuck levels document := by
  rw [← failsWith_ofValue_iff]
  cases h : ofValue levels document with
  | ok d => exact iff_of_true (Or.inr ⟨d, rfl⟩) (not_failsWith_ok d)
  | error fault =>
    rw [failsWith_error, fails_error, or_iff_left fun ⟨_, hok⟩ => error_ne_ok hok]
    rcases ofValue_faults levels document fault h with hkind | hunshown
    · exact iff_of_true hkind fun hunshown => hunshown.kind_ne hkind
    · exact iff_of_false hunshown.kind_ne (not_not_intro hunshown)

end SideData

end ArenaData
