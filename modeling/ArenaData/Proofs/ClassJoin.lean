import ArenaData.Proofs.DecodedShapes
import ArenaData.Proofs.LoadingFaults
import Mathlib.Tactic.IntervalCases

/-!
# The join of the class tables

A class joins one row of every table, and four parts of a row are checked: its armor, its shields,
its weapons and its lockpicking, in this order. A part is usable or it is refused with a fault of
its own, so tables give all classes or end with the fault of the first part of the first row that is
not usable. It is reported with the number that is wrong, unless that has too many digits. Indexes
and ids are compared with their bounds before anything is looked up: a negative index selects
nothing, only -1 stands for everything.
-/

namespace ArenaData

/-- The id of a shield in the lists of the executable. -/
def Shield.id : Shield → Int
  | buckler => 7
  | round => 8
  | kite => 9
  | tower => 10

namespace ClassDefinition

open SideData (classCount)

variable {d : SideData} {r : Row} {index : Int} {lists : List (List Int)} {fault : Fault}

/-! ## Rows -/

/-- The row holds the entry of every table for the class in this place. -/
structure IsRow (d : SideData) (place : Nat) (r : Row) : Prop where
  place_eq : r.place = place
  name : d.classNames[place]? = some r.name
  preferredAttributes : d.preferredAttributes[place]? = some r.preferredAttributes
  armorCode : d.allowedArmors[place]? = some r.armorCode
  shieldIndex : d.allowedShieldsIndices[place]? = some r.shieldIndex
  weaponIndex : d.allowedWeaponsIndices[place]? = some r.weaponIndex
  flagNumber : d.classNumbersToIds[place]? = some r.flagNumber
  experienceCap : d.initialExperienceCaps[place]? = some r.experienceCap
  healthDie : d.healthDice[place]? = some r.healthDie
  divisor : d.lockpickingDivisors[place]? = some r.divisor

theorem isRow_row (h : d.Complete) {place : Nat} (hplace : place < classCount) :
    IsRow d place (row d place) := by
  have hentry {α : Type} {table : List α} (hlength : table.length = classCount) (x : α) :
      table[place]? = some ((table[place]?).getD x) := by
    rw [List.getElem?_eq_getElem (hlength ▸ hplace), Option.getD_some]
  exact ⟨rfl, hentry h.classNames _, hentry h.preferredAttributes _, hentry h.allowedArmors _,
    hentry h.allowedShieldsIndices _, hentry h.allowedWeaponsIndices _,
    hentry h.classNumbersToIds _, hentry h.initialExperienceCaps _, hentry h.healthDice _,
    hentry h.lockpickingDivisors _⟩

/-! ## Lists that are selected by an index -/

/-- The index, counted from 0, selects the ids. -/
def Selects (lists : List (List Int)) (index : Int) (ids : List Int) : Prop :=
  0 ≤ index ∧ lists[index.toNat]? = some ids

theorem entry?_eq_some_iff {α : Type} {items : List α} {x : α} :
    entry? items index = some x ↔ 0 ≤ index ∧ items[index.toNat]? = some x := by
  unfold entry?
  by_cases h : 0 ≤ index
  · simp [h]
  · simp [h]

/-- The index stands for everything, or it selects a list whose ids are all in order. -/
def Allows (InOrder : Int → Prop) (lists : List (List Int)) (index : Int) : Prop :=
  index = everything ∨ ∃ ids, Selects lists index ids ∧ ∀ id ∈ ids, InOrder id

/-- The index neither stands for everything nor selects a list, which is the first fault, or the
other fault blames the first id of its list that is out of order. -/
def Rejects (InOrder : Int → Prop) (lists : List (List Int)) (index : Int) (noList : Fault)
    (badId : Int → Fault) (fault : Fault) : Prop :=
  (index ≠ everything ∧ (∀ ids, ¬ Selects lists index ids) ∧ fault = noList) ∨
    ∃ front id rest, Selects lists index (front ++ id :: rest) ∧ (∀ x ∈ front, InOrder x) ∧
      ¬ InOrder id ∧ fault = badId id

section Resolved

variable {α : Type} {full items : List α} {resolve : Int → Except Fault α} {noList : Fault}
  {badId : Int → Fault} {InOrder : Int → Prop} {ids : List Int}

theorem not_selects_everything : ¬ Selects lists everything ids := fun h => absurd h.1 (by decide)

theorem Selects.unique {ids' : List Int} (h : Selects lists index ids)
    (h' : Selects lists index ids') : ids = ids' := Option.some.inj (h.2.symm.trans h'.2)

theorem resolved_of_selects (h : Selects lists index ids) :
    resolved full resolve noList lists index = ids.mapM resolve := by
  have hne : index ≠ everything := by
    rintro rfl
    exact not_selects_everything h
  rw [resolved, if_neg hne, entry?_eq_some_iff.mpr h]

theorem resolved_of_no_list (hne : index ≠ everything) (hno : ∀ ids, ¬ Selects lists index ids) :
    resolved full resolve noList lists index = .error noList := by
  have hnone : entry? lists index = none :=
    Option.eq_none_iff_forall_ne_some.mpr fun ids h => hno ids (entry?_eq_some_iff.mp h)
  rw [resolved, if_neg hne, hnone]

theorem index_cases (lists : List (List Int)) (index : Int) :
    index = everything ∨ (∃ ids, Selects lists index ids) ∨
      (index ≠ everything ∧ ∀ ids, ¬ Selects lists index ids) := by
  by_cases hall : index = everything
  · exact Or.inl hall
  · by_cases hlist : ∃ ids, Selects lists index ids
    · exact Or.inr (Or.inl hlist)
    · exact Or.inr (Or.inr ⟨hall, not_exists.mp hlist⟩)

theorem resolved_eq_ok_iff :
    resolved full resolve noList lists index = .ok items ↔ index = everything ∧ items = full ∨
      ∃ ids, Selects lists index ids ∧ ids.mapM resolve = .ok items := by
  rcases index_cases lists index with rfl | ⟨ids, hids⟩ | ⟨hne, hno⟩
  · simp [resolved, not_selects_everything, eq_comm]
  · rw [resolved_of_selects hids]
    constructor
    · intro h
      exact Or.inr ⟨ids, hids, h⟩
    · rintro (⟨rfl, -⟩ | ⟨ids', hids', h⟩)
      · exact absurd hids not_selects_everything
      · rwa [hids.unique hids']
  · rw [resolved_of_no_list hne hno]
    refine iff_of_false error_ne_ok ?_
    rintro (⟨hall, -⟩ | ⟨ids, hids, -⟩)
    · exact hne hall
    · exact hno ids hids

variable (h : ∀ fault id, resolve id = .error fault ↔ ¬ InOrder id ∧ fault = badId id)

include h

theorem exists_resolved_iff : (∃ items, resolved full resolve noList lists index = .ok items) ↔
    Allows InOrder lists index := by
  simp only [resolved_eq_ok_iff, Allows]
  constructor
  · rintro ⟨items, ⟨hall, -⟩ | ⟨ids, hids, hitems⟩⟩
    · exact Or.inl hall
    · refine Or.inr ⟨ids, hids, fun id hid => ?_⟩
      exact (exists_ok_iff_of_error (h · id)).mp (exists_mapM_eq_ok_iff.mp ⟨items, hitems⟩ id hid)
  · rintro (hall | ⟨ids, hids, hinOrder⟩)
    · exact ⟨full, Or.inl ⟨hall, rfl⟩⟩
    · obtain ⟨items, hitems⟩ := exists_mapM_eq_ok_iff.mpr fun id hid =>
        (exists_ok_iff_of_error (h · id)).mpr (hinOrder id hid)
      exact ⟨items, Or.inr ⟨ids, hids, hitems⟩⟩

theorem resolved_eq_error_iff : resolved full resolve noList lists index = .error fault ↔
    Rejects InOrder lists index noList badId fault := by
  rcases index_cases lists index with rfl | ⟨ids, hids⟩ | ⟨hne, hno⟩
  · simp [resolved, Rejects, not_selects_everything]
  · rw [resolved_of_selects hids, mapM_eq_error]
    simp only [fun id => exists_ok_iff_of_error (h · id), h]
    constructor
    · rintro ⟨front, id, rest, rfl, hfront, hid, hfault⟩
      exact Or.inr ⟨front, id, rest, hids, hfront, hid, hfault⟩
    · rintro (⟨-, hno, -⟩ | ⟨front, id, rest, hids', hfront, hid, hfault⟩)
      · exact absurd hids (hno ids)
      · exact ⟨front, id, rest, hids.unique hids', hfront, hid, hfault⟩
  · rw [resolved_of_no_list hne hno, Except.error.injEq]
    constructor
    · rintro rfl
      exact Or.inl ⟨hne, hno, rfl⟩
    · rintro (⟨-, -, rfl⟩ | ⟨front, id, rest, hids, -⟩)
      · rfl
      · exact absurd hids (hno _)

end Resolved

theorem rejects_reported_iff {InOrder : Int → Prop} {noList : Fault} {badId : Int → Fault} :
    Rejects InOrder lists index noList.reported (fun id => (badId id).reported) fault ↔
      ∃ cause, Rejects InOrder lists index noList badId cause ∧ fault = cause.reported := by
  constructor
  · rintro (⟨hne, hno, hfault⟩ | ⟨front, id, rest, hids, hfront, hid, hfault⟩)
    · exact ⟨noList, Or.inl ⟨hne, hno, rfl⟩, hfault⟩
    · exact ⟨badId id, Or.inr ⟨front, id, rest, hids, hfront, hid, rfl⟩, hfault⟩
  · rintro ⟨cause, ⟨hne, hno, rfl⟩ | ⟨front, id, rest, hids, hfront, hid, rfl⟩, hfault⟩
    · exact Or.inl ⟨hne, hno, hfault⟩
    · exact Or.inr ⟨front, id, rest, hids, hfront, hid, hfault⟩

/-! ## Parts of a row -/

/-- What is checked of a row. -/
inductive Part where
  /-- The armor tier. -/
  | armor
  /-- The index into the shield lists, and the ids of the list. -/
  | shields
  /-- The index into the weapon lists, and the ids of the list. -/
  | weapons
  /-- The lockpicking divisor. -/
  | lockpicking

/-- The parts in the order in which they are checked. -/
def parts : List Part := [.armor, .shields, .weapons, .lockpicking]

/-- The id is that of a shield. -/
def IsShieldId (id : Int) : Prop := 7 ≤ id ∧ id ≤ 10

/-- The id is that of a weapon. -/
def IsWeaponId (id : Int) : Prop := 0 ≤ id ∧ id ≤ 17

/-- The part of the row leads somewhere. -/
def Usable (d : SideData) (r : Row) : Part → Prop
  | .armor => 0 ≤ r.armorCode ∧ r.armorCode ≤ 3
  | .shields => Allows IsShieldId d.allowedShieldsLists r.shieldIndex
  | .weapons => Allows IsWeaponId d.allowedWeaponsLists r.weaponIndex
  | .lockpicking => 1 ≤ r.divisor

/-- The part of the row leads nowhere, for this cause. -/
def Refused (d : SideData) (r : Row) : Part → Fault → Prop
  | .armor, cause => ¬ (0 ≤ r.armorCode ∧ r.armorCode ≤ 3) ∧ cause = .badArmorCode r.armorCode
  | .shields, cause => Rejects IsShieldId d.allowedShieldsLists r.shieldIndex
      (.badShieldIndex r.shieldIndex) (.badShieldId · r.shieldIndex) cause
  | .weapons, cause => Rejects IsWeaponId d.allowedWeaponsLists r.weaponIndex
      (.badWeaponIndex r.weaponIndex) (.badWeaponId · r.weaponIndex) cause
  | .lockpicking, cause => ¬ 1 ≤ r.divisor ∧ cause = .badLockpickingDivisor r.divisor

/-- Every cause says that the tables are malformed. -/
theorem kind_of_refused {p : Part} {cause : Fault} (h : Refused d r p cause) :
    cause.kind = .malformedRecord := by
  cases p with
  | armor =>
    obtain ⟨-, rfl⟩ := h
    rfl
  | shields => rcases h with ⟨-, -, rfl⟩ | ⟨_, _, _, -, -, -, rfl⟩ <;> rfl
  | weapons => rcases h with ⟨-, -, rfl⟩ | ⟨_, _, _, -, -, -, rfl⟩ <;> rfl
  | lockpicking =>
    obtain ⟨-, rfl⟩ := h
    rfl

theorem mem_parts (p : Part) : p ∈ parts := by cases p <;> simp [parts]

theorem entry?_eq_none_iff {α : Type} {items : List α} :
    entry? items index = none ↔ ¬ (0 ≤ index ∧ index < items.length) := by
  unfold entry?
  by_cases h : 0 ≤ index
  · simp [h]
  · simp [h]

theorem armorsFor_eq_ok_iff {code : Int} {armors : List ArmorMaterial} :
    armorsFor code = .ok armors ↔ 0 ≤ code ∧ armorTiers[code.toNat]? = some armors := by
  rw [← entry?_eq_some_iff, armorsFor]
  cases entry? armorTiers code <;> simp

theorem armorsFor_eq_error_iff {code : Int} :
    armorsFor code = .error fault ↔
      ¬ (0 ≤ code ∧ code ≤ 3) ∧ fault = (Fault.badArmorCode code).reported := by
  have hnone : entry? armorTiers code = none ↔ ¬ (0 ≤ code ∧ code ≤ 3) := by
    rw [entry?_eq_none_iff]
    simp only [armorTiers, List.length_cons, List.length_nil]
    omega
  rw [← hnone, armorsFor]
  cases entry? armorTiers code <;> simp [eq_comm]

theorem shieldOf_eq_error_iff {id : Int} : shieldOf index id = .error fault ↔
    ¬ IsShieldId id ∧ fault = (Fault.badShieldId id index).reported := by
  have hnone : entry? allShields (id - firstShieldId) = none ↔ ¬ IsShieldId id := by
    rw [entry?_eq_none_iff]
    simp only [allShields, firstShieldId, IsShieldId, List.length_cons, List.length_nil]
    omega
  rw [← hnone, shieldOf]
  cases entry? allShields (id - firstShieldId) <;> simp [eq_comm]

theorem shieldOf_eq_ok_iff (id : Int) (s : Shield) : shieldOf index id = .ok s ↔ id = s.id := by
  constructor
  · intro h
    obtain ⟨hlow, hhigh⟩ : IsShieldId id :=
      (exists_ok_iff_of_error fun _ => shieldOf_eq_error_iff).mp ⟨s, h⟩
    -- each of the four ids is resolved by computation
    interval_cases id <;> (obtain rfl := Except.ok.inj h; rfl)
  · rintro rfl
    cases s <;> rfl

theorem isWeaponId_iff {id : Int} : IsWeaponId id ↔ 0 ≤ id ∧ id < weaponCount := by
  simp only [weaponCount, IsWeaponId]
  omega

theorem weaponOf_eq_ok_iff {id weapon : Int} :
    weaponOf index id = .ok weapon ↔ IsWeaponId id ∧ id = weapon := by
  rw [isWeaponId_iff, weaponOf]
  by_cases h : 0 ≤ id ∧ id < weaponCount
  · rw [if_pos h, Except.ok.injEq, and_iff_right h]
  · rw [if_neg h]
    exact iff_of_false error_ne_ok fun hok => h hok.1

theorem weaponOf_eq_error_iff {id : Int} : weaponOf index id = .error fault ↔
    ¬ IsWeaponId id ∧ fault = (Fault.badWeaponId id index).reported := by
  rw [isWeaponId_iff, weaponOf]
  by_cases h : 0 ≤ id ∧ id < weaponCount
  · rw [if_pos h]
    exact iff_of_false ok_ne_error fun hbad => hbad.1 h
  · rw [if_neg h, Except.error.injEq, and_iff_right h, eq_comm]

theorem lockpickingFor_eq_ok_iff {divisor : Int} {n : Nat} :
    lockpickingFor divisor = .ok n ↔ 1 ≤ divisor ∧ (n : Int) = 200 / divisor := by
  rw [lockpickingFor]
  by_cases h : divisor ≤ 0
  · rw [if_pos h]
    exact iff_of_false error_ne_ok fun hok => by omega
  · lift divisor to Nat using by omega
    rw [if_neg h, Except.ok.injEq, Int.toNat_natCast, and_iff_right (by omega), eq_comm]
    norm_cast

theorem lockpickingFor_eq_error_iff {divisor : Int} : lockpickingFor divisor = .error fault ↔
    ¬ 1 ≤ divisor ∧ fault = (Fault.badLockpickingDivisor divisor).reported := by
  rw [lockpickingFor]
  by_cases h : divisor ≤ 0
  · rw [if_pos h, Except.error.injEq, and_iff_right (by omega), eq_comm]
  · rw [if_neg h]
    exact iff_of_false ok_ne_error fun hbad => by omega

/-! ## The class of a row -/

/-- The definition joins the row with what it refers to. -/
structure Joins (d : SideData) (r : Row) (c : ClassDefinition) : Prop where
  name : c.name = r.name
  preferredAttributes : c.preferredAttributes = r.preferredAttributes
  armors : 0 ≤ r.armorCode ∧ armorTiers[r.armorCode.toNat]? = some c.allowedArmors
  shields : r.shieldIndex = everything ∧ c.allowedShields = allShields ∨
    Selects d.allowedShieldsLists r.shieldIndex (c.allowedShields.map Shield.id)
  weapons : r.weaponIndex = everything ∧ c.allowedWeapons = allWeapons ∨
    Selects d.allowedWeaponsLists r.weaponIndex c.allowedWeapons ∧
      ∀ id ∈ c.allowedWeapons, IsWeaponId id
  category : c.category = categoryFor r.place
  lockpicking : 1 ≤ r.divisor ∧ (c.lockpicking : Int) = 200 / r.divisor
  healthDie : c.healthDie = r.healthDie
  initialExperienceCap : c.initialExperienceCap = r.experienceCap
  flags : c.flags = ClassFlags.ofInt r.flagNumber

theorem shieldsFor_eq_ok_iff {shields : List Shield} : shieldsFor index lists = .ok shields ↔
    index = everything ∧ shields = allShields ∨
      Selects lists index (shields.map Shield.id) := by
  have hmap (ids : List Int) : ids.mapM (shieldOf index) = .ok shields ↔
      ids = shields.map Shield.id := mapM_eq_ok_of_inverse shieldOf_eq_ok_iff
  have hok : shieldsFor index lists = .ok shields ↔ index = everything ∧ shields = allShields ∨
      ∃ ids, Selects lists index ids ∧ ids.mapM (shieldOf index) = .ok shields :=
    resolved_eq_ok_iff
  simpa only [hmap, exists_eq_right] using hok

theorem weaponsFor_eq_ok_iff {weapons : List Int} : weaponsFor index lists = .ok weapons ↔
    index = everything ∧ weapons = allWeapons ∨
      Selects lists index weapons ∧ ∀ id ∈ weapons, IsWeaponId id := by
  have hmap (ids : List Int) : ids.mapM (weaponOf index) = .ok weapons ↔
      ids = weapons ∧ ∀ id ∈ ids, IsWeaponId id := by
    rw [mapM_eq_ok, and_comm]
    simp only [weaponOf_eq_ok_iff, List.forall₂_and_left, List.forall₂_eq_eq_eq]
  have hok : weaponsFor index lists = .ok weapons ↔ index = everything ∧ weapons = allWeapons ∨
      ∃ ids, Selects lists index ids ∧ ids.mapM (weaponOf index) = .ok weapons :=
    resolved_eq_ok_iff
  simp only [hok, hmap, and_left_comm, exists_eq_left]

theorem ofRow_eq_ok_iff {c : ClassDefinition} : ofRow d r = .ok c ↔ Joins d r c := by
  constructor
  · intro h
    obtain ⟨armors, harmors, h⟩ := bind_eq_ok.mp h
    obtain ⟨shields, hshields, h⟩ := bind_eq_ok.mp h
    obtain ⟨weapons, hweapons, h⟩ := bind_eq_ok.mp h
    obtain ⟨lockpicking, hlockpicking, h⟩ := bind_eq_ok.mp h
    obtain rfl := Except.ok.inj h
    exact ⟨rfl, rfl, armorsFor_eq_ok_iff.mp harmors, shieldsFor_eq_ok_iff.mp hshields,
      weaponsFor_eq_ok_iff.mp hweapons, rfl, lockpickingFor_eq_ok_iff.mp hlockpicking, rfl, rfl,
      rfl⟩
  · rintro ⟨hname, hattributes, harmors, hshields, hweapons, hcategory, hlockpicking, hdie, hcap,
      hflags⟩
    refine bind_eq_ok.mpr ⟨_, armorsFor_eq_ok_iff.mpr harmors, ?_⟩
    refine bind_eq_ok.mpr ⟨_, shieldsFor_eq_ok_iff.mpr hshields, ?_⟩
    refine bind_eq_ok.mpr ⟨_, weaponsFor_eq_ok_iff.mpr hweapons, ?_⟩
    refine bind_eq_ok.mpr ⟨_, lockpickingFor_eq_ok_iff.mpr hlockpicking, ?_⟩
    rw [← hname, ← hattributes, ← hcategory, ← hdie, ← hcap, ← hflags]
    rfl

/-- The check of a part, without what it leads to. -/
def check (d : SideData) (r : Row) : Part → Except Fault Unit
  | .armor => do let _ ← armorsFor r.armorCode
  | .shields => do let _ ← shieldsFor r.shieldIndex d.allowedShieldsLists
  | .weapons => do let _ ← weaponsFor r.weaponIndex d.allowedWeaponsLists
  | .lockpicking => do let _ ← lockpickingFor r.divisor

theorem check_eq_error_iff (p : Part) : check d r p = .error fault ↔
    ∃ cause, Refused d r p cause ∧ fault = cause.reported := by
  have hsingle {bad : Prop} {refusal : Fault} : bad ∧ fault = refusal.reported ↔
      ∃ cause, (bad ∧ cause = refusal) ∧ fault = cause.reported := by
    constructor
    · rintro ⟨hbad, hfault⟩
      exact ⟨refusal, ⟨hbad, rfl⟩, hfault⟩
    · rintro ⟨cause, ⟨hbad, rfl⟩, hfault⟩
      exact ⟨hbad, hfault⟩
  cases p with
  | armor => exact (bind_unit_eq_error_iff.trans armorsFor_eq_error_iff).trans hsingle
  | shields =>
    exact (bind_unit_eq_error_iff.trans
      (resolved_eq_error_iff fun _ _ => shieldOf_eq_error_iff)).trans rejects_reported_iff
  | weapons =>
    exact (bind_unit_eq_error_iff.trans
      (resolved_eq_error_iff fun _ _ => weaponOf_eq_error_iff)).trans rejects_reported_iff
  | lockpicking => exact (bind_unit_eq_error_iff.trans lockpickingFor_eq_error_iff).trans hsingle

theorem exists_check_iff (p : Part) : (∃ u, check d r p = .ok u) ↔ Usable d r p := by
  cases p with
  | armor =>
    exact exists_bind_unit_iff.trans (exists_ok_iff_of_error fun _ => armorsFor_eq_error_iff)
  | shields =>
    exact exists_bind_unit_iff.trans (exists_resolved_iff fun _ _ => shieldOf_eq_error_iff)
  | weapons =>
    exact exists_bind_unit_iff.trans (exists_resolved_iff fun _ _ => weaponOf_eq_error_iff)
  | lockpicking =>
    exact exists_bind_unit_iff.trans (exists_ok_iff_of_error fun _ => lockpickingFor_eq_error_iff)

theorem ofRow_bind_unit : (ofRow d r >>= fun _ => pure () : Except Fault Unit) =
    (parts.mapM (check d r) >>= fun _ => pure ()) := by
  simp only [ofRow, parts, List.mapM_cons, List.mapM_nil, check, bind_assoc, pure_bind]

theorem exists_ofRow_iff : (∃ c, ofRow d r = .ok c) ↔ ∀ p, Usable d r p := by
  rw [← exists_bind_unit_iff, ofRow_bind_unit, exists_bind_unit_iff, exists_mapM_eq_ok_iff]
  simp only [exists_check_iff, mem_parts, true_imp_iff]

theorem ofRow_eq_error_iff : ofRow d r = .error fault ↔ ∃ front p rest, parts = front ++ p :: rest ∧
    (∀ q ∈ front, Usable d r q) ∧ ∃ cause, Refused d r p cause ∧ fault = cause.reported := by
  rw [eq_error_iff_of_bind_unit ofRow_bind_unit, mapM_eq_error]
  simp only [exists_check_iff, check_eq_error_iff]

/-! ## All classes -/

/-- All parts of all rows are usable. -/
def AllUsable (d : SideData) : Prop := ∀ i < classCount, ∀ p, Usable d (row d i) p

/-- The cause is that of the first part of the first row that is not usable. -/
def FirstRefused (d : SideData) (cause : Fault) : Prop :=
  ∃ i front p rest, i < classCount ∧ (∀ j < i, ∀ q, Usable d (row d j) q) ∧
    parts = front ++ p :: rest ∧ (∀ q ∈ front, Usable d (row d i) q) ∧
    Refused d (row d i) p cause

theorem exists_all_iff : (∃ classes, all d = .ok classes) ↔ AllUsable d := by
  rw [all, exists_mapM_eq_ok_iff]
  simp only [List.mem_range, exists_ofRow_iff, AllUsable]

theorem all_eq_error_iff :
    all d = .error fault ↔ ∃ cause, FirstRefused d cause ∧ fault = cause.reported := by
  rw [all, mapM_range_eq_error]
  simp only [exists_ofRow_iff, ofRow_eq_error_iff, FirstRefused]
  constructor
  · rintro ⟨i, hi, hbefore, front, p, rest, hparts, hfront, cause, hp, hfault⟩
    exact ⟨cause, ⟨i, front, p, rest, hi, hbefore, hparts, hfront, hp⟩, hfault⟩
  · rintro ⟨cause, ⟨i, front, p, rest, hi, hbefore, hparts, hfront, hp⟩, hfault⟩
    exact ⟨i, hi, hbefore, front, p, rest, hparts, hfront, cause, hp, hfault⟩

theorem exists_firstRefused_iff : (∃ cause, FirstRefused d cause) ↔ ¬ AllUsable d := by
  rw [← exists_all_iff]
  cases hall : all d with
  | ok classes =>
    refine iff_of_false ?_ fun hno => hno ⟨classes, rfl⟩
    rintro ⟨cause, hcause⟩
    exact ok_ne_error (hall.symm.trans (all_eq_error_iff.mpr ⟨cause, hcause, rfl⟩))
  | error fault =>
    obtain ⟨cause, hcause, -⟩ := all_eq_error_iff.mp hall
    exact iff_of_true ⟨cause, hcause⟩ fun ⟨_, h⟩ => error_ne_ok h

/-- Tables that are refused are found malformed iff the cause can be shown. -/
theorem fails_all_iff : Fails .malformedRecord (all d) ↔
    ∃ cause, FirstRefused d cause ∧ cause.hasMessage = true := by
  have hkind {cause : Fault} (hcause : FirstRefused d cause) :
      cause.reported.kind = .malformedRecord ↔ cause.hasMessage = true := by
    obtain ⟨_, _, _, _, -, -, -, -, hrefused⟩ := hcause
    exact Fault.kind_reported_eq_iff (kind_of_refused hrefused) (by decide)
  constructor
  · rintro ⟨fault, hfault, hmalformed⟩
    obtain ⟨cause, hcause, hreported⟩ := all_eq_error_iff.mp hfault
    rw [hreported] at hmalformed
    exact ⟨cause, hcause, (hkind hcause).mp hmalformed⟩
  · rintro ⟨cause, hcause, hmessage⟩
    exact ⟨_, all_eq_error_iff.mpr ⟨cause, hcause, rfl⟩, (hkind hcause).mpr hmessage⟩

theorem joins_of_all {classes : List ClassDefinition} (h : all d = .ok classes) {i : Nat}
    {c : ClassDefinition} (hc : classes[i]? = some c) : Joins d (row d i) c := by
  have hrows := mapM_eq_ok.mp h
  obtain ⟨hi, rfl⟩ := List.getElem?_eq_some_iff.mp hc
  have hlt : i < (List.range classCount).length := by rwa [hrows.length_eq]
  have hrow := hrows.get hlt hi
  rw [List.get_eq_getElem, List.getElem_range] at hrow
  exact ofRow_eq_ok_iff.mp hrow

/-- Whatever a document holds, it is malformed or it has tables of the shape that its columns are to
have, unless reading it gets stuck at a value that cannot be shown. Tables that it has give all the
classes iff every part of every row is usable, and each class then joins its row. Otherwise the
fault is that of the first part of the first row that is not usable, and the tables are found
malformed iff its numbers can be shown. -/
theorem document_joins (levels : Nat) (document : Json.Value) :
    ((Fails .malformedRecord (SideData.ofValue levels document) ∨
        ∃ d fields, SideData.ofValue levels document = .ok d ∧
          document.get? SideData.rootKey = some (.object fields) ∧
          SideData.Describes levels (.object fields) d) ↔ ¬ SideData.GetsStuck levels document) ∧
    ∀ d, SideData.ofValue levels document = .ok d →
      (∀ i < classCount, IsRow d i (row d i)) ∧
      ((∃ classes, all d = .ok classes ∧ classes.length = classCount) ↔ AllUsable d) ∧
      (¬ AllUsable d ↔ ∃ cause, FirstRefused d cause) ∧
      (∀ fault, all d = .error fault ↔ ∃ cause, FirstRefused d cause ∧ fault = cause.reported) ∧
      (Fails .malformedRecord (all d) ↔
        ∃ cause, FirstRefused d cause ∧ cause.hasMessage = true) ∧
      ∀ classes, all d = .ok classes → ∀ i c, classes[i]? = some c → Joins d (row d i) c := by
  constructor
  · rw [← SideData.ofValue_malformed_or_ok_iff]
    refine or_congr_right (exists_congr fun d => ?_)
    constructor
    · rintro ⟨fields, h, -⟩
      exact h
    · intro h
      obtain ⟨fields, hget, hd⟩ := SideData.ofValue_eq_ok_iff.mp h
      exact ⟨fields, h, hget, hd⟩
  · intro d h
    refine ⟨fun i hi => isRow_row (SideData.complete_of_ofValue h) hi, ?_,
      exists_firstRefused_iff.symm, fun fault => all_eq_error_iff, fails_all_iff,
      fun classes hall i c hc => joins_of_all hall hc⟩
    rw [← exists_all_iff]
    exact exists_congr fun classes => and_iff_left_of_imp length_of_all

/-- Two tables with the same first class, which has its shields and weapons from lists. In one of
them the second class has a weapon list with an id beyond the last weapon, and behind that a divisor
of zero: the weapon is what is reported. -/
theorem document_joins_of_listed_ids :
    let good : SideData := { SideData.permissive with
      allowedArmors := 3 :: List.replicate 17 0
      allowedShieldsIndices := 0 :: List.replicate 17 (-1)
      allowedWeaponsIndices := 0 :: List.replicate 17 (-1)
      lockpickingDivisors := 3 :: List.replicate 17 1
      allowedShieldsLists := [[10, 7]]
      allowedWeaponsLists := [[17, 0], [18]] }
    let bad : SideData := { good with
      allowedWeaponsIndices := [0, 1] ++ List.replicate 16 (-1)
      lockpickingDivisors := [3, 0] ++ List.replicate 16 1 }
    (SideData.ofValue 1 good.toValue = .ok good ∧ AllUsable good ∧
      ∃ classes c, all good = .ok classes ∧ classes[0]? = some c ∧ Joins good (row good 0) c ∧
        c.allowedShields = [.tower, .buckler] ∧ c.allowedWeapons = [17, 0] ∧ c.lockpicking = 66) ∧
    SideData.ofValue 1 bad.toValue = .ok bad ∧ ¬ AllUsable bad ∧
      FirstRefused bad (.badWeaponId 18 1) ∧ all bad = .error (.badWeaponId 18 1) := by
  intro good bad
  have hgood : SideData.ofValue 1 good.toValue = .ok good := rfl
  have hbad : SideData.ofValue 1 bad.toValue = .ok bad := rfl
  obtain ⟨-, hjoin⟩ := document_joins 1 good.toValue
  obtain ⟨-, husable, -, -, -, hjoins⟩ := hjoin good hgood
  obtain ⟨-, hrefuse⟩ := document_joins 1 bad.toValue
  obtain ⟨-, -, hcause, hfirst, -, -⟩ := hrefuse bad hbad
  have hallUsable : AllUsable good := husable.mp ⟨_, rfl, rfl⟩
  have hrefused : FirstRefused bad (.badWeaponId 18 1) := by
    refine ⟨1, [.armor, .shields], .weapons, [.lockpicking], by decide, fun j hj q => ?_, rfl,
      fun q hq => ?_, Or.inr ⟨[], 18, [], ⟨by decide, rfl⟩, nofun, by simp [IsWeaponId], rfl⟩⟩
    · obtain rfl := Nat.lt_one_iff.mp hj
      cases q with
      | armor => exact hallUsable 0 (by decide) .armor
      | shields => exact hallUsable 0 (by decide) .shields
      | weapons => exact hallUsable 0 (by decide) .weapons
      | lockpicking => exact hallUsable 0 (by decide) .lockpicking
    · rcases List.mem_pair.mp hq with rfl | rfl
      · exact hallUsable 1 (by decide) .armor
      · exact hallUsable 1 (by decide) .shields
  have hmessage : (Fault.badWeaponId 18 1).hasMessage = true := by
    rw [Fault.hasMessage_iff]
    intro n hn
    rcases List.mem_pair.mp hn with rfl | rfl
    · exact Text.shows_of_lt (by decide)
    · exact Text.shows_of_lt (by decide)
  refine ⟨⟨hgood, hallUsable, _, _, rfl, rfl, hjoins _ rfl 0 _ rfl, rfl, rfl,
    by decide⟩, hbad, hcause.mpr ⟨_, hrefused⟩, hrefused, ?_⟩
  exact (hfirst _).mpr ⟨_, hrefused, (Fault.reported_of_hasMessage hmessage).symm⟩

/-- Lists in each other, and in the innermost nothing. -/
def nested : Nat → Json.Value
  | 0 => .list []
  | n + 1 => .list [nested n]

theorem depth_nested (n : Nat) : (nested n).depth = n + 1 := by
  induction n with
  | zero => rfl
  | succ n ih =>
    show max (nested n).depth 0 + 1 = n + 1 + 1
    rw [ih, Nat.max_zero]

/-- An armor code of a thousand lists in each other is not found malformed, nor are there tables, if
fewer steps inwards than that are taken. -/
theorem document_of_nested_armor :
    let ones : Json.Value := .list (List.replicate 18 (.int 1))
    let document : Json.Value := .object [(SideData.rootKey, .object [
      ("class_names".toList, ones), ("preferred_attributes".toList, ones),
      ("allowed_armors".toList, .list (nested 999 :: List.replicate 17 (.int 1)))])]
    ¬ ∃ levels, 0 < levels ∧ levels < 1000 ∧
      (Fails .malformedRecord (SideData.ofValue levels document) ∨
        ∃ d, SideData.ofValue levels document = .ok d) := by
  intro ones document
  rintro ⟨levels, hpos, hfew, h⟩
  refine SideData.ofValue_malformed_or_ok_iff.mp h ?_
  have hshown : (Json.Value.int 1).CanBeShown levels := by
    refine ⟨hpos, fun n hn => ?_⟩
    rw [List.mem_singleton.mp hn]
    exact Text.shows_of_lt (by decide)
  have hones {tables : Json.Value} {column : String} (h : tables.get? column.toList = some ones) :
      SideData.Readable levels tables (column, .texts) := by
    refine ⟨(List.replicate 18 (.int 1)).map Json.Value.plain, rfl, _, h, ?_⟩
    rw [List.forall₂_map_right_iff, List.forall₂_same]
    intro v hv
    rw [List.eq_of_mem_replicate hv]
    exact ⟨Or.inr hshown, rfl⟩
  refine ⟨_, [("class_names", .texts), ("preferred_attributes", .texts)],
    ("allowed_armors", .ints), _, rfl, rfl, ?_, ?_⟩
  · simp only [List.forall_mem_cons, List.not_mem_nil, false_imp_iff, implies_true, and_true]
    exact ⟨hones rfl, hones rfl⟩
  · refine ⟨[], nested 999, List.replicate 17 (.int 1), rfl, rfl, nofun, fun hcan => ?_⟩
    have hdepth := hcan.depth
    rw [depth_nested] at hdepth
    omega

end ClassDefinition

end ArenaData
