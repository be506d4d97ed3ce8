import ArenaData.CharacterClass.Flags
import ArenaData.CharacterClass.SideData
import ArenaData.Question

/-!
# Class definitions

A character class is put together from row `i` of every table of the executable. The tables refer to
each other by index and to armor, shields and weapons by id; a reference that leads nowhere makes
the class, and with it all classes, unusable. Of several faults the one of the first class counts,
and within it armor comes before shields, weapons and lockpicking. A fault shows the number that
leads nowhere, which may be an integer of any size.
-/

namespace ArenaData

/-- The materials that armor is made of. -/
inductive ArmorMaterial where
  /-- Leather armor. -/
  | leather
  /-- Chain mail. -/
  | chain
  /-- Plate armor. -/
  | plate
  deriving DecidableEq, Repr

/-- The name of a material. -/
def ArmorMaterial.name : ArmorMaterial → String
  | leather => "Leather"
  | chain => "Chain"
  | plate => "Plate"

/-- The kinds of shields. -/
inductive Shield where
  /-- The smallest shield. -/
  | buckler
  /-- A round shield. -/
  | round
  /-- A kite shield. -/
  | kite
  /-- The largest shield. -/
  | tower
  deriving DecidableEq, Repr

/-- The name of a kind of shield. -/
def Shield.name : Shield → String
  | buckler => "Buckler"
  | round => "Round"
  | kite => "Kite"
  | tower => "Tower"

/-- A playable character class. -/
structure ClassDefinition where
  /-- Its name. -/
  name : Text
  /-- The attributes it prefers. -/
  preferredAttributes : Text
  /-- The armor it may wear. -/
  allowedArmors : List ArmorMaterial
  /-- The shields it may carry. -/
  allowedShields : List Shield
  /-- The ids of the weapons it may wield. -/
  allowedWeapons : List Int
  /-- The category it belongs to. -/
  category : ClassCategory
  /-- Its skill at picking locks, in hundredths. -/
  lockpicking : Nat
  /-- The sides of the die for its health. -/
  healthDie : Int
  /-- The experience it needs for its second level. -/
  initialExperienceCap : Int
  /-- Its id and abilities. -/
  flags : ClassFlags
  deriving DecidableEq, Repr

namespace ClassDefinition

/-- The index that stands for everything. -/
def everything : Int := -1

/-- The armor of a tier, from the one that allows most to the one that allows none. -/
def armorTiers : List (List ArmorMaterial) :=
  [[.leather, .chain, .plate], [.leather, .chain], [.leather], []]

/-- All shields, by id from the first shield id on. -/
def allShields : List Shield := [.buckler, .round, .kite, .tower]

/-- The id of the first shield; the lower ones are armor. -/
def firstShieldId : Int := 7

/-- The number of weapons, whose ids count from 0. -/
def weaponCount : Nat := 18

/-- The ids of all weapons. -/
def allWeapons : List Int := (List.range weaponCount).map Int.ofNat

/-- The entry at an index that may be negative or too large; then there is none. -/
def entry? {α : Type} (items : List α) (index : Int) : Option α :=
  if 0 ≤ index then items[index.toNat]? else none

/-- The armor of a tier code. -/
def armorsFor (code : Int) : Except Fault (List ArmorMaterial) :=
  match entry? armorTiers code with
  | some armors => .ok armors
  | none => .error (Fault.badArmorCode code).reported

/-- The shield of an id in list `index`. -/
def shieldOf (index id : Int) : Except Fault Shield :=
  match entry? allShields (id - firstShieldId) with
  | some shield => .ok shield
  | none => .error (Fault.badShieldId id index).reported

/-- The shields of a list, by its index. -/
def shieldsFor (index : Int) (lists : List (List Int)) : Except Fault (List Shield) :=
  if index = everything then .ok allShields
  else match entry? lists index with
    | some ids => ids.mapM (shieldOf index)
    | none => .error (Fault.badShieldIndex index).reported

/-- The weapon of an id in list `index`: the id itself. -/
def weaponOf (index id : Int) : Except Fault Int :=
  if 0 ≤ id ∧ id < weaponCount then .ok id else .error (Fault.badWeaponId id index).reported

/-- The weapons of a list, by its index. -/
def weaponsFor (index : Int) (lists : List (List Int)) : Except Fault (List Int) :=
  if index = everything then .ok allWeapons
  else match entry? lists index with
    | some ids => ids.mapM (weaponOf index)
    | none => .error (Fault.badWeaponIndex index).reported

/-- The category of a class by its place: six mages, six thieves, six warriors. -/
def categoryFor (place : Int) : ClassCategory :=
  if place < 6 then .mage else if place < 12 then .thief else .warrior

/-- The lockpicking skill of a divisor, in hundredths: 200 divided by it, without remainder. -/
def lockpickingFor (divisor : Int) : Except Fault Nat :=
  if divisor ≤ 0 then .error (Fault.badLockpickingDivisor divisor).reported
  else .ok (200 / divisor.toNat)

/-- The entries of all tables for one class. -/
structure Row where
  /-- The place of the class. -/
  place : Nat
  /-- Its name. -/
  name : Text
  /-- The attributes it prefers. -/
  preferredAttributes : Text
  /-- Its armor tier. -/
  armorCode : Int
  /-- Its index into the shield lists. -/
  shieldIndex : Int
  /-- Its index into the weapon lists. -/
  weaponIndex : Int
  /-- Its flag number. -/
  flagNumber : Int
  /-- Its experience cap. -/
  experienceCap : Int
  /-- Its health die. -/
  healthDie : Int
  /-- Its lockpicking divisor. -/
  divisor : Int

/-- Row `place` of the tables; where a table is too short, empty texts and zeros stand in. -/
def row (d : SideData) (place : Nat) : Row where
  place := place
  name := (d.classNames[place]?).getD []
  preferredAttributes := (d.preferredAttributes[place]?).getD []
  armorCode := (d.allowedArmors[place]?).getD 0
  shieldIndex := (d.allowedShieldsIndices[place]?).getD 0
  weaponIndex := (d.allowedWeaponsIndices[place]?).getD 0
  flagNumber := (d.classNumbersToIds[place]?).getD 0
  experienceCap := (d.initialExperienceCaps[place]?).getD 0
  healthDie := (d.healthDice[place]?).getD 0
  divisor := (d.lockpickingDivisors[place]?).getD 0

/-- The class of a row. -/
def ofRow (d : SideData) (r : Row) : Except Fault ClassDefinition := do
  let armors ← armorsFor r.armorCode
  let shields ← shieldsFor r.shieldIndex d.allowedShieldsLists
  let weapons ← weaponsFor r.weaponIndex d.allowedWeaponsLists
  let lockpicking ← lockpickingFor r.divisor
  pure {
    name := r.name
    preferredAttributes := r.preferredAttributes
    allowedArmors := armors
    allowedShields := shields
    allowedWeapons := weapons
    category := categoryFor r.place
    lockpicking := lockpicking
    healthDie := r.healthDie
    initialExperienceCap := r.experienceCap
    flags := ClassFlags.ofInt r.flagNumber }

/-- The 18 classes of the game. -/
def all (d : SideData) : Except Fault (List ClassDefinition) :=
  (List.range SideData.classCount).mapM fun place => ofRow d (row d place)

end ClassDefinition

end ArenaData
