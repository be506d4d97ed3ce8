import ArenaData.Bytes.Basic

/-!
# Terrain

The terrain map has a byte for each of its 320 by 200 pixels: sea, or one of two values for each of
the three climates. It lies a few pixels beside the masks, so places are looked up with a shift, and
wrap around at the ends of the data. A place in the sea takes the climate of the nearest land above,
below, or to the side of it.
-/

namespace ArenaData

/-- The climates of the world. -/
inductive Climate where
  /-- Temperate land. -/
  | temperate
  /-- Mountains. -/
  | mountain
  /-- Desert. -/
  | desert
  deriving DecidableEq, Repr

/-- The name of a climate. -/
def Climate.name : Climate → String
  | temperate => "Temperate"
  | mountain => "Mountain"
  | desert => "Desert"

/-- The number of columns of the terrain map. -/
def mapWidth : Nat := 320

/-- The number of rows of the terrain map. -/
def mapHeight : Nat := 200

/-- The number of its pixels. -/
def mapSize : Nat := mapWidth * mapHeight

/-- The terrain map, row by row. -/
structure Terrain where
  /-- The terrain bytes. -/
  cells : Array UInt8
  /-- There is one for each pixel. -/
  size_eq : cells.size = mapSize

namespace Terrain

/-- The terrain byte of the sea. -/
def sea : UInt8 := 0

/-- The climate of a terrain value. -/
def climateOf (index : Int) : Except Fault Climate :=
  if index = 254 ∨ index = 251 then .ok .temperate
  else if index = 249 ∨ index = 250 then .ok .mountain
  else if index = 253 ∨ index = 252 then .ok .desert
  else .error (Fault.badTerrain index).reported

/-- The distance of a terrain value from the sea's. -/
def normalizedIndex (index : Int) : Int := index - sea.toNat

/-- The map of the data, if it has a byte for each pixel. -/
def ofData (data : Bytes) : Except Fault Terrain :=
  let cells := data.toArray
  if h : cells.size = mapSize then .ok ⟨cells, h⟩
  else .error (.badTerrainSize mapSize data.length)

/-- The terrain of a pixel. -/
def getAt (t : Terrain) (x y : Int) : Except Fault UInt8 :=
  if 0 ≤ x ∧ x < mapWidth ∧ 0 ≤ y ∧ y < mapHeight then
    .ok ((t.cells[(x + y * mapWidth).toNat]?).getD 0)
  else .error (Fault.offMap x y).reported

/-- How far to the left of a pixel its terrain is looked up. -/
def shift : Int := 12

/-- The place of a pixel's terrain in the data, which goes around. -/
def place (x y : Int) : Nat := ((x + y * mapWidth - shift) % (mapSize : Int)).toNat

/-- The terrain at the place of a pixel. -/
def shiftedAt (t : Terrain) (x y : Int) : UInt8 := (t.cells[place x y]?).getD 0

/-- The four terrains at a distance: below, above, to the right and to the left. -/
def around (t : Terrain) (x y distance : Int) : List UInt8 :=
  [t.shiftedAt x (y + distance), t.shiftedAt x (y - distance),
    t.shiftedAt (x + distance) y, t.shiftedAt (x - distance) y]

/-- The search stays below this distance. -/
def searchDistance : Nat := 200

/-- What stands in for land if there is none near. -/
def lastResort : UInt8 := 254

/-- The first land among the terrains at the distances from `distance` on, `steps` of them. -/
def findLand (t : Terrain) (x y : Int) : (steps distance : Nat) → Option UInt8
  | 0, _ => none
  | steps + 1, distance =>
    match (t.around x y distance).find? (· != sea) with
    | some land => some land
    | none => t.findLand x y steps (distance + 1)

/-- The terrain near a pixel, which is never sea. -/
def failSafeAt (t : Terrain) (x y : Int) : UInt8 :=
  let here := t.shiftedAt x y
  if here != sea then here
  else (t.findLand x y (searchDistance - 1) 1).getD lastResort

/-- The size of the header of the file. -/
def headerSize : Nat := 12

/-- The map of a file. -/
def decode (data : Bytes) (source : Text) : Except Fault Terrain := do
  let bytes ← Bytes.read data headerSize mapSize source
  ofData bytes

end Terrain

end ArenaData
