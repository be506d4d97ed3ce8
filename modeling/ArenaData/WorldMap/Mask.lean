import ArenaData.Bytes.Basic
import ArenaData.WorldMap.Rect

/-!
# Province masks

The world map tells which province was clicked by a mask for each province and one for the "Exit"
button. A mask covers a rectangle of the screen with one bit for each pixel, row by row, the
leftmost pixel in the highest bit; each row takes whole bytes. The ten masks lie one after the other
in their file, from a fixed offset on.
-/

namespace ArenaData

/-- The number of bytes for a row of `width` pixels: eight pixels to a byte, rounded up. -/
def paddedWidth (width : Int) : Int := (width + 7) / 8

/-- The number of bytes for a mask. -/
def maskSize (r : Rect) : Int := paddedWidth r.width * r.height

/-- The mask of a region of the screen. -/
structure Mask where
  /-- The pixels, row by row. -/
  data : Bytes
  /-- The region. -/
  rect : Rect
  /-- The region is the "Exit" button. -/
  isExit : Bool
  /-- The data fills the region. -/
  size_eq : (data.length : Int) = maskSize rect

namespace Mask

/-- The mask of a region, if the data fills it. -/
def ofData (data : Bytes) (rect : Rect) (isExit : Bool) : Except Fault Mask :=
  if h : (data.length : Int) = maskSize rect then .ok ⟨data, rect, isExit, h⟩
  else .error (Fault.badMaskSize rect (maskSize rect) data.length).reported

/-- Bit `column` of a row of bytes, counted from the highest bit of the first byte. -/
def bitAt (row : Bytes) (column : Nat) : Bool :=
  ((row[column / 8]?).getD 0).toNat >>> (7 - column % 8) % 2 == 1

/-- The pixel of the screen belongs to the region. -/
def get (m : Mask) (x y : Int) : Bool :=
  if m.rect.contains x y then
    let column := (x - m.rect.x).toNat
    let row := (y - m.rect.y).toNat
    bitAt (m.data.drop (row * (paddedWidth m.rect.width).toNat)) column
  else false

/-- The bits of a byte, the highest one first. -/
def bits (b : UInt8) : List Bool := (List.range 8).map fun i => b.toNat >>> (7 - i) % 2 == 1

/-- The pixels of the rows of a mask, `count` rows of `width` pixels each, for which there are
`padded` bytes. -/
def rowsFrom (width padded : Nat) : (count : Nat) → Bytes → List (List Bool)
  | 0, _ => []
  | count + 1, data =>
    ((data.take padded).flatMap bits).take width :: rowsFrom width padded count (data.drop padded)

/-- The sides of a picture stay below this. -/
def sideBound : Int := 0x80000000

/-- The width of the widest picture that there is room for. -/
def maxWidth : Int := 0x1FFFFFFE

/-- The mask as a picture: its rows from the top down, true for pixels of the region. A region with
a negative side has no picture, and neither has one with too large a side. -/
def rows (m : Mask) : Except Fault (List (List Bool)) :=
  if m.rect.width < 0 ∨ m.rect.height < 0 then .error .negativeImage
  else if sideBound ≤ m.rect.width ∨ sideBound ≤ m.rect.height then .error .imageTooLarge
  else if maxWidth < m.rect.width then .error .imageTooWide
  else .ok (rowsFrom m.rect.width.toNat (paddedWidth m.rect.width).toNat m.rect.height.toNat m.data)

/-- The regions of the masks, the "Exit" button last. -/
def regions : List Rect := [
  ⟨37, 32, 86, 57⟩, ⟨47, 53, 90, 62⟩, ⟨113, 29, 88, 53⟩, ⟨190, 31, 102, 93⟩, ⟨31, 131, 65, 52⟩,
  ⟨100, 118, 61, 55⟩, ⟨144, 119, 50, 57⟩, ⟨204, 116, 67, 67⟩, ⟨103, 72, 131, 84⟩,
  ⟨279, 188, 37, 11⟩]

/-- The place of the "Exit" button among the regions. -/
def exitIndex : Nat := 9

/-- The offset of the first mask in its file. -/
def dataOffset : Nat := 0x87D5

/-- The masks of the regions that are given with their places, from an offset of the file on. -/
def decodeFrom (data : Bytes) (source : Text) (offset : Int) :
    List (Rect × Nat) → Except Fault (List Mask)
  | [] => .ok []
  | (rect, index) :: rest => do
    let bytes ← Bytes.read data offset (maskSize rect) source
    let mask ← ofData bytes rect (index == exitIndex)
    let others ← decodeFrom data source (offset + maskSize rect) rest
    pure (mask :: others)

/-- The ten masks of a file. -/
def decodeAll (data : Bytes) (source : Text) : Except Fault (List Mask) :=
  decodeFrom data source dataOffset regions.zipIdx

end Mask

end ArenaData
