/-!
# Text

The game's texts, and the names under which its files are stored, are sequences of characters.
They are kept as lists, the form in which every rule on them is stated; `Text.string` is for
messages and output.
-/

namespace ArenaData

/-- A sequence of characters. -/
abbrev Text := List Char

namespace Text

/-- The text as a string. -/
def string (t : Text) : String := String.ofList t

/-- The number of bytes of the text in UTF-8. -/
def utf8Size (t : Text) : Nat := t.foldl (fun n c => n + c.utf8Size) 0

/-- `n` in decimal. -/
def ofNat (n : Nat) : Text := Nat.toDigits 10 n

/-- `n` in decimal, with a minus sign if it is negative. -/
def ofInt (n : Int) : Text := if n < 0 then '-' :: ofNat n.natAbs else ofNat n.natAbs

/-- The number of digits up to which integers and their texts are turned into each other. -/
def maxDigits : Nat := 4300

/-- The integer has a text that can be shown: it does not have too many digits. -/
def shows (n : Int) : Bool := n.natAbs < Nat.pow 10 maxDigits

/-- `t` with `fill` put in front until it has at least `width` characters. -/
def padLeft (fill : Char) (width : Nat) (t : Text) : Text :=
  List.replicate (width - t.length) fill ++ t

/-- `t` with `fill` put behind until it has at least `width` characters. -/
def padRight (fill : Char) (width : Nat) (t : Text) : Text :=
  t ++ List.replicate (width - t.length) fill

/-- The text with its first occurrence of `needle` replaced; unchanged if there is none. -/
def replaceFirst (needle replacement : Text) : Text → Text
  | [] => if needle.isEmpty then replacement else []
  | c :: rest =>
    if needle.isPrefixOf (c :: rest) then replacement ++ (c :: rest).drop needle.length
    else c :: replaceFirst needle replacement rest

/-- Some end of the text, the text itself and the empty one included, is as asked for. -/
def anyEnd (p : Text → Bool) : Text → Bool
  | [] => p []
  | c :: rest => p (c :: rest) || anyEnd p rest

/-- The texts one after the other, `separator` between any two. -/
def joinWith (separator : Text) : List Text → Text
  | [] => []
  | t :: rest => t ++ rest.flatMap (separator ++ ·)

/-- Comparison by code points; a text comes before its extensions. -/
def le : Text → Text → Bool
  | [], _ => true
  | _ :: _, [] => false
  | c :: s, d :: t => if c = d then le s t else c.toNat < d.toNat

end Text

end ArenaData
