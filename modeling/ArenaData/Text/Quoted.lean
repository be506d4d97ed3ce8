import ArenaData.Text.Printable

/-!
# Quoted text

A message that repeats a piece of input shows it in quotes. The quote is a single one unless the
text contains single quotes and no double ones. Inside, the quote and the backslash are marked by a
backslash, and a character that is not printable is given by its number: two, four or eight
hexadecimal digits, whichever is the least that holds it.
-/

namespace ArenaData.Text

/-- The single quote. -/
def singleQuote : Char := '\x27'

/-- The double quote. -/
def doubleQuote : Char := '\x22'

/-- The quote that goes around a text. -/
def quoteFor (t : Text) : Char :=
  if t.contains singleQuote && !t.contains doubleQuote then doubleQuote else singleQuote

/-- `n` in lower-case hexadecimal, with at least `width` digits. -/
def hex (width n : Nat) : Text := padLeft '0' width (Nat.toDigits 16 n)

/-- A character given by its number. -/
def escaped (c : Char) : Text :=
  let n := c.toNat
  if n < 0x100 then '\\' :: 'x' :: hex 2 n
  else if n < 0x10000 then '\\' :: 'u' :: hex 4 n
  else '\\' :: 'U' :: hex 8 n

/-- A character as it stands between quotes of the given kind. -/
def quotedChar (quote c : Char) : Text :=
  if c = quote ∨ c = '\\' then ['\\', c]
  else if c = '\t' then ['\\', 't']
  else if c = '\n' then ['\\', 'n']
  else if c = '\r' then ['\\', 'r']
  else if isPrintable c then [c]
  else escaped c

/-- The text in quotes. -/
def quoted (t : Text) : Text :=
  let quote := quoteFor t
  quote :: (t.flatMap (quotedChar quote) ++ [quote])

/-- The text with every character beyond ASCII given by its number. -/
def ascii (t : Text) : Text := t.flatMap fun c => if c.toNat < 0x80 then [c] else escaped c

/-- The text in quotes, with every character beyond ASCII given by its number. -/
def quotedAscii (t : Text) : Text := t.quoted.ascii

end ArenaData.Text
