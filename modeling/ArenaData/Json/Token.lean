import ArenaData.Json.Numeral

/-!
# Tokens of a JSON text

The characters of a JSON text are read one at a time by a machine whose state, `Reading`, says what
it stands in: between tokens, in a word or numeral, or somewhere in a string. The machine stops at
the first character that its state does not allow. A numeral or word ends where a character comes
that cannot belong to it; a numeral is judged then, and what a word means is left to the reader. A
word may have a minus sign in front of it.
-/

namespace ArenaData.Json

/-- A token. -/
inductive Token where
  /-- `[` -/
  | openList
  /-- `]` -/
  | closeList
  /-- An opening brace. -/
  | openObject
  /-- A closing brace. -/
  | closeObject
  /-- `:` -/
  | colon
  /-- `,` -/
  | comma
  /-- A string, its escapes resolved. -/
  | text (t : Text)
  /-- A numeral. -/
  | numeral (n : Numeral)
  /-- A word, such as `null`. -/
  | word (letters : Text)

/-- What the machine stands in. Characters read so far are kept in reverse. -/
inductive Reading where
  /-- Between tokens. -/
  | between
  /-- A word. -/
  | word (letters : Text)
  /-- A numeral. -/
  | numeral (chars : Text)
  /-- A string. -/
  | string (done : Text)
  /-- A string, after a backslash. -/
  | escape (done : Text)
  /-- A string, in the digits of a `\u` escape: what they denote so far, how many are to come, and
  the high surrogate just before it, if that is so. -/
  | unicode (done : Text) (high : Option Nat) (missing value : Nat)
  /-- A string, after a high surrogate, where the backslash of the low one has to come. -/
  | lowEscape (done : Text) (high : Nat)
  /-- A string, after that backslash. -/
  | lowMark (done : Text) (high : Nat)

/-- Where the machine is: the tokens read, in reverse, and what it stands in. -/
structure Scan where
  /-- The tokens read, the last one first. -/
  tokens : List Token
  /-- What the machine stands in. -/
  reading : Reading

/-- The blanks of JSON: space, tab, line feed and carriage return. -/
def isSeparator (c : Char) : Bool := c == ' ' || c == '\t' || c == '\n' || c == '\r'

/-- A character that may follow the first one of a numeral. -/
def inNumeral (c : Char) : Bool :=
  isPlainDigit c || c == '-' || c == '+' || c == '.' || c == 'e' || c == 'E'

/-- A letter of a word. -/
def isLetter (c : Char) : Bool := ('a' ≤ c && c ≤ 'z') || ('A' ≤ c && c ≤ 'Z')

/-- The token of one character, if it is one. -/
def punctuation? (c : Char) : Option Token :=
  if c = '[' then some .openList
  else if c = ']' then some .closeList
  else if c = '\x7b' then some .openObject
  else if c = '\x7d' then some .closeObject
  else if c = ':' then some .colon
  else if c = ',' then some .comma
  else none

/-- The character that an escape of one letter stands for. -/
def escaped? (c : Char) : Option Char :=
  if c = '\x22' ∨ c = '\\' ∨ c = '/' then some c
  else if c = 'b' then some '\x08'
  else if c = 'f' then some '\x0c'
  else if c = 'n' then some '\n'
  else if c = 'r' then some '\r'
  else if c = 't' then some '\t'
  else none

/-- The value of a hexadecimal digit. -/
def hexValue? (c : Char) : Option Nat :=
  let n := c.toNat
  if isPlainDigit c then some (n - 0x30)
  else if 'a' ≤ c ∧ c ≤ 'f' then some (n - 0x57)
  else if 'A' ≤ c ∧ c ≤ 'F' then some (n - 0x37)
  else none

/-- What follows the digits of a `\u` escape: a surrogate is good only as one of a pair. -/
def afterUnicode (done : Text) (high : Option Nat) (value : Nat) : Option Reading :=
  match high with
  | some high =>
    if 0xDC00 ≤ value ∧ value ≤ 0xDFFF then
      some (.string (Char.ofNat (0x10000 + (high - 0xD800) * 0x400 + (value - 0xDC00)) :: done))
    else none
  | none =>
    if 0xD800 ≤ value ∧ value ≤ 0xDBFF then some (.lowEscape done value)
    else if 0xDC00 ≤ value ∧ value ≤ 0xDFFF then none
    else some (.string (Char.ofNat value :: done))

namespace Scan

/-- The machine before the first character. -/
def start : Scan := ⟨[], .between⟩

/-- The machine with a word or numeral that ends here judged and put among the tokens. -/
def close? (s : Scan) : Option Scan :=
  match s.reading with
  | .between => some s
  | .word letters => some ⟨.word letters.reverse :: s.tokens, .between⟩
  | .numeral chars =>
    (Numeral.ofText? chars.reverse).map fun n => ⟨.numeral n :: s.tokens, .between⟩
  | _ => none

/-- A character between tokens. -/
def begin? (tokens : List Token) (c : Char) : Option Scan :=
  if isSeparator c then some ⟨tokens, .between⟩
  else match punctuation? c with
    | some token => some ⟨token :: tokens, .between⟩
    | none =>
      if c = '\x22' then some ⟨tokens, .string []⟩
      else if c = '-' ∨ isPlainDigit c then some ⟨tokens, .numeral [c]⟩
      else if isLetter c then some ⟨tokens, .word [c]⟩
      else none

/-- One character. -/
def step? (s : Scan) (c : Char) : Option Scan :=
  match s.reading with
  | .between => begin? s.tokens c
  | .word letters =>
    if isLetter c then some { s with reading := .word (c :: letters) }
    else do begin? (← s.close?).tokens c
  | .numeral chars =>
    if chars = ['-'] ∧ isLetter c then some { s with reading := .word (c :: chars) }
    else if inNumeral c then some { s with reading := .numeral (c :: chars) }
    else do begin? (← s.close?).tokens c
  | .string done =>
    if c = '\x22' then some ⟨.text done.reverse :: s.tokens, .between⟩
    else if c = '\\' then some { s with reading := .escape done }
    else if c.toNat < 0x20 then none
    else some { s with reading := .string (c :: done) }
  | .escape done =>
    if c = 'u' then some { s with reading := .unicode done none 4 0 }
    else (escaped? c).map fun meant => { s with reading := .string (meant :: done) }
  | .unicode done high missing value => do
    let value := 16 * value + (← hexValue? c)
    if missing ≤ 1 then
      let reading ← afterUnicode done high value
      pure { s with reading := reading }
    else pure { s with reading := .unicode done high (missing - 1) value }
  | .lowEscape done high =>
    if c = '\\' then some { s with reading := .lowMark done high } else none
  | .lowMark done high =>
    if c = 'u' then some { s with reading := .unicode done (some high) 4 0 } else none

end Scan

/-- The tokens of a text; nothing if it has none that make it up. -/
def tokens? (t : Text) : Option (List Token) := do
  let last ← t.foldlM Scan.step? Scan.start
  let closed ← last.close?
  pure closed.tokens.reverse

end ArenaData.Json
