import InputBindings.Text.Printable

/-!
# Quoted text

The quoted form of a text stands between single quotes, or between double quotes if the text holds
a single quote and no double one. The quote in use and the backslash are escaped, and so is every
character that does not print, by its code point in two, four or eight hexadecimal digits. Bytes
are quoted like the text of the code points below 128, with a letter in front, and all other bytes
are escaped.
-/

namespace InputBindings.Text

/-- A hexadecimal digit below sixteen. -/
def hexDigit (n : Nat) : Char :=
  if n < 10 then Char.ofNat (0x30 + n) else Char.ofNat (0x57 + n)

/-- The lowest `width` hexadecimal digits of a number. -/
def hexDigits : Nat → Nat → List Char
  | 0, _ => []
  | width + 1, n => hexDigits width (n / 16) ++ [hexDigit (n % 16)]

/-- The quote that a text is written in. -/
def quoteMark (cs : List Char) : Char :=
  if cs.contains '\'' && !cs.contains '"' then '"' else '\''

/-- A character as it stands between the quotes `mark`. -/
def quoteChar (mark c : Char) : List Char :=
  if c = mark ∨ c = '\\' then ['\\', c]
  else if c = '\n' then ['\\', 'n']
  else if c = '\r' then ['\\', 'r']
  else if c = '\t' then ['\\', 't']
  else if isPrintable c then [c]
  else if c.toNat < 0x100 then '\\' :: 'x' :: hexDigits 2 c.toNat
  else if c.toNat < 0x10000 then '\\' :: 'u' :: hexDigits 4 c.toNat
  else '\\' :: 'U' :: hexDigits 8 c.toNat

/-- The quoted form of a text. -/
def quoted (s : String) : String :=
  let mark := quoteMark s.toList
  String.ofList (mark :: s.toList.flatMap (quoteChar mark) ++ [mark])

/-- A byte as it stands between the quotes `mark`. -/
def quoteByte (mark : Char) (b : UInt8) : List Char :=
  if b.toNat < 0x80 then quoteChar mark (Char.ofNat b.toNat)
  else '\\' :: 'x' :: hexDigits 2 b.toNat

/-- The quoted form of some bytes. -/
def quotedBytes (bs : List UInt8) : String :=
  let mark := quoteMark (bs.map fun b => Char.ofNat b.toNat)
  String.ofList ('b' :: mark :: bs.flatMap (quoteByte mark) ++ [mark])

end InputBindings.Text
