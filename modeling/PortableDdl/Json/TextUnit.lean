/-!
# The texts of a document

A text stands between quotation marks. Quotation marks, backslashes and control
characters are escaped; other characters may be, by the four hexadecimal digits
of a code unit. A character beyond the first 65536 then takes two code units,
the halves of a surrogate pair.
-/

namespace PortableDdl.Json

/-- What a character or an escape in a text stands for. -/
inductive TextUnit where
  | char (c : Char)
  /-- Half of a surrogate pair. -/
  | half (code : Nat)
deriving DecidableEq, Repr

/-- Whether a code unit is the first half of a pair. -/
def isHighHalf (n : Nat) : Bool := 0xD800 ≤ n && n < 0xDC00

/-- Whether a code unit is the second half of a pair. -/
def isLowHalf (n : Nat) : Bool := 0xDC00 ≤ n && n < 0xE000

/-- What an escaped code unit stands for. -/
def TextUnit.ofCode (n : Nat) : TextUnit :=
  if isHighHalf n || isLowHalf n then .half n else .char (Char.ofNat n)

/-- The character of a pair. -/
def pairedChar (high low : Nat) : Char :=
  Char.ofNat (0x10000 + (high - 0xD800) * 0x400 + (low - 0xDC00))

/-- The text of a row of units, if every half belongs to a pair. -/
def charsOfUnits? : List TextUnit → Option (List Char)
  | [] => some []
  | .char c :: rest => (charsOfUnits? rest).map (c :: ·)
  | .half h :: .half l :: rest =>
    if isHighHalf h && isLowHalf l then (charsOfUnits? rest).map (pairedChar h l :: ·) else none
  | .half _ :: _ => none

/-- The value of a hexadecimal digit. -/
def hexDigit? (c : Char) : Option Nat :=
  if c.isDigit then some (c.toNat - 48)
  else if 'a' ≤ c && c ≤ 'f' then some (c.toNat - 87)
  else if 'A' ≤ c && c ≤ 'F' then some (c.toNat - 55)
  else none

/-- The characters with an escape of one letter, and the letter. -/
def letterEscapes : List (Char × Char) :=
  [('"', '"'), ('\\', '\\'), ('/', '/'), ('\x08', 'b'), ('\x0c', 'f'), ('\n', 'n'), ('\r', 'r'),
   ('\t', 't')]

/-- The character that a letter behind a backslash stands for. -/
def unescaped? (letter : Char) : Option Char :=
  (letterEscapes.find? (·.2 == letter)).map (·.1)

/-- The lower-case hexadecimal digit of a number below sixteen. -/
def hexDigit (n : Nat) : Char := Char.ofNat (if n < 10 then 48 + n else 87 + n)

/-- Whether a character cannot stand in a text as it is. -/
def needsEscape (c : Char) : Bool := c == '"' || c == '\\' || c.toNat < 0x20

/-- A character as it is written in a text. -/
def escaped (c : Char) : List Char :=
  if needsEscape c then
    match letterEscapes.find? (·.1 == c) with
    | some e => ['\\', e.2]
    | none => ['\\', 'u', '0', '0', hexDigit (c.toNat / 16), hexDigit (c.toNat % 16)]
  else [c]

/-- What stands between the quotation marks of a text. -/
def textBody : Option String → List Char
  | some s => s.toList.flatMap escaped
  | none => ['\\', 'u', 'd', '8', '0', '0']

end PortableDdl.Json
