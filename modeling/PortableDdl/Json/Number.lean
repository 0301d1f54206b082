/-!
# The numbers of a document

A number has a whole part without needless zeros, and may have a sign before
it and a fraction and an exponent behind it.
-/

namespace PortableDdl.Json

/-- The characters behind a minus sign, if there is one. -/
def afterMinus : List Char → List Char
  | '-' :: cs => cs
  | cs => cs

/-- The characters behind a sign, if there is one. -/
def afterSign : List Char → List Char
  | '+' :: cs => cs
  | cs => afterMinus cs

/-- Whether there are digits and nothing else. -/
def isDigits (cs : List Char) : Bool := !cs.isEmpty && cs.all Char.isDigit

/-- Whether digits can be the whole part of a number. -/
def isWholePart (cs : List Char) : Bool :=
  isDigits cs && (cs.head? != some '0' || cs.length == 1)

/-- Whether characters can be the exponent of a number, or there are none. -/
def isExponent : List Char → Bool
  | [] => true
  | e :: cs => (e == 'e' || e == 'E') && isDigits (afterSign cs)

/-- Whether characters can follow the whole part of a number. -/
def isNumberTail : List Char → Bool
  | '.' :: cs => isDigits (cs.takeWhile Char.isDigit) && isExponent (cs.dropWhile Char.isDigit)
  | cs => isExponent cs

/-- Whether characters are a number. -/
def isNumber (cs : List Char) : Bool :=
  let unsigned := afterMinus cs
  isWholePart (unsigned.takeWhile Char.isDigit) && isNumberTail (unsigned.dropWhile Char.isDigit)

/-- Whether a number can begin with a character. -/
def startsNumber (c : Char) : Bool := c.isDigit || c == '-'

/-- Whether a character can stand in a number. -/
def continuesNumber (c : Char) : Bool := c.isDigit || ['+', '-', '.', 'e', 'E'].contains c

end PortableDdl.Json
