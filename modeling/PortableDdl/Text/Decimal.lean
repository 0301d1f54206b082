/-!
# Decimal numbers below 2³²

The numbers that limits are made of, read from and written in decimal.
-/

namespace PortableDdl.Text

/-- The number written in digits alone, if there is a digit. -/
def digits? (cs : List Char) : Option Nat :=
  if !cs.isEmpty && cs.all Char.isDigit then some (Nat.ofDigitChars 10 cs 0) else none

/-- A number as a 32-bit word, if it fits. -/
def word32? (n : Nat) : Option UInt32 :=
  if h : n < UInt32.size then some (UInt32.ofNatLT n h) else none

/-- The 32-bit word written in digits alone. -/
def digits32? (cs : List Char) : Option UInt32 := (digits? cs).bind word32?

/-- The 32-bit word written in digits after an optional sign. Behind a minus
    only zero fits. -/
def signed32? : List Char → Option UInt32
  | '+' :: cs => digits32? cs
  | '-' :: cs => (digits32? cs).bind fun n => if n = 0 then some 0 else none
  | cs => digits32? cs

/-- A word in decimal. -/
def decimal (n : UInt32) : String := n.toNat.repr

end PortableDdl.Text
