import PortableDdl.Text.Decimal

/-!
# Limits

The numbers in parentheses behind a type.
-/

namespace PortableDdl

/-- A length, or a number of digits. -/
inductive Limit where
  /-- A number of characters or bytes. -/
  | length (n : UInt32)
  /-- A number of digits, and how many of them stand behind the point. -/
  | precision (digits : UInt32) (scale : Option UInt32)
deriving DecidableEq, Repr

/-- A limit as it stands behind a type. -/
def Limit.sql : Limit → String
  | .length n => "(" ++ Text.decimal n ++ ")"
  | .precision p (some s) => "(" ++ Text.decimal p ++ ", " ++ Text.decimal s ++ ")"
  | .precision p none => "(" ++ Text.decimal p ++ ")"

end PortableDdl
