/-!
# Quoted names and literals

A name stands between two quote characters, and every quote character inside
it is written twice. A literal of MySQL stands between single quotes and
writes its backslashes twice as well.
-/

namespace PortableDdl.Sql

/-- The characters, every one of the given ones written twice. -/
def doubled (special : Char → Bool) (cs : List Char) : List Char :=
  cs.flatMap fun c => if special c then [c, c] else [c]

/-- A name between quote characters. -/
def quotedName (quote : Char) (cs : List Char) : List Char :=
  quote :: (doubled (· == quote) cs ++ [quote])

/-- Whether a character is written twice in a literal. -/
def isLiteralSpecial (c : Char) : Bool := c == '\'' || c == '\\'

/-- A text as a literal. -/
def literal (cs : List Char) : List Char :=
  '\'' :: (doubled isLiteralSpecial cs ++ ['\''])

end PortableDdl.Sql
