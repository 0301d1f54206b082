import PortableDdl.Sql.Quoted

/-!
# Statements

A statement is kept as the pieces that it is made of until the very end, so
that a name is never confused with the words around it. Only `text` writes it
down.
-/

namespace PortableDdl.Sql

/-- A piece of a statement. -/
inductive Fragment where
  /-- Words that stand as they are. -/
  | words (text : String)
  /-- A name, in the case in which the database stores it. -/
  | name (stored : String)
  | literal (value : String)
deriving DecidableEq, Repr

/-- The characters of a piece, with the quote character of names. -/
def Fragment.chars (quote : Char) : Fragment → List Char
  | .words t => t.toList
  | .name n => quotedName quote n.toList
  | .literal v => Sql.literal v.toList

/-- A statement or a part of one. -/
abbrev Statement := List Fragment

namespace Statement

/-- The characters of a statement. -/
def chars (quote : Char) (s : Statement) : List Char := s.flatMap (Fragment.chars quote)

/-- A statement as text, with the quote character of names. -/
def text (quote : Char) (s : Statement) : String := String.ofList (s.chars quote)

/-- The parts with the same words between any two of them. -/
def separated (words : String) (parts : List Statement) : Statement :=
  List.intercalate [.words words] parts

end Statement

end PortableDdl.Sql
