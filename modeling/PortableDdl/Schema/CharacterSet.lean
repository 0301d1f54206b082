/-!
# Character sets

How the text of a column is to be encoded: as a request, and as what a dialect
makes of it.
-/

namespace PortableDdl

/-- A request for an encoding. Where none is made, the database decides. -/
inductive CharacterSet where
  /-- Unicode, however the database stores it. -/
  | unicode
  /-- A character set by the name that the database gives it. -/
  | named (name : String)
deriving DecidableEq, Repr

/-- The text of a request. -/
def CharacterSet.display : CharacterSet → String
  | .unicode => "Unicode"
  | .named name => name

/-- An encoding that a dialect can express. -/
inductive TextEncoding where
  /-- That of the database. -/
  | databaseDefault
  /-- That of the national character types. -/
  | national
  /-- A character set written behind the type. -/
  | explicit (name : String)
deriving DecidableEq, Repr

end PortableDdl
