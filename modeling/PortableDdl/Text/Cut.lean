/-!
# Cutting a text in two

A text is cut at the first or at the last place where a character stands; the
character itself belongs to neither part.
-/

namespace PortableDdl.Text

/-- The parts before and after the first `sep`. -/
def cutFirst? (sep : Char) : List Char → Option (List Char × List Char)
  | [] => none
  | c :: cs => if c = sep then some ([], cs) else (cutFirst? sep cs).map fun p => (c :: p.1, p.2)

/-- The parts before and after the last `sep`. -/
def cutLast? (sep : Char) : List Char → Option (List Char × List Char)
  | [] => none
  | c :: cs =>
    match cutLast? sep cs with
    | some p => some (c :: p.1, p.2)
    | none => if c = sep then some ([], cs) else none

end PortableDdl.Text
