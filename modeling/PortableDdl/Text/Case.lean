import PortableDdl.Text.Case.Mapping
import PortableDdl.Text.Case.Property

/-!
# Case conversion

Whole texts in upper and in lower case. A character may become several. The
only rule that looks at the neighbours is that of the sigma, whose form at the
end of a word is its own.
-/

namespace PortableDdl.Text

/-- Every character in upper case. -/
def upperChars (cs : List Char) : List Char := cs.flatMap upperChar

/-- Whether the first character that is not passed over has case. -/
def startsCased (cs : List Char) : Bool :=
  match cs.find? fun c => !isCaseIgnorable c with
  | some c => isCased c
  | none => false

/-- Whether a place ends a word: a cased character before it and none after it.
    The characters before it are given from right to left. -/
def endsWord (before after : List Char) : Bool := startsCased before && !startsCased after

/-- The characters in lower case, after those in `before` (right to left). -/
def lowerCharsAfter (before : List Char) : List Char → List Char
  | [] => []
  | c :: rest =>
    (if c = 'Σ' then [if endsWord before rest then 'ς' else 'σ'] else lowerChar c) ++
      lowerCharsAfter (c :: before) rest

/-- Every character in lower case, a sigma in the form that its place asks for. -/
def lowerChars (cs : List Char) : List Char := lowerCharsAfter [] cs

/-- A text in upper case. -/
def upper (s : String) : String := String.ofList (upperChars s.toList)

/-- A text in lower case. -/
def lower (s : String) : String := String.ofList (lowerChars s.toList)

end PortableDdl.Text
