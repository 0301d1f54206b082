import PortableDdl.Error

/-!
# Reading files

Files are read whole. Where they come from does not matter to those who read
them: from the disk, or from a directory that is held in memory.
-/

namespace PortableDdl

/-- What there is to read under a path. -/
abbrev Files := String → Except ReadFault ByteArray

/-- The text in a file. -/
def Files.readText (files : Files) (path : String) : Except ReadFault String :=
  match files path with
  | .ok bytes =>
    match String.fromUTF8? bytes with
    | some s => .ok s
    | none => .error .notUtf8
  | .error fault => .error fault

end PortableDdl
