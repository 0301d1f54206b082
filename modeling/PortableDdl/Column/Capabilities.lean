import PortableDdl.Error
import PortableDdl.Schema.Limit

/-!
# Capabilities of a column type

What a concrete type takes beside its name: a default value, and a limit of
one of the two kinds. The capabilities alone decide whether a limit or a
default is accepted.
-/

namespace PortableDdl

/-- How a type treats a limit. -/
inductive LimitSupport where
  | unsupported
  /-- The type stands with or without one. -/
  | optional
  | required
deriving DecidableEq, Repr

/-- The kind of limit that a type takes. -/
inductive LimitKind where
  | length
  /-- A precision, with or without a scale. -/
  | precision
deriving DecidableEq, Repr

/-- What a type takes beside its name. -/
structure Capabilities where
  acceptsDefault : Bool
  limit : LimitSupport
  limitKind : LimitKind
deriving DecidableEq, Repr

namespace Capabilities

/-- Nothing is accepted. -/
def bare : Capabilities := ⟨false, .unsupported, .length⟩

/-- A default value is accepted too. -/
def withDefault (c : Capabilities) : Capabilities := { c with acceptsDefault := true }

/-- A length is treated as given. -/
def withLength (c : Capabilities) (support : LimitSupport) : Capabilities :=
  { c with limit := support, limitKind := .length }

/-- A precision is treated as given. -/
def withPrecision (c : Capabilities) (support : LimitSupport) : Capabilities :=
  { c with limit := support, limitKind := .precision }

/-- A default value is accepted, and nothing else. -/
def scalar : Capabilities := bare.withDefault

/-- What is wrong with a limit, for a type that takes limits of a kind. -/
def limitFault? (kind : LimitKind) : Limit → Option LimitFault
  | .length n =>
    if kind = .precision then some .precisionExpected else if n = 0 then some .zero else none
  | .precision p s =>
    if kind = .length then some .lengthExpected
    else if p = 0 then some .zero
    else if s.any (p < ·) then some .scaleExceedsPrecision
    else none

/-- Whether a type of the given name accepts a limit, and else why not. -/
def checkLimit (c : Capabilities) (type : String) (l : Limit) : Except DdlError Unit :=
  if c.limit = .unsupported then .error (.limitNotSupported type)
  else
    match limitFault? c.limitKind l with
    | some fault => .error (.invalidLimit type fault)
    | none => .ok ()

/-- Whether a type of the given name accepts a default value, and else why not. -/
def checkDefault (c : Capabilities) (type : String) : Except DdlError Unit :=
  if c.acceptsDefault then .ok () else .error (.defaultNotSupported type)

end Capabilities

end PortableDdl
