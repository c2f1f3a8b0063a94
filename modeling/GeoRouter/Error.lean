import GeoRouter.Buffer.Basic

/-!
# Reasons of refusals

Reading a header fails for a reason of its own, and so does an operation of the router. Each reason
has a name and a text.
-/

namespace GeoRouter

/-- Why octets are not a packet. -/
inductive WireError where
  /-- Fewer octets than the headers or their payload length announce. -/
  | truncated
  /-- A type of header that is not known. -/
  | unrecognized
  /-- Headers that contradict themselves. -/
  | malformed
  /-- A version or a security layer that is known but not implemented. -/
  | unsupported
  deriving DecidableEq

namespace WireError

def name : WireError → String
  | .truncated => "Truncated"
  | .unrecognized => "Unrecognized"
  | .malformed => "Malformed"
  | .unsupported => "Unsupported"

def all : List WireError := [.truncated, .unrecognized, .malformed, .unsupported]

def ofName? (name : String) : Option WireError := all.find? fun reason => reason.name = name

def message : WireError → String
  | .truncated => "truncated packet"
  | .unrecognized => "unrecognized packet"
  | .malformed => "malformed packet"
  | .unsupported => "unsupported header"

end WireError

/-- Why an operation of the router is refused. -/
inductive OperationError where
  /-- The operation is not allowed or not implemented. -/
  | illegal
  /-- A length that a buffer or a setting does not admit. -/
  | badSize
  /-- No way to the destination. -/
  | unreachable
  /-- No free slot. -/
  | exhausted
  /-- Time or position are not known. -/
  | unavailable
  deriving DecidableEq

namespace OperationError

def name : OperationError → String
  | .illegal => "Illegal"
  | .badSize => "BadSize"
  | .unreachable => "Unreachable"
  | .exhausted => "Exhausted"
  | .unavailable => "Unavailable"

def all : List OperationError := [.illegal, .badSize, .unreachable, .exhausted, .unavailable]

def ofName? (name : String) : Option OperationError :=
  all.find? fun reason => reason.name = name

def message : OperationError → String
  | .illegal => "operation not permitted"
  | .badSize => "buffer has the wrong size"
  | .unreachable => "destination unreachable"
  | .exhausted => "resources exhausted"
  | .unavailable => "management information unavailable"

def ofWire : WireError → OperationError
  | _ => .illegal

def ofSize : SizeError → OperationError
  | .badSize => .badSize

end OperationError
end GeoRouter
