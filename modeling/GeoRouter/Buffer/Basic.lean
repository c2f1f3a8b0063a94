import GeoRouter.Bytes
import GeoRouter.Storage.Backing

/-!
# Buffers

The octets of a frame together with what may be done to their number. A length change keeps the
common prefix and fills up with zeros.
-/

namespace GeoRouter

inductive SizeError where
  | badSize
  deriving DecidableEq

namespace SizeError

def name : SizeError → String
  | .badSize => "BadSize"

def message : SizeError → String
  | .badSize => "buffer can not be resized to the requested length"

end SizeError

inductive Resizing where
  | free
  /-- At most the length it has, for good. -/
  | shrinkOnly
  | fixed
  deriving DecidableEq

structure Buffer where
  resizing : Resizing
  bytes : Bytes
  deriving DecidableEq

namespace Buffer

def ofFixed (b : Bytes) : Buffer := ⟨.fixed, b⟩

def ofAllocated (b : Bytes) : Buffer := ⟨.free, b⟩

/-- A single inline octet stays alone, an allocated list takes any length and borrowed memory can
be given up from its end. -/
def ofBacking : Backing UInt8 → Buffer
  | .one octet => ⟨.fixed, [octet]⟩
  | .many octets => ⟨.free, octets⟩
  | .borrowed octets => ⟨.shrinkOnly, octets⟩

def canTake (buffer : Buffer) (length : Nat) : Bool :=
  match buffer.resizing with
  | .free => true
  | .shrinkOnly => length ≤ buffer.bytes.length
  | .fixed => length = buffer.bytes.length

def resize (buffer : Buffer) (length : Nat) : Answer SizeError Buffer Buffer :=
  if buffer.canTake length then .ok { buffer with bytes := buffer.bytes.resize length }
  else .error ⟨.badSize, buffer⟩

end Buffer
end GeoRouter
