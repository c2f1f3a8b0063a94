import GeoRouter.Clock.Instant
import GeoRouter.Clock.Wraparound

/-!
# Timestamps

The clock that position vectors carry: milliseconds since the start of 2004, in 32 bits, so that
it starts again about every fifty days.
-/

namespace GeoRouter

/-- Milliseconds since the start of 2004, modulo the range of 32 bits. -/
structure Timestamp where
  val : BitVec 32
  deriving DecidableEq

namespace Timestamp

/-- The start of 2004 in milliseconds since the Unix epoch. -/
def epoch : Int := 1072915200000

def ofUnixMillis (n : Int) : Timestamp := ⟨BitVec.ofInt 32 (n - epoch)⟩

def ofInstant (t : Instant) : Timestamp := ofUnixMillis t.millis

def newer (a b : Timestamp) : Bool := Wraparound.newer a.val b.val

def text (t : Timestamp) : String := s!"{t.val.toNat}ms"

end Timestamp
end GeoRouter
