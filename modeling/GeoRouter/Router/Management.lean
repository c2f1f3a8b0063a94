import GeoRouter.Router.Greedy

/-!
# Time and position

A router has neither clock nor receiver of its own. What the management entity knows of both at a
moment is a value, and either part of it may be missing.
-/

namespace GeoRouter

structure LocalPosition where
  latitude : Int32
  longitude : Int32
  /-- In hundredths of a metre per second, in fifteen bits. -/
  speed : UInt16 := 0
  /-- In tenths of a degree, clockwise from north. -/
  heading : UInt16 := 0
  accurate : Bool := false
  deriving DecidableEq

namespace LocalPosition

def point (position : LocalPosition) : Point := ⟨position.latitude, position.longitude⟩

def vector (position : LocalPosition) (address : Address) (timestamp : Timestamp) :
    LongPositionVector where
  address := address
  timestamp := timestamp
  latitude := position.latitude
  longitude := position.longitude
  accurate := position.accurate
  speed := position.speed &&& 0x7fff
  heading := position.heading

end LocalPosition

/-- What is known of time, in milliseconds since the Unix epoch, and of the position. -/
structure Management where
  time : Option Nat := none
  position : Option LocalPosition := none
  deriving DecidableEq

namespace Management

def timestamp (management : Management) : Option Timestamp :=
  management.time.map fun n => .ofUnixMillis n

end Management
end GeoRouter
