import GeoRouter.Address.Basic
import GeoRouter.Clock.Timestamp
import GeoRouter.Error

/-!
# Position vectors

Where a station was, and when. The long vector adds how accurate the position is and how the
station moved. Coordinates are in tenths of a microdegree, north and east positive.
-/

namespace GeoRouter

def Coordinate.toWord (x : Int32) : Nat := x.toBitVec.toNat

def Coordinate.ofWord (n : Nat) : Int32 := Int32.ofBitVec (BitVec.ofNat 32 n)

structure ShortPositionVector where
  address : Address := .zero
  timestamp : Timestamp := ⟨0⟩
  latitude : Int32 := 0
  longitude : Int32 := 0
  deriving DecidableEq

namespace ShortPositionVector

def size : Nat := 20

def timestampOffset : Nat := 8

def encode (v : ShortPositionVector) : Bytes :=
  v.address.encode ++ BigEndian.encode 4 v.timestamp.val.toNat ++
    BigEndian.encode 4 (Coordinate.toWord v.latitude) ++
    BigEndian.encode 4 (Coordinate.toWord v.longitude)

def read (b : Bytes) (start : Nat) : Except Fault ShortPositionVector := do
  let address ← Address.read b start
  let timestamp ← b.word (start + timestampOffset) 4
  let latitude ← b.word (start + 12) 4
  let longitude ← b.word (start + 16) 4
  return {
    address
    timestamp := ⟨BitVec.ofNat 32 timestamp⟩
    latitude := Coordinate.ofWord latitude
    longitude := Coordinate.ofWord longitude }

def parse (b : Bytes) : Except Fault (Except WireError ShortPositionVector) := do
  if b.length < size then return .error .truncated
  return .ok (← read b 0)

end ShortPositionVector

structure LongPositionVector extends ShortPositionVector where
  /-- The position is as accurate as the applications need it. -/
  accurate : Bool := false
  /-- In hundredths of a metre per second, of which fifteen bits are transmitted. -/
  speed : UInt16 := 0
  /-- In tenths of a degree, clockwise from north. -/
  heading : UInt16 := 0
  deriving DecidableEq

namespace LongPositionVector

def size : Nat := 24

/-- A short vector, the accuracy flag above fifteen bits of speed, and the heading. -/
def encode (v : LongPositionVector) : Bytes :=
  v.toShortPositionVector.encode ++
    BigEndian.encode 2 ((if v.accurate then 0x8000 else 0) + v.speed.toNat % 0x8000) ++
    BigEndian.encode 2 v.heading.toNat

def read (b : Bytes) (start : Nat) : Except Fault LongPositionVector := do
  let short ← ShortPositionVector.read b start
  let movement ← b.word (start + 20) 2
  let heading ← b.word (start + 22) 2
  return { short with
    accurate := movement / 0x8000 ≠ 0
    speed := UInt16.ofNat (movement % 0x8000)
    heading := UInt16.ofNat heading }

def parse (b : Bytes) : Except Fault (Except WireError LongPositionVector) := do
  if b.length < size then return .error .truncated
  return .ok (← read b 0)

end LongPositionVector
end GeoRouter
