import GeoRouter.Router.LocationTable

/-!
# Greedy forwarding

The next hop is the neighbour closest to the destination, if that is closer than the router itself.
How distances are measured does not matter here: any type with an order will do. The earth is
measured with the haversine formula.
-/

namespace GeoRouter

/-- A point on the earth, in tenths of a microdegree. -/
structure Point where
  latitude : Int32
  longitude : Int32
  deriving DecidableEq

namespace ShortPositionVector

def point (v : ShortPositionVector) : Point := ⟨v.latitude, v.longitude⟩

end ShortPositionVector

inductive NextHop where
  | neighbour (mid : Mid)
  /-- To whoever hears it. -/
  | broadcast
  /-- Nowhere until there is a better neighbour. -/
  | buffer
  deriving DecidableEq

section Choice

variable {D : Type} [LT D] [LE D] [DecidableLT D] [DecidableLE D]

def nearest (candidates : List (Mid × D)) : Option (Mid × D) :=
  candidates.foldl (fun best candidate =>
    match best with
    | none => some candidate
    | some best => if best.2 ≤ candidate.2 then some best else some candidate) none

/-- The next hop from `own` to `destination`, with distances measured by `distance`. -/
def LocationTable.nextHop (table : LocationTable) (distance : Point → Point → D)
    (own destination : Point) (tc : TrafficClass) : NextHop :=
  let candidates := table.neighbours.map fun entry =>
    (entry.mid, distance entry.position.point destination)
  let otherwise : NextHop := if tc.storeCarryForward then .buffer else .broadcast
  match nearest candidates with
  | some (mid, d) => if d < distance own destination then .neighbour mid else otherwise
  | none => otherwise

end Choice

namespace Geodesy

def radius : Float := 6371000.0

def unitsPerDegree : Float := 10000000.0

def radiansPerDegree : Float := 3.14159265358979323846264338327950288 / 180.0

def radians (x : Int32) : Float := Float.ofInt x.toInt / unitsPerDegree * radiansPerDegree

def distance (a b : Point) : Float :=
  let latitudeA := radians a.latitude
  let latitudeB := radians b.latitude
  let halfLatitude := Float.sin ((latitudeB - latitudeA) / 2.0)
  let halfLongitude := Float.sin ((radians b.longitude - radians a.longitude) / 2.0)
  let h := halfLatitude * halfLatitude +
    Float.cos latitudeA * Float.cos latitudeB * (halfLongitude * halfLongitude)
  radius * (2.0 * Float.atan2 (Float.sqrt h) (Float.sqrt (1.0 - h)))

end Geodesy
end GeoRouter
