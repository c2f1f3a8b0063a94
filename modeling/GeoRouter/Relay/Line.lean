import GeoRouter.Relay.Arguments
import GeoRouter.Router.Receive

/-!
# A line of stations

Stations stand along a meridian, and each of them knows just those next to it, except the first,
which knows where the last one is as well. The first sends a packet to the last, and the stations
in between hand it on in the same buffer until it arrives or one of them drops it.
-/

namespace GeoRouter.Relay

structure Station where
  router : Router
  address : Address
  position : LocalPosition

inductive Event where
  | placed (index : Nat) (address : Address) (latitude : Int32)
  | sent (destination : Address)
  | unsent (reason : OperationError)
  | forwarded (index : Nat) (nextHop : Mac)
  /-- A station did not hand the packet on. It has no cause if the packet was not for it at all. -/
  | dropped (index : Nat) (cause : Option Cause)
  | received (payload : Bytes)
  | delivered (index : Nat)
  deriving DecidableEq

/-- The most stations that the table of a station has room for. -/
def knownStations : Nat := 16

def bufferLength : Nat := 2048

namespace Options

def settings? (o : Options) : Except OperationError Settings := do
  let settings ← ({} : Settings).set .defaultHopLimit (.number o.hopLimit)
  settings.set .defaultPacketLifetime (.duration o.lifetime)

def count (o : Options) : Nat := max o.stations 2

def position (o : Options) (index : Nat) : LocalPosition where
  latitude := o.latitude + o.spacing * Int32.ofNat index
  longitude := o.longitude
  accurate := true

def station (o : Options) (settings : Settings) (now index : Nat) :
    Except OperationError Station := do
  let position := o.position index
  let router : Router := {
    locations := .ofCapacity knownStations
    links := .ofCapacity 1
    settings
    management := { time := some now, position := some position } }
  let router := router.reseed (o.seed + BitVec.ofNat 64 index)
  let (address, router) := router.addLink 0 .automatic .roadsideUnit 0
  return { router, address := ← address, position }

def line (o : Options) (settings : Settings) (now : Nat) : Except OperationError (List Station) :=
  (List.range o.count).mapM (o.station settings now)

end Options

namespace Station

def adapter (station : Station) : Adapter := ⟨station.address.mac, .ofTime ⟨0⟩⟩

def sighting (station : Station) (now : Nat) (neighbour : Bool) : Sighting :=
  let timestamp := Timestamp.ofUnixMillis now
  { position := station.position.vector station.address timestamp
    neighbour
    sequence := ⟨0⟩
    stationType := station.address.stationType
    timestamp }

def meet (station : Station) (now : Nat) (neighbour : Bool) (other : Station) :
    Except LocationError Station := do
  let mid := other.address.mid
  let table ← station.router.locations.add other.address
  let table ← table.update mid (other.sighting now neighbour)
  let locations := table.renew mid ⟨0⟩ station.router.settings.entryLifetime
  return { station with router := { station.router with locations } }

end Station

/-- Lets each station meet those next to it, the one before it first. -/
def meetNeighbours (now : Nat) (row : List Station) : Except LocationError (List Station) :=
  row.zipIdx.mapM fun (station, index) =>
    let before := if index = 0 then none else row[index - 1]?
    (before.toList ++ row[index + 1]?.toList).foldlM (Station.meet · now true) station

section Run

variable {D : Type} [LT D] [LE D] [DecidableLT D] [DecidableLE D] (distance : Point → Point → D)

def handOn (buffer : Buffer) : (index : Nat) → List Station → Except Fault (List Event)
  | _, [] => .ok []
  | index, station :: rest => do
    let reception ← Router.receive distance ⟨station.router, station.adapter, buffer⟩
    match reception.outcome with
    | .ignored => return [.dropped index none]
    | .discarded cause => return [.dropped index (some cause)]
    | .delivered packet => return [.received (← packet.payload), .delivered index]
    | .forwarded nextHop =>
      return .forwarded index nextHop :: (← handOn reception.place.buffer (index + 1) rest)

def sendAlong (first : Station) (others : List Station) (destination : Address)
    (payload : Bytes) : Except Fault (List Event) := do
  let (answer, place) ← first.router.originate distance first.adapter
    (first.router.request destination .btpB payload.length) payload
    (.ofAllocated (List.replicate bufferLength 0))
  match answer with
  | .error reason => return [.unsent reason]
  | .ok () => return .sent destination :: (← handOn distance place.buffer 1 others)

/-- Sends a payload along a line of stations, of which the first meets the last in advance. -/
def run? (line : List Station) (now : Nat) (payload : Bytes) : Option (List Event) := do
  let last ← line.getLast?
  match ← (meetNeighbours now line).toOption with
  | [] => none
  | first :: others =>
    let first ← (first.meet now (line.length = 2) last).toOption
    (sendAlong distance first others last.address payload).toOption

end Run

def placements (line : List Station) : List Event :=
  line.zipIdx.map fun (station, index) =>
    .placed index station.address station.position.latitude

end GeoRouter.Relay
