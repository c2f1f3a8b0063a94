import GeoRouter.Ethernet.Adapter
import GeoRouter.Packet.Basic
import GeoRouter.Router.Basic

/-!
# Packets of the router itself

A request names the station to reach and what the headers are to say. The router fills in what it
knows of itself and of the destination, which has to have an entry in the location table, and lays
the packet out in a buffer. Only a packet whose headers were written takes a sequence number, and
only one that was queued is counted.
-/

namespace GeoRouter

/-- A packet to be laid out. What is left open is filled in from the settings. -/
structure Request where
  destination : Address
  next : NextHeader
  trafficClass : TrafficClass := {}
  lifetime : Option Lifetime := none
  maxHops : Option UInt8 := none
  payload : Nat
  deriving DecidableEq

namespace Request

def kind (_ : Request) : ExtendedKind := .geoUnicast

end Request

namespace Lifetime

/-- The lifetime, or the longest one within `most` if it is longer than that. -/
def capped (lifetime : Lifetime) (most : Duration) : Lifetime :=
  if most < lifetime.duration then .ofDuration most else lifetime

end Lifetime

abbrev FramedPacket := Packet (Frame Buffer)

def Packet.buffer (packet : FramedPacket) : Buffer := packet.inner.inner

namespace Router

def request (r : Router) (destination : Address) (next : NextHeader) (payload : Nat) : Request :=
  { destination, next, trafficClass := r.settings.trafficClass, payload }

/-- The address to send from: that of the link with the Ethernet address of the adapter, or else of
the first link. -/
def sourceAddress? (r : Router) (mac : Mac) : Option Address :=
  match r.links.find? (.ofMac mac) with
  | some link => some link.address
  | none => r.links.toList.head?.map (·.address)

section Headers

variable {D : Type} [LT D] [LE D] [DecidableLT D] [DecidableLE D] (distance : Point → Point → D)

/-- The extended header of a packet of the router. A packet that would have to be stored until
there is a next hop can not be sent; all others are broadcast. -/
def unicastHeader (r : Router) (request : Request) (mac : Mac) :
    Except OperationError GeoUnicast := do
  let some source := r.sourceAddress? mac | throw .illegal
  let some timestamp := r.management.timestamp | throw .unavailable
  let some own := r.management.position | throw .unavailable
  let some entry := r.locations.find? request.destination.mid | throw .unreachable
  let destination := { entry.position.toShortPositionVector with address := entry.address }
  if r.locations.nextHop distance own.point destination.point request.trafficClass = .buffer then
    throw .unreachable
  return { sequence := r.sequence, source := own.vector source timestamp, destination }

def requestLifetime (r : Router) (request : Request) : Lifetime :=
  (request.lifetime.getD (.ofDuration r.settings.defaultPacketLifetime)).capped
    r.settings.maxPacketLifetime

def headersFor (r : Router) (request : Request) (mac : Mac) :
    Except OperationError Headers := do
  if r.settings.maxPayload.toNat < request.payload then throw .badSize
  if UInt16.size ≤ request.payload then throw .badSize
  let extended ← r.unicastHeader distance request mac
  if r.settings.maxHeaders.toNat < Headers.size then throw .badSize
  let hops := request.maxHops.getD r.settings.defaultHopLimit
  return {
    lifetime := r.requestLifetime request
    remainingHops := hops
    next := request.next
    trafficClass := request.trafficClass
    mobile := r.settings.isMobile
    payloadLength := UInt16.ofNat request.payload
    maxHops := hops
    extended }

/-- Lays a packet out in a buffer, up to its payload, and takes a sequence number for it. -/
def prepare (r : Router) (request : Request) (mac : Mac) (buffer : Buffer) :
    Except Fault (Answer OperationError Buffer (Router × FramedPacket)) := do
  match r.headersFor distance request mac with
  | .error reason => return .error ⟨reason, buffer⟩
  | .ok headers =>
    let framing : FrameRequest := {
      header := ⟨headers.extended.source.address.mac, .broadcast, .geoNetworking⟩
      payload := headers.totalLength }
    match ← framing.prepare buffer with
    | .error refusal => return .error refusal
    | .ok frame =>
      if (← Container.view frame).length < Headers.size then
        return .error ⟨.badSize, frame.inner⟩
      let packet ← Packet.emit frame headers
      return .ok ({ r with sequence := r.sequence.next }, packet)

end Headers

def send (r : Router) (adapter : Adapter) : Except OperationError Unit × Adapter × Router :=
  let (answer, adapter) := adapter.queue
  match answer with
  | .ok () => (.ok (), adapter, { r with counters.sent := r.counters.sent + 1 })
  | .error reason => (.error reason, adapter, r)

end Router

/-- A payload on its way into the first buffer that is offered for it. -/
structure Parcel where
  request : Request
  payload : Bytes
  result : Option (Except OperationError Unit) := none

namespace Parcel

/-- A payload to be sent as requested, apart from the length, which is that of the payload. -/
def ofRequest (request : Request) (payload : Bytes) : Parcel :=
  { request := { request with payload := payload.length }, payload }

end Parcel

structure Workplace where
  router : Router
  adapter : Adapter
  buffer : Buffer

namespace Router

variable {D : Type} [LT D] [LE D] [DecidableLT D] [DecidableLE D] (distance : Point → Point → D)

def originate (r : Router) (adapter : Adapter) (request : Request) (payload : Bytes)
    (buffer : Buffer) : Except Fault (Except OperationError Unit × Workplace) := do
  match ← r.prepare distance request adapter.address buffer with
  | .error refusal => return (.error refusal.cause, ⟨r, adapter, refusal.left⟩)
  | .ok (r, packet) =>
    let packet ← packet.fill payload
    let (answer, adapter, r) := r.send adapter
    return (answer, ⟨r, adapter, packet.buffer⟩)

end Router

namespace Parcel

variable {D : Type} [LT D] [LE D] [DecidableLT D] [DecidableLE D] (distance : Point → Point → D)

/-- Offers a buffer to a parcel, which takes the first one and no other. -/
def offer (parcel : Parcel) (place : Workplace) : Except Fault (Parcel × Workplace) := do
  match parcel.result with
  | some _ => return (parcel, place)
  | none =>
    let (answer, place) ←
      place.router.originate distance place.adapter parcel.request parcel.payload place.buffer
    return ({ parcel with result := some answer }, place)

end Parcel
end GeoRouter
