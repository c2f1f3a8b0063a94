import GeoRouter.Router.Originate

/-!
# Received packets

What a router does with a frame that passed the filter of its adapter. After the sweep of the
location table the packet is parsed and tested for being a duplicate. One whose destination is an
own link teaches the table where its source is and is delivered, if a transport takes it; every
other one teaches the table as well and goes on to the next hop in the very buffer it came in.
`Verdict` is the decision, `Outcome` what came of it.
-/

namespace GeoRouter

inductive Verdict where
  | deliver
  | forward (nextHop : Mac)
  | drop (cause : Cause)
  deriving DecidableEq

inductive Outcome where
  /-- The frame carries another protocol. -/
  | ignored
  /-- The payload of the packet is for a transport. -/
  | delivered (packet : FramedPacket)
  /-- The packet was queued for another station. -/
  | forwarded (nextHop : Mac)
  | discarded (cause : Cause)
  deriving DecidableEq

structure Reception where
  place : Workplace
  outcome : Outcome

namespace Router

/-- What a packet tells about its source. Nobody has taken a hop from the packet of a neighbour. -/
def sighting (h : Headers) : Sighting where
  position := h.extended.source
  neighbour := h.remainingHops = h.maxHops
  sequence := h.extended.sequence
  stationType := h.extended.source.address.stationType
  timestamp := h.extended.source.timestamp

def learn (r : Router) (now : Instant) (h : Headers) : Except Cause Router :=
  let source := h.extended.source.address
  match (r.locations.add source).bind (·.update source.mid (sighting h)) with
  | .error _ => .error .locationTableFull
  | .ok locations =>
    .ok { r with locations := locations.renew source.mid now r.settings.entryLifetime }

/-- Gives up an address that another station uses as well and draws a new one. The adapter follows
if it had that address. -/
def resolveCollision (r : Router) (mac : Mac) (source : Mid) : Router × Mac :=
  if r.links.owns source then
    let (fresh, generator) := Mid.draw r.generator
    match r.links.replaceMid source fresh with
    | none => ({ r with generator }, mac)
    | some (address, links) =>
      ({ r with generator, links, counters.regenerated := r.counters.regenerated + 1 },
        if Mid.ofMac mac = source then address.mac else mac)
  else (r, mac)

def decideLocal (r : Router) (mac : Mac) (now : Instant) (h : Headers) :
    Verdict × Router × Mac :=
  let (r, mac) := r.resolveCollision mac h.extended.source.address.mid
  match r.learn now h with
  | .error cause => (.drop cause, r, mac)
  | .ok r =>
    match h.next.transport? with
    | some _ => (.deliver, r, mac)
    | none => (.drop .noTransport, r, mac)

section Decision

variable {D : Type} [LT D] [LE D] [DecidableLT D] [DecidableLE D] (distance : Point → Point → D)

/-- The way on for a packet for another station, whose source has been learned. -/
def route (r : Router) (h : Headers) : Verdict :=
  if h.remainingHops ≤ 1 then .drop .hopLimit
  else match r.management.position with
    | none => .drop .noPosition
    | some own =>
      if r.settings.forwarding ≠ .greedy then .drop .noRoute
      else match r.locations.nextHop distance own.point h.extended.destination.point
          h.trafficClass with
        | .neighbour mid => .forward mid.mac
        | .broadcast => .forward .broadcast
        | .buffer => .drop .noRoute

def decideTransit (r : Router) (now : Instant) (h : Headers) : Verdict × Router :=
  if r.links.owns h.extended.source.address.mid then (.drop .ownPacket, r)
  else match r.learn now h with
    | .error cause => (.drop cause, r)
    | .ok r => (r.route distance h, r)

/-- The decision on a fresh packet, with the router and the Ethernet address after it. -/
def decide (r : Router) (mac : Mac) (now : Instant) (h : Headers) : Verdict × Router × Mac :=
  if r.links.owns h.extended.destination.address.mid then r.decideLocal mac now h
  else
    let (verdict, r) := r.decideTransit distance now h
    (verdict, r, mac)

end Decision

def forward (r : Router) (adapter : Adapter) (packet : FramedPacket) (nextHop : Mac) :
    Except Fault Reception := do
  if packet.headers.remainingHops = 0 then throw .hopUnderflow
  let packet ← packet.setRemainingHops (packet.headers.remainingHops - 1)
  let framing : FrameRequest := {
    header := ⟨adapter.address, nextHop, .geoNetworking⟩
    payload := (← Container.view packet.inner).length }
  match ← framing.reuse packet.inner with
  | .error refusal => return ⟨⟨r.discard .queue, adapter, refusal.left⟩, .discarded .queue⟩
  | .ok frame =>
    let (answer, adapter) := adapter.queue
    match answer with
    | .error _ => return ⟨⟨r.discard .queue, adapter, frame.inner⟩, .discarded .queue⟩
    | .ok () =>
      let r := { r with counters.forwarded := r.counters.forwarded + 1 }
      return ⟨⟨r, adapter, frame.inner⟩, .forwarded nextHop⟩

section Reception

variable {D : Type} [LT D] [LE D] [DecidableLT D] [DecidableLE D] (distance : Point → Point → D)

def process (r : Router) (adapter : Adapter) (packet : FramedPacket) : Except Fault Reception := do
  let (verdict, r, mac) := r.decide distance adapter.address adapter.time packet.headers
  let adapter := { adapter with address := mac }
  match verdict with
  | .deliver =>
    let r := { r with counters.delivered := r.counters.delivered + 1 }
    return ⟨⟨r, adapter, packet.buffer⟩, .delivered packet⟩
  | .forward nextHop => r.forward adapter packet nextHop
  | .drop cause => return ⟨⟨r.discard cause, adapter, packet.buffer⟩, .discarded cause⟩

def receiveFrame (r : Router) (adapter : Adapter) (frame : Frame Buffer) :
    Except Fault Reception := do
  if frame.header.kind ≠ .geoNetworking then return ⟨⟨r, adapter, frame.inner⟩, .ignored⟩
  let (_, r) := r.poll adapter.time
  match ← Packet.parse frame with
  | .error reason =>
    let cause := Cause.ofWire reason
    return ⟨⟨r.discard cause, adapter, frame.inner⟩, .discarded cause⟩
  | .ok packet =>
    match ← r.locations.detectPacket? (← packet.whole) with
    | none =>
      return ⟨⟨r.discard .missingField, adapter, frame.inner⟩, .discarded .missingField⟩
    | some (.duplicate, locations) =>
      let r := { r with locations }
      return ⟨⟨r.discard .duplicate, adapter, frame.inner⟩, .discarded .duplicate⟩
    | some (.fresh, locations) =>
      let r := { r with locations }
      r.process distance adapter packet

def receive (place : Workplace) : Except Fault Reception := do
  match ← Frame.incoming? place.adapter.address place.buffer with
  | none => return ⟨place, .ignored⟩
  | some frame => place.router.receiveFrame distance place.adapter frame

end Reception
end Router
end GeoRouter
