import GeoRouter.Error

/-!
# Counters

What has become of packets. No packet is dropped without a cause, which is counted and remembered.
-/

namespace GeoRouter

inductive Cause where
  | truncated
  | unrecognized
  | unsupported
  | malformed
  /-- A packet of the router itself, sent back by another station. -/
  | ownPacket
  | duplicate
  /-- The packet does not have what duplicate detection needs. -/
  | missingField
  | locationTableFull
  /-- The packet is for this station but for none of its transports. -/
  | noTransport
  | hopLimit
  | noPosition
  /-- There is no next hop, and the packet can not be stored. -/
  | noRoute
  | queue
  deriving DecidableEq

namespace Cause

def ofWire : WireError → Cause
  | .truncated => .truncated
  | .unrecognized => .unrecognized
  | .malformed => .malformed
  | .unsupported => .unsupported

def all : List Cause :=
  [.truncated, .unrecognized, .unsupported, .malformed, .ownPacket, .duplicate, .missingField,
    .locationTableFull, .noTransport, .hopLimit, .noPosition, .noRoute, .queue]

def name : Cause → String
  | .truncated => "Truncated"
  | .unrecognized => "Unrecognized"
  | .unsupported => "Unsupported"
  | .malformed => "Malformed"
  | .ownPacket => "OwnPacket"
  | .duplicate => "Duplicate"
  | .missingField => "MissingField"
  | .locationTableFull => "LocationTableFull"
  | .noTransport => "NoTransport"
  | .hopLimit => "HopLimit"
  | .noPosition => "NoPosition"
  | .noRoute => "NoRoute"
  | .queue => "Queue"

def ofName? (name : String) : Option Cause := all.find? fun cause => cause.name = name

def message : Cause → String
  | .truncated => "truncated"
  | .unrecognized => "unrecognized header"
  | .unsupported => "unsupported version or security"
  | .malformed => "hop limit above maximum"
  | .ownPacket => "own packet"
  | .duplicate => "duplicate"
  | .missingField => "no duplicate detection key"
  | .locationTableFull => "location table full"
  | .noTransport => "no transport"
  | .hopLimit => "hop limit reached"
  | .noPosition => "own position unknown"
  | .noRoute => "no route and no buffer"
  | .queue => "queue failed"

end Cause

structure Counters where
  delivered : Nat := 0
  forwarded : Nat := 0
  sent : Nat := 0
  duplicates : Nat := 0
  /-- All dropped packets, duplicates included. -/
  discarded : Nat := 0
  /-- Addresses that were drawn again because another station has the same. -/
  regenerated : Nat := 0
  lastCause : Option Cause := none
  deriving DecidableEq

namespace Counters

def discard (counters : Counters) (cause : Cause) : Counters :=
  { counters with
    discarded := counters.discarded + 1
    duplicates := counters.duplicates + if cause = .duplicate then 1 else 0
    lastCause := some cause }

end Counters
end GeoRouter
