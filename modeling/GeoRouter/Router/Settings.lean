import GeoRouter.Address.StationType
import GeoRouter.Error
import GeoRouter.Packet.Headers

/-!
# Settings

The parameters of the router, each with a name under which it can be read and set. Setting checks
the kind and the range of the value and leaves everything as it was if either is wrong.
-/

namespace GeoRouter

inductive Forwarding where
  /-- To the neighbour that is closest to the destination. -/
  | greedy
  /-- By whichever neighbour is first, which is not implemented. -/
  | contentionBased
  deriving DecidableEq

namespace Forwarding

def name : Forwarding → String
  | .greedy => "Greedy"
  | .contentionBased => "ContentionBased"

end Forwarding

structure Settings where
  isMobile : Bool := false
  defaultHopLimit : UInt8 := 10
  maxPacketLifetime : Duration := .ofSeconds 600
  defaultPacketLifetime : Duration := .ofSeconds 60
  /-- How long an entry of the location table lives after the last packet of its station. -/
  entryLifetime : Duration := .ofSeconds 20
  maxPayload : UInt16 := 1398
  /-- The most octets that all headers together may have. -/
  maxHeaders : UInt16 := 88
  forwarding : Forwarding := .greedy
  /-- In units of 1024 octets. -/
  forwardingBufferSize : UInt16 := 256
  /-- In metres. -/
  communicationRange : UInt16 := 1000
  beaconInterval : Duration := .ofMillis 3000
  beaconJitter : Duration := .ofMillis 750
  locationServiceInterval : Duration := .ofMillis 1000
  locationServiceAttempts : UInt8 := 10
  /-- In octets. -/
  locationServiceBufferSize : UInt16 := 1024
  /-- In units of 1024 octets per second. -/
  maxPacketRate : UInt32 := 100
  /-- The weight of the average in percent. -/
  packetRateWeight : UInt8 := 90
  stationType : StationType := .unspecified
  version : UInt8 := protocolVersion
  trafficClass : TrafficClass := {}
  deriving DecidableEq

inductive Setting where
  | isMobile
  | defaultHopLimit
  | maxPacketLifetime
  | defaultPacketLifetime
  | entryLifetime
  | maxPayload
  | maxHeaders
  | forwarding
  | forwardingBufferSize
  | communicationRange
  | beaconInterval
  | beaconJitter
  | locationServiceInterval
  | locationServiceAttempts
  | locationServiceBufferSize
  | maxPacketRate
  | packetRateWeight
  | stationType
  | version
  | trafficClass
  deriving DecidableEq

namespace Setting

def all : List Setting :=
  [.isMobile, .defaultHopLimit, .maxPacketLifetime, .defaultPacketLifetime, .entryLifetime,
    .maxPayload, .maxHeaders, .forwarding, .forwardingBufferSize, .communicationRange,
    .beaconInterval, .beaconJitter, .locationServiceInterval, .locationServiceAttempts,
    .locationServiceBufferSize, .maxPacketRate, .packetRateWeight, .stationType, .version,
    .trafficClass]

def name : Setting → String
  | .isMobile => "IsMobile"
  | .defaultHopLimit => "DefaultHopLimit"
  | .maxPacketLifetime => "MaxPacketLifetime"
  | .defaultPacketLifetime => "DefaultPacketLifetime"
  | .entryLifetime => "LifetimeLocte"
  | .maxPayload => "MaxSduSize"
  | .maxHeaders => "MaxGnHeaderSize"
  | .forwarding => "GucForwarding"
  | .forwardingBufferSize => "UcForwardingPacketBufferSize"
  | .communicationRange => "DefaultMaxCommunicationRange"
  | .beaconInterval => "BeaconRetransmitTimer"
  | .beaconJitter => "BeaconMaxJitter"
  | .locationServiceInterval => "LocationServiceRetransmitTimer"
  | .locationServiceAttempts => "LocationServiceMaxRetransmit"
  | .locationServiceBufferSize => "LocationServicePacketBufferSize"
  | .maxPacketRate => "MaxPacketDataRate"
  | .packetRateWeight => "MaxPacketDataRateEmaBeta"
  | .stationType => "StationType"
  | .version => "ProtocolVersion"
  | .trafficClass => "TrafficClass"

def ofName? (name : String) : Option Setting := all.find? fun setting => setting.name = name

end Setting

inductive Value where
  | flag (b : Bool)
  | number (n : UInt32)
  | duration (d : Duration)
  | forwarding (f : Forwarding)
  | stationType (type : StationType)
  | trafficClass (tc : TrafficClass)
  deriving DecidableEq

namespace Value

def text : Value → String
  | .flag b => if b then "true" else "false"
  | .number n => toString n.toNat
  | .duration d => s!"{d.millis}ms"
  | .forwarding f => f.name
  | .stationType type => type.name
  | .trafficClass tc => tc.text

def octet? (n : UInt32) : Option UInt8 := if n.toNat < UInt8.size then some n.toUInt8 else none

def word? (n : UInt32) : Option UInt16 := if n.toNat < UInt16.size then some n.toUInt16 else none

end Value

namespace Settings

def get (s : Settings) : Setting → Value
  | .isMobile => .flag s.isMobile
  | .defaultHopLimit => .number s.defaultHopLimit.toUInt32
  | .maxPacketLifetime => .duration s.maxPacketLifetime
  | .defaultPacketLifetime => .duration s.defaultPacketLifetime
  | .entryLifetime => .duration s.entryLifetime
  | .maxPayload => .number s.maxPayload.toUInt32
  | .maxHeaders => .number s.maxHeaders.toUInt32
  | .forwarding => .forwarding s.forwarding
  | .forwardingBufferSize => .number s.forwardingBufferSize.toUInt32
  | .communicationRange => .number s.communicationRange.toUInt32
  | .beaconInterval => .duration s.beaconInterval
  | .beaconJitter => .duration s.beaconJitter
  | .locationServiceInterval => .duration s.locationServiceInterval
  | .locationServiceAttempts => .number s.locationServiceAttempts.toUInt32
  | .locationServiceBufferSize => .number s.locationServiceBufferSize.toUInt32
  | .maxPacketRate => .number s.maxPacketRate
  | .packetRateWeight => .number s.packetRateWeight.toUInt32
  | .stationType => .stationType s.stationType
  | .version => .number s.version.toUInt32
  | .trafficClass => .trafficClass s.trafficClass

/-- The settings after a change. None if the value is of the wrong kind or out of range: numbers
have to fit their parameter, a weight is at most a hundred percent, the default lifetime is at most
the largest one, and just one forwarding method and one version are implemented. -/
def set? (s : Settings) (setting : Setting) (value : Value) : Option Settings :=
  match setting, value with
  | .isMobile, .flag b => some { s with isMobile := b }
  | .defaultHopLimit, .number n =>
    (Value.octet? n).map fun n => { s with defaultHopLimit := n }
  | .maxPacketLifetime, .duration d =>
    if d < s.defaultPacketLifetime then none else some { s with maxPacketLifetime := d }
  | .defaultPacketLifetime, .duration d =>
    if s.maxPacketLifetime < d then none else some { s with defaultPacketLifetime := d }
  | .entryLifetime, .duration d => some { s with entryLifetime := d }
  | .maxPayload, .number n => (Value.word? n).map fun n => { s with maxPayload := n }
  | .maxHeaders, .number n => (Value.word? n).map fun n => { s with maxHeaders := n }
  | .forwarding, .forwarding .greedy => some { s with forwarding := .greedy }
  | .forwardingBufferSize, .number n =>
    (Value.word? n).map fun n => { s with forwardingBufferSize := n }
  | .communicationRange, .number n =>
    (Value.word? n).map fun n => { s with communicationRange := n }
  | .beaconInterval, .duration d => some { s with beaconInterval := d }
  | .beaconJitter, .duration d => some { s with beaconJitter := d }
  | .locationServiceInterval, .duration d => some { s with locationServiceInterval := d }
  | .locationServiceAttempts, .number n =>
    (Value.octet? n).map fun n => { s with locationServiceAttempts := n }
  | .locationServiceBufferSize, .number n =>
    (Value.word? n).map fun n => { s with locationServiceBufferSize := n }
  | .maxPacketRate, .number n => some { s with maxPacketRate := n }
  | .packetRateWeight, .number n =>
    if n ≤ 100 then (Value.octet? n).map fun n => { s with packetRateWeight := n } else none
  | .stationType, .stationType type => some { s with stationType := type }
  | .version, .number n =>
    if n = protocolVersion.toUInt32 then some { s with version := protocolVersion } else none
  | .trafficClass, .trafficClass tc => some { s with trafficClass := tc }
  | _, _ => none

def set (s : Settings) (setting : Setting) (value : Value) : Except OperationError Settings :=
  match s.set? setting value with
  | some s => .ok s
  | none => .error .illegal

end Settings
end GeoRouter
