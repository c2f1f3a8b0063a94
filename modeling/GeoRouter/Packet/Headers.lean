import GeoRouter.Packet.Registry

/-!
# The headers of a packet

A packet starts with a basic header of four octets and a common header of eight, here together the
fixed header, which names the extended header behind it. `FixedHeader` holds the fields as they
stand in the octets; `Headers` holds those of a packet that may be processed, and `Headers.parse`
lists the checks in their order.
-/

namespace GeoRouter

def protocolVersion : UInt8 := 0

structure FixedHeader where
  version : UInt8
  basicNext : BasicNextHeader
  lifetime : Lifetime
  remainingHops : UInt8
  next : NextHeader
  type : UInt8
  subtype : UInt8
  trafficClass : TrafficClass
  mobile : Bool
  payloadLength : UInt16
  maxHops : UInt8
  deriving DecidableEq

namespace FixedHeader

def size : Nat := 12

def upper (octet : UInt8) : UInt8 := octet >>> 4

def lower (octet : UInt8) : UInt8 := octet &&& 0x0f

/-- The lower four bits of one octet above those of another. -/
def nibbles (high low : UInt8) : UInt8 := (high <<< 4) ||| (low &&& 0x0f)

def mobileOctet (mobile : Bool) : UInt8 := if mobile then 0x80 else 0

def read (b : Bytes) : Except Fault FixedHeader := do
  let first ← b.octet 0
  let lifetime ← b.octet 2
  let remainingHops ← b.octet 3
  let next ← b.octet 4
  let type ← b.octet 5
  let trafficClass ← b.octet 6
  let flags ← b.octet 7
  let payloadLength ← b.word 8 2
  let maxHops ← b.octet 10
  return {
    version := upper first
    basicNext := .ofCode (lower first)
    lifetime := ⟨lifetime⟩
    remainingHops
    next := .ofCode (upper next)
    type := upper type
    subtype := lower type
    trafficClass := .ofCode trafficClass
    mobile := flags &&& 0x80 ≠ 0
    payloadLength := UInt16.ofNat payloadLength
    maxHops }

def encode (header : FixedHeader) : Bytes :=
  [nibbles header.version header.basicNext.code, 0, header.lifetime.code, header.remainingHops,
    nibbles header.next.code 0, nibbles header.type header.subtype, header.trafficClass.code,
    mobileOctet header.mobile] ++
    BigEndian.encode 2 header.payloadLength.toNat ++ [header.maxHops, 0]

def emit (b : Bytes) (header : FixedHeader) : Except Fault Bytes := b.overwrite 0 header.encode

def kind? (header : FixedHeader) : Option ExtendedKind :=
  ExtendedKind.lookup header.type header.subtype

/-- The octets in front of the payload, as far as the registry knows the extended header. -/
def headersLength? (header : FixedHeader) : Option Nat :=
  header.kind?.map fun kind => size + kind.layout.size

/-! ### Writing single fields -/

def setVersion (b : Bytes) (version : UInt8) (next : BasicNextHeader) : Except Fault Bytes :=
  b.overwrite 0 [nibbles version next.code, 0]

def setLifetime (b : Bytes) (lifetime : Lifetime) : Except Fault Bytes :=
  b.overwrite 2 [lifetime.code]

def setRemainingHops (b : Bytes) (hops : UInt8) : Except Fault Bytes := b.overwrite 3 [hops]

def setNext (b : Bytes) (next : NextHeader) : Except Fault Bytes :=
  b.overwrite 4 [nibbles next.code 0]

def setType (b : Bytes) (type subtype : UInt8) : Except Fault Bytes :=
  b.overwrite 5 [nibbles type subtype]

def setTrafficClass (b : Bytes) (tc : TrafficClass) : Except Fault Bytes :=
  b.overwrite 6 [tc.code]

def setMobile (b : Bytes) (mobile : Bool) : Except Fault Bytes :=
  b.overwrite 7 [mobileOctet mobile]

def setPayloadLength (b : Bytes) (length : UInt16) : Except Fault Bytes :=
  b.overwrite 8 (BigEndian.encode 2 length.toNat)

def setMaxHops (b : Bytes) (hops : UInt8) : Except Fault Bytes := b.overwrite 10 [hops, 0]

/-! ### Fields of the extended header -/

/-- The number in `width` octets of the extended header, at the offset that its layout gives. None
if the header is not registered, does not have the field or ends before it. -/
def field? (b : Bytes) (offset : Layout → Option Nat) (width : Nat) :
    Except Fault (Option Nat) := do
  let type ← b.octet 5
  match (ExtendedKind.lookup (upper type) (lower type)).bind fun kind => offset kind.layout with
  | none => return none
  | some start =>
    let extended ← b.suffix size
    match extended.word start width with
    | .ok n => return some n
    | .error _ => return none

def sourceAddress? (b : Bytes) : Except Fault (Option Address) := do
  return (← field? b Layout.source Address.size).map fun n => .ofRaw (BitVec.ofNat 64 n)

def sequenceNumber? (b : Bytes) : Except Fault (Option SequenceNumber) := do
  return (← field? b Layout.sequence 2).map fun n => ⟨BitVec.ofNat 16 n⟩

def timestamp? (b : Bytes) : Except Fault (Option Timestamp) := do
  return (← field? b Layout.timestamp 4).map fun n => ⟨BitVec.ofNat 32 n⟩

end FixedHeader

structure Headers where
  lifetime : Lifetime
  remainingHops : UInt8
  next : NextHeader
  trafficClass : TrafficClass
  mobile : Bool
  payloadLength : UInt16
  maxHops : UInt8
  extended : GeoUnicast
  deriving DecidableEq

namespace Headers

def kind (_ : Headers) : ExtendedKind := .geoUnicast

def size : Nat := FixedHeader.size + GeoUnicast.size

def totalLength (h : Headers) : Nat := size + h.payloadLength.toNat

def fixed (h : Headers) : FixedHeader where
  version := protocolVersion
  basicNext := .common
  lifetime := h.lifetime
  remainingHops := h.remainingHops
  next := h.next
  type := h.kind.codes.1
  subtype := h.kind.codes.2
  trafficClass := h.trafficClass
  mobile := h.mobile
  payloadLength := h.payloadLength
  maxHops := h.maxHops

def encode (h : Headers) : Bytes := h.fixed.encode ++ h.extended.encode

def emit (b : Bytes) (h : Headers) : Except Fault Bytes := b.overwrite 0 h.encode

def checkFixed (b : Bytes) : Except WireError Unit :=
  if b.length < FixedHeader.size then .error .truncated else .ok ()

/-- The extended header that octets announce, provided that it is registered and that it and the
payload are there. -/
def checkExtended (b : Bytes) : Except Fault (Except WireError ExtendedKind) := do
  if b.length < FixedHeader.size then return .error .truncated
  let fixed ← FixedHeader.read b
  match fixed.kind? with
  | none => return .error .unrecognized
  | some kind =>
    if b.length < FixedHeader.size + kind.layout.size + fixed.payloadLength.toNat then
      return .error .truncated
    return .ok kind

/-- What keeps a packet from being processed although all of it is there: another version or a
security layer, an unknown basic next header, or more hops left than there were. -/
def refusal? (fixed : FixedHeader) : Option WireError :=
  if fixed.version ≠ protocolVersion then some .unsupported
  else match fixed.basicNext with
    | .secured => some .unsupported
    | .unknown _ => some .unrecognized
    | _ => if fixed.maxHops < fixed.remainingHops then some .malformed else none

def parse (b : Bytes) : Except Fault (Except WireError Headers) := do
  match ← checkExtended b with
  | .error reason => return .error reason
  | .ok .geoUnicast =>
    let fixed ← FixedHeader.read b
    match refusal? fixed with
    | some reason => return .error reason
    | none =>
      match ← GeoUnicast.parse (← b.suffix FixedHeader.size) with
      | .error reason => return .error reason
      | .ok extended => return .ok {
          lifetime := fixed.lifetime
          remainingHops := fixed.remainingHops
          next := fixed.next
          trafficClass := fixed.trafficClass
          mobile := fixed.mobile
          payloadLength := fixed.payloadLength
          maxHops := fixed.maxHops
          extended }

def text (h : Headers) : String :=
  s!"GN rhl={h.remainingHops.toNat}/{h.maxHops.toNat} nh={h.next.name} " ++
    s!"tc={h.trafficClass.text} len={h.payloadLength.toNat} " ++
    s!"GUC sn={h.extended.sequence.text} src={h.extended.source.address.text} " ++
    s!"dst={h.extended.destination.address.text}"

end Headers
end GeoRouter
