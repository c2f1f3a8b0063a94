import GeoRouter.Buffer.Container
import GeoRouter.Packet.Headers

/-!
# Packets

A packet is a container around another one: it remembers its headers and frames its payload. Where
it changes the length of the payload or the hops that are left it changes both the remembered
headers and the octets.
-/

namespace GeoRouter

/-- A packet in a container, with its headers as they were read or written last. -/
structure Packet (C : Type) where
  inner : C
  headers : Headers
  deriving DecidableEq

namespace Packet

variable {C : Type} [Container C]

def parse (c : C) : Except Fault (Except WireError (Packet C)) := do
  match ← Headers.parse (← Container.view c) with
  | .error reason => return .error reason
  | .ok headers => return .ok ⟨c, headers⟩

def emit (c : C) (headers : Headers) : Except Fault (Packet C) := do
  return ⟨← Container.overwrite c 0 headers.encode, headers⟩

def whole (packet : Packet C) : Except Fault Bytes := Container.view packet.inner

def payload (packet : Packet C) : Except Fault Bytes := do
  (← packet.whole).slice Headers.size packet.headers.payloadLength.toNat

def setRemainingHops (packet : Packet C) (hops : UInt8) : Except Fault (Packet C) := do
  return {
    inner := ← Container.overwrite packet.inner 3 [hops]
    headers := { packet.headers with remainingHops := hops } }

def setPayloadLength (packet : Packet C) (length : UInt16) : Except Fault (Packet C) := do
  return {
    inner := ← Container.overwrite packet.inner 8 (BigEndian.encode 2 length.toNat)
    headers := { packet.headers with payloadLength := length } }

/-- Replaces the whole payload by data of the same length. -/
def fill (packet : Packet C) (data : Bytes) : Except Fault (Packet C) := do
  if (← packet.payload).length ≠ data.length then throw .lengthMismatch
  return { packet with inner := ← Container.overwrite packet.inner Headers.size data }

end Packet

instance {C : Type} [Container C] : Container (Packet C) where
  view packet := packet.payload
  overwrite packet start data := do
    if (← packet.payload).length < start + data.length then throw .outOfBounds
    return { packet with inner := ← Container.overwrite packet.inner (Headers.size + start) data }
  resize packet length := do
    if UInt16.size ≤ length then return .error ⟨.badSize, packet⟩
    match ← Container.resize packet.inner (Headers.size + length) with
    | .error refusal => return .error ⟨refusal.cause, { packet with inner := refusal.left }⟩
    | .ok inner =>
      return .ok (← { packet with inner }.setPayloadLength (UInt16.ofNat length))

end GeoRouter
