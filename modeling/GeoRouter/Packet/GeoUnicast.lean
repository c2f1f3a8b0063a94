import GeoRouter.Packet.Fields
import GeoRouter.Packet.PositionVector

/-!
# The GeoUnicast header

The extended header of a packet to a single station: the number of the packet, where its source
was when it sent it and where its destination was when it was last heard of.
-/

namespace GeoRouter

structure GeoUnicast where
  sequence : SequenceNumber
  source : LongPositionVector
  destination : ShortPositionVector
  deriving DecidableEq

namespace GeoUnicast

def sequenceOffset : Nat := 0

def reservedOffset : Nat := 2

def sourceOffset : Nat := 4

def destinationOffset : Nat := 28

def size : Nat := 48

def encode (header : GeoUnicast) : Bytes :=
  BigEndian.encode 2 header.sequence.val.toNat ++ [0, 0] ++ header.source.encode ++
    header.destination.encode

def read (b : Bytes) : Except Fault GeoUnicast := do
  let sequence ← b.word sequenceOffset 2
  let source ← LongPositionVector.read b sourceOffset
  let destination ← ShortPositionVector.read b destinationOffset
  return { sequence := ⟨BitVec.ofNat 16 sequence⟩, source, destination }

def parse (b : Bytes) : Except Fault (Except WireError GeoUnicast) := do
  if b.length < size then return .error .truncated
  return .ok (← read b)

def emit (b : Bytes) (header : GeoUnicast) : Except Fault Bytes := b.overwrite 0 header.encode

def setSequence (b : Bytes) (sn : SequenceNumber) : Except Fault Bytes :=
  b.overwrite sequenceOffset (BigEndian.encode 2 sn.val.toNat)

def clearReserved (b : Bytes) : Except Fault Bytes := b.overwrite reservedOffset [0, 0]

def setSource (b : Bytes) (v : LongPositionVector) : Except Fault Bytes :=
  b.overwrite sourceOffset v.encode

def setDestination (b : Bytes) (v : ShortPositionVector) : Except Fault Bytes :=
  b.overwrite destinationOffset v.encode

end GeoUnicast
end GeoRouter
