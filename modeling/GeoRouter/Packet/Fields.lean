import GeoRouter.Clock.Duration
import GeoRouter.Clock.Wraparound
import GeoRouter.Text.Hex

/-!
# Small fields of the headers

The traffic class, the lifetime and the sequence number of a packet.
-/

namespace GeoRouter

structure TrafficClass where
  /-- The packet may be stored while there is no next hop. -/
  storeCarryForward : Bool := false
  /-- The packet may be moved to another channel. -/
  channelOffload : Bool := false
  /-- The identifier, of which six bits are transmitted. -/
  id : UInt8 := 0
  deriving DecidableEq

namespace TrafficClass

def ofCode (code : UInt8) : TrafficClass :=
  ⟨code &&& 0x80 ≠ 0, code &&& 0x40 ≠ 0, code &&& 0x3f⟩

/-- Two flags and the lowest six bits of the identifier. -/
def code (tc : TrafficClass) : UInt8 :=
  (if tc.storeCarryForward then 0x80 else 0) ||| (if tc.channelOffload then 0x40 else 0) |||
    (tc.id &&& 0x3f)

def text (tc : TrafficClass) : String := Hex.marked 2 tc.code.toNat

end TrafficClass

/-- How long a packet may be kept: a multiple, in the upper six bits, of a unit that the lower two
bits choose. -/
structure Lifetime where
  code : UInt8
  deriving DecidableEq

namespace Lifetime

def maxMultiple : Nat := 63

def unit (choice : Nat) : Nat :=
  match choice with
  | 0 => 50
  | 1 => 1000
  | 2 => 10000
  | _ => 100000

def duration (lifetime : Lifetime) : Duration :=
  .ofMillis (lifetime.code.toNat / 4 * unit (lifetime.code.toNat % 4))

/-- The first unit in which a number of milliseconds has no multiple that is too large, or the
coarsest one. -/
def choiceFor (millis : Nat) : Nat :=
  if millis / unit 0 ≤ maxMultiple then 0
  else if millis / unit 1 ≤ maxMultiple then 1
  else if millis / unit 2 ≤ maxMultiple then 2
  else 3

/-- The longest lifetime in the finest unit that is not longer than a duration. -/
def ofDuration (d : Duration) : Lifetime :=
  let choice := choiceFor d.unsignedMillis
  ⟨UInt8.ofNat (min (d.unsignedMillis / unit choice) maxMultiple * 4 + choice)⟩

end Lifetime

/-- The number that a source gives to a packet: from one upwards, and one again after the last,
so that zero is never given. -/
structure SequenceNumber where
  val : BitVec 16
  deriving DecidableEq

namespace SequenceNumber

def first : SequenceNumber := ⟨1⟩

def next (sn : SequenceNumber) : SequenceNumber :=
  if sn.val = BitVec.allOnes 16 then first else ⟨sn.val + 1⟩

def newer (a b : SequenceNumber) : Bool := Wraparound.newer a.val b.val

def text (sn : SequenceNumber) : String := s!"#{sn.val.toNat}"

end SequenceNumber
end GeoRouter
