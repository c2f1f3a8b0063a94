import GeoRouter.Buffer.Container
import GeoRouter.Error
import GeoRouter.Ethernet.Mac

/-!
# Ethernet frames

A header of fourteen octets (destination, source, protocol) in front of the payload. A frame is a
container around another one and remembers the header that was read or written last; its text and
its payload are taken from the octets as they are now.
-/

namespace GeoRouter

inductive EtherType where
  | geoNetworking
  | unknown (code : UInt16)
  deriving DecidableEq

namespace EtherType

def ofCode (code : UInt16) : EtherType :=
  if code = 0x8947 then .geoNetworking else .unknown code

def code : EtherType → UInt16
  | .geoNetworking => 0x8947
  | .unknown code => code

def name : EtherType → String
  | .geoNetworking => "GeoNetworking"
  | .unknown code => s!"Unknown({code.toNat})"

def text : EtherType → String
  | .geoNetworking => "GeoNetworking"
  | .unknown code => Hex.marked 4 code.toNat

end EtherType

structure FrameHeader where
  source : Mac
  destination : Mac
  kind : EtherType
  deriving DecidableEq

namespace FrameHeader

def size : Nat := 14

def encode (header : FrameHeader) : Bytes :=
  header.destination.octets ++ header.source.octets ++
    BigEndian.encode 2 header.kind.code.toNat

def read (b : Bytes) : Except Fault FrameHeader := do
  let destination ← Mac.read b 0
  let source ← Mac.read b 6
  let code ← b.word 12 2
  return { source, destination, kind := .ofCode (UInt16.ofNat code) }

def parse (b : Bytes) : Except Fault (Except WireError FrameHeader) := do
  if b.length < size then return .error .truncated
  return .ok (← read b)

def text (header : FrameHeader) : String :=
  s!"EthernetII src={header.source.text} dst={header.destination.text} type={header.kind.text}"

end FrameHeader

/-- An Ethernet frame in a container, with its header as it was read or written last. -/
structure Frame (C : Type) where
  inner : C
  header : FrameHeader
  deriving DecidableEq

namespace Frame

variable {C : Type} [Container C]

def parse (c : C) : Except Fault (Except WireError (Frame C)) := do
  match ← FrameHeader.parse (← Container.view c) with
  | .error reason => return .error reason
  | .ok header => return .ok ⟨c, header⟩

def emit (c : C) (header : FrameHeader) : Except Fault (Frame C) := do
  return ⟨← Container.overwrite c 0 header.encode, header⟩

def whole (frame : Frame C) : Except Fault Bytes := Container.view frame.inner

def text (frame : Frame C) : Except Fault String := do
  return (← FrameHeader.read (← frame.whole)).text

end Frame

instance {C : Type} [Container C] : Container (Frame C) where
  view frame := do (← frame.whole).suffix FrameHeader.size
  overwrite frame start data := do
    discard ((← frame.whole).suffix FrameHeader.size)
    return { frame with inner := ← Container.overwrite frame.inner (FrameHeader.size + start) data }
  resize frame length := do
    match ← Container.resize frame.inner (length + FrameHeader.size) with
    | .error refusal => return .error ⟨refusal.cause, { frame with inner := refusal.left }⟩
    | .ok inner => return .ok { frame with inner }

end GeoRouter
