import GeoRouter.Device
import GeoRouter.Ethernet.Frame

/-!
# The Ethernet adapter of a station

While a buffer is being worked with, the adapter is the station's own Ethernet address together with
the handle of that buffer. Frames for other stations are filtered out; a frame to send is either
laid out anew in a buffer or made from a received one, whose tail stays what it was.
-/

namespace GeoRouter

structure Adapter where
  address : Mac
  handle : Handle
  deriving DecidableEq

namespace Adapter

def time (adapter : Adapter) : Instant := adapter.handle.time

def queue (adapter : Adapter) : Except OperationError Unit × Adapter :=
  let (answer, handle) := adapter.handle.queue
  (answer, { adapter with handle })

end Adapter

namespace Mac

/-- Whether a station with this address takes frames for a destination. -/
def accepts (own destination : Mac) : Bool := destination = own || destination.isBroadcast

end Mac

namespace Frame

variable {C : Type} [Container C]

def incoming? (own : Mac) (c : C) : Except Fault (Option (Frame C)) := do
  match ← parse c with
  | .error _ => return none
  | .ok frame => return if own.accepts frame.header.destination then some frame else none

end Frame

structure FrameRequest where
  header : FrameHeader
  payload : Nat
  deriving DecidableEq

namespace FrameRequest

variable {C : Type} [Container C]

/-- The length of the frame in a word of 64 bits, which is taken to be wide enough for the octets
that are there. -/
def length (request : FrameRequest) (present : Nat) : Nat :=
  (FrameHeader.size + request.payload) % max UInt64.size (present + 1)

/-- Lays the frame out in a container, whose octets behind the header mean nothing yet. -/
def prepare (request : FrameRequest) (c : C) :
    Except Fault (Answer OperationError C (Frame C)) := do
  match ← Container.resize c (request.length 0) with
  | .error refusal => return .error ⟨.ofSize refusal.cause, refusal.left⟩
  | .ok c =>
    if (← Container.view c).length < FrameHeader.size then return .error ⟨.badSize, c⟩
    return .ok (← Frame.emit c request.header)

/-- Makes the frame from another one. The octets that both payloads have room for stay at the end
of the frame. -/
def reuse (request : FrameRequest) (frame : Frame C) :
    Except Fault (Answer OperationError C (Frame C)) := do
  let present := (← frame.whole).length
  if present < FrameHeader.size then throw .outOfBounds
  let length := request.length present
  let kept := min request.payload (present - FrameHeader.size)
  match ← Container.relocate frame.inner {
      length
      source := ⟨present - kept, present⟩
      target := ⟨length - kept, length⟩ } with
  | .error refusal => return .error ⟨.ofSize refusal.cause, refusal.left⟩
  | .ok c => return .ok (← Frame.emit c request.header)

end FrameRequest
end GeoRouter
