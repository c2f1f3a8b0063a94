import GeoRouter.Clock.Instant
import GeoRouter.Error

/-!
# The device

A list of buffers that is split in two: those before the split wait to be received, those from it
on wait to be filled and sent. A buffer is handed out together with a handle, through which whoever
has the buffer may queue it. A received buffer that is queued goes out again, as a router does that
forwards a frame in place.
-/

namespace GeoRouter

inductive Queueing where
  | refused
  | possible
  | queued
  deriving DecidableEq

/-- What is handed out with a buffer: how to queue it, and the time. -/
structure Handle where
  queueing : Queueing
  time : Instant
  deriving DecidableEq

namespace Handle

def ofTime (time : Instant) : Handle := ⟨.possible, time⟩

def refusing (time : Instant) : Handle := ⟨.refused, time⟩

def queue (handle : Handle) : Except OperationError Unit × Handle :=
  match handle.queueing with
  | .refused => (.error .illegal, handle)
  | _ => (.ok (), { handle with queueing := .queued })

def wasQueued (handle : Handle) : Bool := handle.queueing = .queued

end Handle

structure Device (B : Type) where
  buffers : List B
  received : Nat := 0
  sent : Nat := 0
  /-- The number of received buffers that were queued. -/
  requeued : Nat := 0
  /-- The number of buffers to receive in all. -/
  split : Nat := 0
  /-- The time that handles tell. -/
  time : Instant := ⟨0⟩
  deriving DecidableEq

namespace Device

variable {B : Type}

def forSending (buffers : List B) : Device B := { buffers }

def forReceiving (buffers : List B) : Device B := { buffers, split := buffers.length }

def toReceive (d : Device B) : Nat := min d.buffers.length d.split - d.received

def toSend (d : Device B) : Nat := d.buffers.length - d.split - d.sent

def setSplit (d : Device B) (split : Nat) : Device B := { d with split }

def resetSent (d : Device B) : Device B := { d with sent := 0 }

def resetReceived (d : Device B) : Device B := { d with received := 0 }

def receiveAll (d : Device B) : Device B := (d.setSplit d.buffers.length).resetReceived

def sendAll (d : Device B) : Device B := (d.setSplit 0).resetSent

def put (d : Device B) (index : Nat) (buffer : B) : Device B :=
  { d with buffers := d.buffers.set index buffer }

section Offering

variable {m : Type → Type} [Monad m] [MonadExceptOf Fault m]

/-- Offers a buffer to whoever works with it, and puts it back as it comes back. -/
def offer (d : Device B) (index : Nat) (work : Handle → B → m (Handle × B)) :
    m (Handle × Device B) := do
  match d.buffers[index]? with
  | none => throw Fault.outOfBounds
  | some buffer =>
    let (handle, buffer) ← work (.ofTime d.time) buffer
    return (handle, d.put index buffer)

def transmit (d : Device B) (most : Nat) (fill : Handle → B → m (Handle × B)) :
    m (Nat × Device B) := do
  if most = 0 ∨ d.toSend = 0 then return (0, d)
  let (handle, d) ← d.offer (d.split + d.sent) fill
  if handle.wasQueued then return (1, { d with sent := d.sent + 1 }) else return (0, d)

def receive (d : Device B) (most : Nat) (take : Handle → B → m (Handle × B)) :
    m (Nat × Device B) := do
  if most = 0 ∨ d.toReceive = 0 then return (0, d)
  let (handle, d) ← d.offer d.received take
  return (1, { d with
    received := d.received + 1
    requeued := d.requeued + if handle.wasQueued then 1 else 0 })

end Offering
end Device
end GeoRouter
