import GeoRouter.Proofs.Forwarding
import GeoRouter.Proofs.Origination

/-!
# A station at its device

The router behind the adapter behind the device: what happens to a buffer that the device hands out
for receiving or for sending, with any handler for what is delivered. No octets, however many and
in whatever buffer, lead to a fault.
-/

namespace GeoRouter

structure Host where
  router : Router
  address : Mac
  deriving DecidableEq

/-- What is done with a delivered packet. It may change the buffer and send through the router. -/
abbrev Handler := FramedPacket → Workplace → Except Fault Workplace

/-- The contract of a handler: it ends on every packet whose payload it can read. -/
def Handler.Ends (handler : Handler) : Prop :=
  ∀ packet place payload, packet.payload = .ok payload → ∃ after, handler packet place = .ok after

namespace Host

def workplace (host : Host) (handle : Handle) (buffer : Buffer) : Workplace :=
  ⟨host.router, ⟨host.address, handle⟩, buffer⟩

def ofWorkplace (place : Workplace) : Host := ⟨place.router, place.adapter.address⟩

section Work

variable {D : Type} [LT D] [LE D] [DecidableLT D] [DecidableLE D] (distance : Point → Point → D)

/-- Calls the handler with a delivered packet, and with no other. -/
def handOver (handler : Handler) (reception : Reception) : Except Fault Workplace :=
  match reception.outcome with
  | .delivered packet => handler packet reception.place
  | _ => .ok reception.place

def take (handler : Handler) (handle : Handle) (buffer : Buffer) :
    StateT Host (Except Fault) (Handle × Buffer) := do
  let host ← get
  let reception ← Router.receive distance (host.workplace handle buffer)
  let place ← handOver handler reception
  set (ofWorkplace place)
  return (place.adapter.handle, place.buffer)

def fill (handle : Handle) (buffer : Buffer) :
    StateT (Host × Parcel) (Except Fault) (Handle × Buffer) := do
  let (host, parcel) ← get
  let (parcel, place) ← parcel.offer distance (host.workplace handle buffer)
  set (ofWorkplace place, parcel)
  return (place.adapter.handle, place.buffer)

end Work
end Host

/-! ### Ending without a fault -/

def Answers {σ α : Type} (x : StateT σ (Except Fault) α) (s : σ) : Prop :=
  ∃ answer, x.run s = .ok answer

namespace Answers

variable {σ α β : Type} {s : σ}

theorem bind {x : StateT σ (Except Fault) α} {f : α → StateT σ (Except Fault) β}
    (first : Answers x s) (rest : ∀ a next, Answers (f a) next) : Answers (x >>= f) s := by
  obtain ⟨⟨a, next⟩, ran⟩ := first
  obtain ⟨answer, ended⟩ := rest a next
  refine ⟨answer, ?_⟩
  rw [StateT.run_bind, ran]
  exact ended

end Answers

namespace Device

variable {B σ : Type} {work : Handle → B → StateT σ (Except Fault) (Handle × B)} {s : σ}
  (works : ∀ handle buffer, Answers (work handle buffer) s) (d : Device B) (most : Nat)
include works

theorem offer_answers {index : Nat} (inside : index < d.buffers.length) :
    Answers (d.offer index work) s := by
  unfold offer
  rw [List.getElem?_eq_getElem inside]
  exact (works _ _).bind fun _ _ => ⟨_, rfl⟩

theorem receive_answers : Answers (d.receive most work) s := by
  unfold receive
  split
  · exact ⟨_, rfl⟩
  · rename_i waiting
    have inside : d.received < d.buffers.length := by
      unfold toReceive at waiting
      rw [not_or] at waiting
      omega
    exact (d.offer_answers works inside).bind fun _ _ => ⟨_, rfl⟩

theorem transmit_answers : Answers (d.transmit most work) s := by
  unfold transmit
  split
  · exact ⟨_, rfl⟩
  · rename_i waiting
    have inside : d.split + d.sent < d.buffers.length := by
      unfold toSend at waiting
      rw [not_or] at waiting
      omega
    refine (d.offer_answers works inside).bind fun answer next => ?_
    dsimp only
    split
    · exact ⟨_, rfl⟩
    · exact ⟨_, rfl⟩

end Device

namespace Host

variable {D : Type} [LT D] [LE D] [DecidableLT D] [DecidableLE D] (distance : Point → Point → D)

theorem handOver_answers {handler : Handler} (ends : handler.Ends) (place : Workplace) :
    ∃ after, handOver handler (Router.reception distance place) = .ok after := by
  unfold handOver
  cases outcome : (Router.reception distance place).outcome with
  | delivered packet =>
    obtain ⟨-, payload, readable⟩ := Router.payload_of_delivered distance outcome
    exact ends packet _ payload readable
  | ignored | forwarded nextHop | discarded cause => exact ⟨_, rfl⟩

theorem run_lift {σ α : Type} (x : Except Fault α) (s : σ) :
    (liftM x : StateT σ (Except Fault) α).run s = x.map (·, s) := by
  cases x <;> rfl

/-- Taking a buffer is receiving it and doing with it what the handler does. -/
theorem take_run (handler : Handler) (handle : Handle) (buffer : Buffer) (host : Host) :
    (take distance handler handle buffer).run host =
      (handOver handler (Router.reception distance (host.workplace handle buffer))).map
        fun after => ((after.adapter.handle, after.buffer), ofWorkplace after) := by
  have received := Router.receive_eq distance (host.workplace handle buffer)
  simp only [take, StateT.run_bind, StateT.run_get, pure_bind, received, run_lift]
  simp only [bind, Except.bind, Except.map]
  cases handOver handler (Router.reception distance (host.workplace handle buffer)) <;> rfl

theorem fill_run (handle : Handle) (buffer : Buffer) (host : Host) (parcel : Parcel) :
    (fill distance handle buffer).run (host, parcel) =
      (parcel.offer distance (host.workplace handle buffer)).map fun (parcel, place) =>
        ((place.adapter.handle, place.buffer), (ofWorkplace place, parcel)) := by
  simp only [fill, StateT.run_bind, StateT.run_get, pure_bind, run_lift]
  simp only [bind, Except.bind, Except.map]
  cases parcel.offer distance (host.workplace handle buffer) <;> rfl

theorem take_answers {handler : Handler} (ends : handler.Ends) (handle : Handle)
    (buffer : Buffer) (host : Host) : Answers (take distance handler handle buffer) host := by
  obtain ⟨after, handled⟩ := handOver_answers distance ends (host.workplace handle buffer)
  refine ⟨((after.adapter.handle, after.buffer), ofWorkplace after), ?_⟩
  rw [take_run, handled]
  rfl

/-- A parcel whose request was made for its payload reaches no fault. -/
theorem fill_answers (handle : Handle) (buffer : Buffer) (host : Host) (request : Request)
    (payload : Bytes) (result : Option (Except OperationError Unit)) :
    Answers (fill distance handle buffer)
      (host, { Parcel.ofRequest request payload with result }) := by
  obtain ⟨⟨parcel, place⟩, offered⟩ :=
    Parcel.offer_answers distance request payload result (host.workplace handle buffer)
  refine ⟨((place.adapter.handle, place.buffer), (ofWorkplace place, parcel)), ?_⟩
  rw [fill_run, offered]
  rfl

/-- Whatever the octets of a received buffer are and however it can be resized, the device hands it
over and the router answers; and so they do for a buffer that is to be filled with a packet, for
every request and every payload. -/
theorem device_never_faults {handler : Handler} (ends : handler.Ends) (device : Device Buffer)
    (most : Nat) (host : Host) :
    (∃ answer, (device.receive most (take distance handler)).run host = .ok answer) ∧
      ∀ request payload result, ∃ answer, (device.transmit most (fill distance)).run
        (host, { Parcel.ofRequest request payload with result }) = .ok answer := by
  constructor
  · exact device.receive_answers (take_answers distance ends · · host) most
  · intro request payload result
    exact device.transmit_answers (fill_answers distance · · host request payload result) most

/-- A handler that leaves the payload in place of the frame is called with a packet for the station
and reads it. -/
theorem device_never_faults_of_reader :
    let handler : Handler := fun packet place => do
      let payload ← packet.payload
      return { place with buffer := .ofFixed payload }
    let host : Host := ⟨{
      locations := .ofCapacity 1
      links := ⟨⟨[{ address := Address.zero.withMid ⟨3⟩ }], []⟩⟩ }, (⟨3⟩ : Mid).mac⟩
    let device : Device Buffer := .forReceiving [passingFrame host.address 10 [7], .ofAllocated []]
    let received := (device.receive 1 (take (fun _ _ => (0 : Nat)) handler)).run host
    handler.Ends ∧ ∃ count later after, received = .ok ((count, later), after) ∧
      later.buffers = [.ofFixed [7], .ofAllocated []] ∧ after.router.counters.delivered = 1 := by
  intro handler host device received
  have ends : handler.Ends := by
    intro packet place payload readable
    refine ⟨{ place with buffer := .ofFixed payload }, ?_⟩
    simp only [handler, readable]
    rfl
  obtain ⟨⟨⟨count, later⟩, after⟩, answers⟩ :=
    (device_never_faults (fun _ _ => (0 : Nat)) ends device 1 host).1
  have left : received.toOption.map (fun answer =>
      (answer.1.2.buffers, answer.2.router.counters.delivered)) =
      some ([.ofFixed [7], .ofAllocated []], 1) := by decide +kernel
  have same : received = .ok ((count, later), after) := answers
  rw [same] at left
  obtain ⟨buffers, delivered⟩ := Prod.mk.inj (Option.some.inj left)
  exact ⟨ends, count, later, after, same, buffers, delivered⟩

end Host
end GeoRouter
