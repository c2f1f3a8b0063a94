import GeoRouter.Proofs.Origination

/-!
# What a buffer held before

A buffer for a packet is resized and written over, never cleared. Each octet of a frame that goes
out was written all the same: nothing in it, and nothing else that comes of sending, depends on
what the buffer held.
-/

namespace GeoRouter

section Sending

variable {D : Type} [LT D] [LE D] [DecidableLT D] [DecidableLE D] (distance : Point → Point → D)

theorem Headers.frameLength_of_made {r : Router} {request : Request} {mac : Mac} {h : Headers}
    (made : r.headersFor distance request mac = .ok h) :
    h.frameLength = 14 + 60 + request.payload := by
  have payload : h.payloadLength.toNat = request.payload :=
    (Router.makes_of_headersFor distance made).payload
  rw [frameLength, totalLength, payload]
  exact (Nat.add_assoc 14 60 request.payload).symm

theorem Router.wasQueued_of_sent {r : Router} {adapter : Adapter}
    (sent : (r.send adapter).1 = .ok ()) :
    (r.send adapter).2.1.handle.wasQueued = true := by
  obtain ⟨address, queueing, time⟩ := adapter
  cases queueing with
  | refused => cases sent
  | possible | queued => rfl

/-- Two buffers with room for a packet, whatever they held: the parcel fares the same in both, the
router and the adapter come out the same, and if the parcel is queued so do the octets, of which
there are no more than the headers and the payload. -/
theorem Parcel.sent_frame_forgets_buffer (r : Router) (adapter : Adapter) (request : Request)
    (payload : Bytes) (a b : Buffer) (roomA : a.canTake (14 + 60 + payload.length) = true)
    (roomB : b.canTake (14 + 60 + payload.length) = true) :
    ∃ parcel router adapter' frameA frameB,
      offer distance (.ofRequest request payload) ⟨r, adapter, a⟩ =
        .ok (parcel, ⟨router, adapter', frameA⟩) ∧
      offer distance (.ofRequest request payload) ⟨r, adapter, b⟩ =
        .ok (parcel, ⟨router, adapter', frameB⟩) ∧
      (parcel.result = some (.ok ()) → adapter'.handle.wasQueued = true ∧
        frameA.bytes = frameB.bytes ∧ frameA.bytes.length = 14 + 60 + payload.length) := by
  have originated := r.originate_eq distance { request with payload := payload.length } adapter
    payload
  simp only [offer, ofRequest, bind, Except.bind, originated a rfl, originated b rfl]
  cases made : r.headersFor distance { request with payload := payload.length }
      adapter.address with
  | error reason =>
    refine ⟨_, _, _, _, _, rfl, rfl, ?_⟩
    intro queued
    cases queued
  | ok h =>
    have length : h.frameLength = 14 + 60 + payload.length := h.frameLength_of_made distance made
    simp only [length, if_pos roomA, if_pos roomB]
    refine ⟨_, _, _, _, _, rfl, rfl, ?_⟩
    intro queued
    refine ⟨Router.wasQueued_of_sent (Option.some.inj queued), rfl, ?_⟩
    show (h.framing.encode ++ (h.encode ++ payload)).length = _
    rw [List.length_append, List.length_append, FrameHeader.length_encode, Headers.length_encode]
    exact (Nat.add_assoc 14 60 payload.length).symm

end Sending

theorem Parcel.sent_frame_forgets_buffer_of_used :
    let distance : Point → Point → Nat := fun _ _ => 0
    let source : Address := Address.zero.withMid ⟨2⟩
    let destination : Address := Address.zero.withMid ⟨3⟩
    let r : Router := {
      locations := ⟨⟨[.ofAddress destination], []⟩⟩
      links := ⟨⟨[{ address := source }], []⟩⟩
      management := { time := some 1072915200005, position := some ⟨1, 2, 3, 4, true⟩ } }
    let parcel := ofRequest (r.request destination .btpB 1) [7]
    let place (buffer : Buffer) : Workplace := ⟨r, ⟨source.mac, .ofTime ⟨0⟩⟩, buffer⟩
    ∃ after empty used,
      parcel.offer distance (place (.ofAllocated [])) = .ok (after, empty) ∧
      parcel.offer distance (place (.ofAllocated (List.replicate 99 0xff))) = .ok (after, used) ∧
      after.result = some (.ok ()) ∧ empty.buffer.bytes = used.buffer.bytes ∧
      empty.buffer.bytes.length = 75 := by
  intro distance source destination r parcel place
  obtain ⟨after, router, adapter, empty, used, emptyRun, usedRun, same⟩ :=
    sent_frame_forgets_buffer distance r ⟨source.mac, .ofTime ⟨0⟩⟩
      (r.request destination .btpB 1) [7] (.ofAllocated [])
      (.ofAllocated (List.replicate 99 0xff)) rfl rfl
  have sent : after.result = some (.ok ()) := by
    have told : ((parcel.offer distance (place (.ofAllocated []))).toOption.bind
        (·.1.result)).bind (·.toOption) = some () := by
      decide +kernel
    rw [emptyRun] at told
    obtain ⟨answer, result, fine⟩ := Option.bind_eq_some_iff.mp told
    cases answer with
    | error reason => cases fine
    | ok => exact result
  obtain ⟨-, octets, length⟩ := same sent
  exact ⟨after, _, _, emptyRun, usedRun, sent, octets, length⟩

end GeoRouter
