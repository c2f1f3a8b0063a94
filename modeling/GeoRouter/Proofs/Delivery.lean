import GeoRouter.Proofs.Host
import GeoRouter.Proofs.Teaching

/-!
# From station to station

What a station sends is delivered by the station it is meant for, which learns where the sender
is. The two halves of the way meet at the headers: the sender's half says which headers stand in
the frame, and the receiver's half what becomes of a frame with such headers.
-/

namespace GeoRouter

/-! ### The sender -/

theorem Host.fill_ok {D : Type} [LT D] [LE D] [DecidableLT D] [DecidableLE D]
    (distance : Point → Point → D) {host after : Host} {request : Request} {payload : Bytes}
    {handle sentHandle : Handle} {buffer frame : Buffer} {parcel : Parcel}
    (filled : (fill distance handle buffer).run (host, .ofRequest request payload) =
      .ok ((sentHandle, frame), (after, parcel)))
    (queued : parcel.result = some (.ok ())) :
    ∃ h, host.router.Makes { request with payload := payload.length } host.address h ∧
      frame.bytes = h.framing.encode ++ (h.encode ++ payload) := by
  rw [fill_run] at filled
  simp only [Parcel.offer, Parcel.ofRequest, bind, Except.bind] at filled
  cases sent : (host.workplace handle buffer).router.originate distance
      (host.workplace handle buffer).adapter { request with payload := payload.length } payload
      (host.workplace handle buffer).buffer with
  | error fault =>
    rw [sent] at filled
    cases filled
  | ok result =>
    obtain ⟨answer, place⟩ := result
    rw [sent] at filled
    obtain ⟨work, state⟩ := Prod.mk.inj (Except.ok.inj filled)
    obtain ⟨-, rfl⟩ := Prod.mk.inj work
    obtain ⟨-, rfl⟩ := Prod.mk.inj state
    obtain rfl := Option.some.inj queued
    exact Router.originate_ok distance rfl sent

/-! ### The receiver -/

namespace Router

variable {D : Type} [LT D] [LE D] [DecidableLT D] [DecidableLE D] (distance : Point → Point → D)

theorem reception_of_local (place : Workplace)
    (admitted : Admitted place.adapter.address place.buffer.bytes)
    (clear : Headers.objection? (place.buffer.bytes.drop FrameHeader.size) = none)
    (owned : place.router.links.owns place.buffer.packet.headers.target = true)
    (transport : place.buffer.packet.headers.next.transport?.isSome)
    {swept : Router} (sweep : (place.router.poll place.adapter.time).2 = swept)
    (fresh : swept.locations.knows place.buffer.packet.headers.origin
      place.buffer.packet.headers.stamp = false)
    (room : swept.locations.HasRoom place.buffer.packet.headers.origin) :
    (reception distance place).outcome = .delivered place.buffer.packet ∧
      (reception distance place).place.router.locations =
        swept.learned place.adapter.time place.buffer.packet.headers := by
  have same := reception_of_fresh distance admitted clear sweep fresh
  subst sweep
  have links := place.router.links_poll place.adapter.time
  have delivered : (reception distance place).outcome = .delivered place.buffer.packet := by
    rw [same, freshly, processed, decide_eq, if_pos (by rw [links]; exact owned), decideLocal_eq]
    simp only [if_pos (LocationTable.hasRoom_restamp.mpr room), if_pos transport]
    rfl
  refine ⟨delivered, ?_⟩
  rw [same] at delivered ⊢
  rcases locations_freshly distance (place.router.poll place.adapter.time).2 place.adapter
    place.buffer.packet with ⟨-, learned, -⟩ | ⟨-, own⟩ | ⟨crowded, -⟩
  · exact learned
  · rw [own] at delivered
    cases delivered
  · exact absurd room crowded

/-- A packet of a new stamp that is neither for this station nor from it is learned, if there is
room for its source, and then what becomes of it is up to its way on. -/
theorem reception_of_transit (place : Workplace)
    (admitted : Admitted place.adapter.address place.buffer.bytes)
    (clear : Headers.objection? (place.buffer.bytes.drop FrameHeader.size) = none)
    (away : place.router.links.owns place.buffer.packet.headers.target = false)
    (foreign : place.router.links.owns place.buffer.packet.headers.origin = false)
    {swept : Router} (sweep : (place.router.poll place.adapter.time).2 = swept)
    (fresh : swept.locations.knows place.buffer.packet.headers.origin
      place.buffer.packet.headers.stamp = false)
    (room : swept.locations.HasRoom place.buffer.packet.headers.origin) :
    let taught := { swept with
      locations := swept.learned place.adapter.time place.buffer.packet.headers }
    reception distance place = taught.concluded place.adapter place.buffer.packet
      (taught.route distance place.buffer.packet.headers) := by
  have same := reception_of_fresh distance admitted clear sweep fresh
  have links := place.router.links_poll place.adapter.time
  rw [sweep] at links
  rw [← links] at away foreign
  have transit : decideTransit distance
      { swept with locations := swept.locations.restamp place.buffer.packet.headers }
      place.adapter.time place.buffer.packet.headers = _ := decideTransit_eq ..
  rw [if_neg (Bool.eq_false_iff.mp foreign), if_pos (LocationTable.hasRoom_restamp.mpr room),
    learned_restamp room] at transit
  rw [same, freshly, processed, decide_eq, if_neg (Bool.eq_false_iff.mp away), transit]

end Router

/-! ### Both -/

theorem LocalPosition.transmitted_vector (own : LocalPosition) (address : Address)
    (timestamp : Timestamp) :
    { own.vector address timestamp with
      speed := (own.vector address timestamp).speed % 0x8000 } =
    ({ address, timestamp, latitude := own.latitude, longitude := own.longitude,
       accurate := own.accurate, speed := own.speed % 0x8000, heading := own.heading } :
      LongPositionVector) := by
  have speed : (own.speed &&& 0x7fff) % 0x8000 = own.speed % 0x8000 := by
    have mask : (own.speed &&& 0x7fff).toNat = own.speed.toNat % 0x8000 := by
      rw [UInt16.toNat_and]
      exact Nat.and_two_pow_sub_one_eq_mod own.speed.toNat 15
    apply UInt16.toNat_inj.mp
    rw [UInt16.toNat_mod, UInt16.toNat_mod, mask]
    exact Nat.mod_mod own.speed.toNat 0x8000
  unfold vector
  rw [speed]

theorem NextHeader.ofCode_of_transport {next : NextHeader}
    (transport : next = .btpA ∨ next = .btpB) :
    ofCode (next.code % 16) = next ∧ next.transport?.isSome := by
  rcases transport with rfl | rfl
  · exact ⟨rfl, rfl⟩
  · exact ⟨rfl, rfl⟩

theorem Router.Makes.read {r : Router} {request : Request} {mac : Mac} {h : Headers}
    {payload : Bytes} (makes : r.Makes request mac h) (size : request.payload = payload.length)
    {received : Buffer} (bytes : received.bytes = h.framing.encode ++ (h.encode ++ payload)) :
    (∀ own, Admitted own received.bytes) ∧
      Headers.objection? (received.bytes.drop FrameHeader.size) = none ∧
      received.packet.headers = h.transmitted ∧ received.packet.payload = .ok payload := by
  have octets : received.bytes.drop FrameHeader.size = h.encode ++ payload := by
    rw [bytes]
    exact List.drop_left' (FrameHeader.length_encode h.framing)
  have headers : received.packet.headers = h.transmitted := by
    have read := h.inOctets_encode payload
    rw [← octets] at read
    exact read
  have length : h.payloadLength.toNat = payload.length := makes.payload.trans size
  have clear : Headers.objection? (received.bytes.drop FrameHeader.size) = none := by
    -- The remaining checks are of codes that the encoder writes as it should.
    have hops : ¬ h.maxHops < h.remainingHops := by
      rw [makes.hops]
      exact UInt8.lt_irrefl h.maxHops
    rw [octets, h.objection?_encode (Nat.le_of_eq length), if_neg hops]
  refine ⟨fun own => ?_, clear, headers, ?_⟩
  · rw [bytes]
    exact admitted_encode (.inr rfl) h.extended.source.address.mac _
  · have whole : received.packet.headers.payloadLength.toNat = payload.length := by
      rw [headers]
      exact length
    rw [Packet.payload_eq clear, octets, List.drop_left' h.length_encode, whole, List.take_length]

/-- Whatever a station queues for a transport of another one is handed to the handler of that
station, once and with nothing of it lost, if the station hears the very frame and has not heard
anything newer, and has a slot for the sender or knows it. From then on it knows the sender as a
neighbour that is where the sender took itself to be. -/
theorem sent_packet_is_delivered {D : Type} [LT D] [LE D] [DecidableLT D] [DecidableLE D]
    {distance : Point → Point → D} {sender after : Host} {request : Request} {payload : Bytes}
    {offered queued : Handle} {buffer frame : Buffer} {parcel : Parcel}
    (filled : (Host.fill distance offered buffer).run (sender, .ofRequest request payload) =
      .ok ((queued, frame), (after, parcel)))
    (sent : parcel.result = some (.ok ()))
    (transport : request.next = .btpA ∨ request.next = .btpB) :
    ∃ source timestamp own, sender.router.sourceAddress? sender.address = some source ∧
      sender.router.management.timestamp = some timestamp ∧
      sender.router.management.position = some own ∧
      ∀ (receiver : Host) (handle : Handle) (received : Buffer), received.bytes = frame.bytes →
        receiver.router.links.owns request.destination.mid = true →
        let swept := (receiver.router.poll handle.time).2.locations
        (swept.find? source.mid = none ∧ swept.size < swept.capacity ∨
          ∃ known, swept.find? source.mid = some known ∧
            Stamp.newer ⟨timestamp, sender.router.sequence⟩ known.stamp = true) →
        ∃ packet place entry,
          (∀ handler, (Host.take distance handler handle received).run receiver =
            (handler packet place).map fun after =>
              ((after.adapter.handle, after.buffer), Host.ofWorkplace after)) ∧
          packet.headers.next = request.next ∧ packet.payload = .ok payload ∧
          place.router.locations.find? source.mid = some entry ∧
          entry.position = {
            address := source, timestamp, latitude := own.latitude, longitude := own.longitude,
            accurate := own.accurate, speed := own.speed % 0x8000, heading := own.heading } ∧
          entry.timestamp = timestamp ∧ entry.sequence = sender.router.sequence ∧
          entry.neighbour = true := by
  obtain ⟨h, makes, bytes⟩ := Host.fill_ok distance filled sent
  obtain ⟨own, position, link, vector⟩ := makes.source
  refine ⟨h.extended.source.address, h.extended.source.timestamp, own, link, makes.clock,
    position, ?_⟩
  intro receiver handle received same owned swept newer
  obtain ⟨admitted, clear, headers, readable⟩ := makes.read rfl (same.trans bytes)
  obtain ⟨code, taken⟩ := NextHeader.ofCode_of_transport transport
  have next : received.packet.headers.next = request.next := by
    rw [headers, ← code, ← makes.next]
    rfl
  have target : received.packet.headers.target = request.destination.mid := by
    rw [headers]
    exact makes.target
  have origin : received.packet.headers.origin = h.extended.source.address.mid := by
    rw [headers]
    rfl
  have stamp : received.packet.headers.stamp =
      ⟨h.extended.source.timestamp, sender.router.sequence⟩ := by
    rw [headers, ← makes.sequence]
    rfl
  -- In terms of what the receiver reads, the premise on its table is that of reception.
  have fresh : swept.knows received.packet.headers.origin received.packet.headers.stamp = false ∧
      swept.HasRoom received.packet.headers.origin := by
    rw [origin, stamp]
    rcases newer with ⟨absent, free⟩ | ⟨known, found, newer⟩
    · refine ⟨?_, .inr (Nat.ne_of_lt free)⟩
      unfold LocationTable.knows
      rw [absent]
      rfl
    · refine ⟨?_, .inl (by rw [found]; rfl)⟩
      rw [LocationTable.knows_of_found found, newer]
      rfl
  obtain ⟨unknown, room⟩ := fresh
  let place := receiver.workplace handle received
  obtain ⟨delivered, learned⟩ := Router.reception_of_local distance place
    (admitted receiver.address) clear (target ▸ owned) (next ▸ taken) rfl unknown room
  refine ⟨received.packet, (Router.reception distance place).place,
    (receiver.router.poll handle.time).2.lesson handle.time received.packet.headers,
    ?_, next, readable, ?_, ?_, ?_, ?_, ?_⟩
  · intro handler
    rw [Host.take_run, Host.handOver, delivered]
    rfl
  · rw [learned]
    exact (Router.find?_learned room _).trans (if_pos origin.symm)
  · show received.packet.headers.extended.source = _
    have read : received.packet.headers.extended.source =
        { h.extended.source with speed := h.extended.source.speed % 0x8000 } := by
      rw [headers]
      rfl
    rw [read, vector]
    exact own.transmitted_vector _ _
  · exact congrArg Stamp.timestamp stamp
  · exact congrArg Stamp.sequence stamp
  · show decide (received.packet.headers.remainingHops = received.packet.headers.maxHops) = true
    rw [headers]
    exact decide_eq_true makes.hops

/-- A first payload is sent to a station that has never heard of the sender. -/
theorem sent_packet_is_delivered_to_stranger :
    let distance : Point → Point → Nat := fun _ _ => 0
    let source : Address := Address.zero.withMid ⟨2⟩
    let destination : Address := Address.zero.withMid ⟨3⟩
    let sender : Host := {
      router := {
        locations := ⟨⟨[.ofAddress destination], []⟩⟩
        links := ⟨⟨[{ address := source }], []⟩⟩
        management := { time := some 1072915200005, position := some ⟨1, 2, 0x8003, 4, true⟩ } }
      address := source.mac }
    let receiver : Host := {
      router := { locations := .ofCapacity 1, links := ⟨⟨[{ address := destination }], []⟩⟩ }
      address := destination.mac }
    let request := sender.router.request destination .btpB 1
    ∃ queued frame after parcel, (Host.fill distance (.ofTime ⟨0⟩) (.ofAllocated [])).run
        (sender, .ofRequest request [7]) = .ok ((queued, frame), (after, parcel)) ∧
      ∃ (packet : FramedPacket) (place : Workplace) (entry : Entry),
        (∀ handler, (Host.take distance handler (.ofTime ⟨0⟩) frame).run receiver =
          (handler packet place).map fun after =>
            ((after.adapter.handle, after.buffer), Host.ofWorkplace after)) ∧
        packet.headers.next = .btpB ∧ packet.payload = .ok [7] ∧
        place.router.locations.find? ⟨2⟩ = some entry ∧
        entry.position = ⟨⟨source, ⟨5⟩, 1, 2⟩, true, 3, 4⟩ ∧ entry.sequence = .first ∧
        entry.neighbour = true := by
  intro distance source destination sender receiver request
  obtain ⟨⟨⟨queued, frame⟩, after, parcel⟩, filled⟩ :=
    Host.fill_answers distance (.ofTime ⟨0⟩) (.ofAllocated []) sender request [7] none
  have sent : parcel.result = some (.ok ()) := by
    have told : (((Host.fill distance (.ofTime ⟨0⟩) (.ofAllocated [])).run
        (sender, { Parcel.ofRequest request [7] with result := none })).toOption.bind
        (·.2.2.result)).bind (·.toOption) = some () := by
      decide +kernel
    rw [filled] at told
    obtain ⟨answer, result, fine⟩ := Option.bind_eq_some_iff.mp told
    cases answer with
    | error reason => cases fine
    | ok => exact result
  obtain ⟨address, timestamp, own, link, clock, position, delivers⟩ :=
    sent_packet_is_delivered filled sent (.inr rfl)
  have known : sender.router.sourceAddress? sender.address = some source ∧
      sender.router.management.timestamp = some ⟨5⟩ := by
    decide +kernel
  obtain rfl : source = address := Option.some.inj (known.1.symm.trans link)
  obtain rfl : ⟨5⟩ = timestamp := Option.some.inj (known.2.symm.trans clock)
  obtain rfl : ⟨1, 2, 0x8003, 4, true⟩ = own := Option.some.inj position
  obtain ⟨packet, place, entry, calls, next, payload, found, vector, -, sequence, neighbour⟩ :=
    delivers receiver (.ofTime ⟨0⟩) frame rfl (by decide +kernel) (.inl (by decide +kernel))
  exact ⟨queued, frame, after, parcel, filled, packet, place, entry, calls, next, payload, found,
    vector, sequence, neighbour⟩

end GeoRouter
