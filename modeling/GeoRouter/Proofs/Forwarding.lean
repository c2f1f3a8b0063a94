import GeoRouter.Proofs.Reception

/-!
# Forwarding in place

A packet goes on in the buffer that it came in. `Forwards` says all that the router does to it:
the hop limit is one less, the link addresses are those of the station and of the next hop, and no
other octet is written that was not there before. A packet that is dropped for anything but the
queue has not been touched.
-/

namespace GeoRouter

theorem Bytes.octetAt_drop (b : Bytes) (n i : Nat) : octetAt (b.drop n) i = b.octetAt (n + i) := by
  simp only [octetAt, List.getD_eq_getElem?_getD, List.getElem?_drop]

namespace Buffer

def sentOn (buffer : Buffer) (own nextHop : Mac) : Buffer :=
  (buffer.takeHop buffer.packet.headers.remainingHops).stamp
    (FrameHeader.encode ⟨own, nextHop, .geoNetworking⟩)

theorem remainingHops_packet (buffer : Buffer) :
    buffer.packet.headers.remainingHops = buffer.bytes.octetAt 17 :=
  Bytes.octetAt_drop buffer.bytes 14 3

end Buffer

/-- A frame as it was received, and as a station with the address `own` sends it on. -/
structure SentOn (own nextHop : Mac) (before after : Bytes) : Prop where
  length : after.length = before.length
  destination : after.take 6 = nextHop.octets
  source : (after.drop 6).take 6 = own.octets
  hop : (after.octetAt 17).toNat + 1 = (before.octetAt 17).toNat
  left : 1 ≤ (after.octetAt 17).toNat
  others : ∀ i, 12 ≤ i → i ≠ 17 → after[i]? = before[i]?

theorem Admitted.protocol_octets {own : Mac} {b : Bytes} (admitted : Admitted own b) :
    b[12]? = some 0x89 ∧ b[13]? = some 0x47 := by
  have long := admitted.long
  have width : ((b.drop 12).take 2).length = 2 := by
    rw [List.length_take, List.length_drop]
    omega
  have word : (b.drop 12).take 2 = [0x89, 0x47] :=
    BigEndian.decode_injective width (admitted.protocol.trans (by decide))
  have first := congrArg (·[0]?) word
  have second := congrArg (·[1]?) word
  simp only [List.getElem?_take, List.getElem?_drop] at first second
  exact ⟨first, second⟩

theorem Buffer.sentOn_spec {own nextHop : Mac} {buffer : Buffer}
    (admitted : Admitted own buffer.bytes) (long : FrameHeader.size + 4 ≤ buffer.bytes.length)
    (spare : 1 < buffer.packet.headers.remainingHops) :
    SentOn own nextHop buffer.bytes (buffer.sentOn own nextHop).bytes := by
  have size : FrameHeader.size = 14 := rfl
  have header := FrameHeader.length_encode ⟨own, nextHop, .geoNetworking⟩
  have taken := buffer.length_takeHop long buffer.packet.headers.remainingHops
  have sent : (buffer.sentOn own nextHop).bytes =
      (buffer.takeHop buffer.packet.headers.remainingHops).bytes.splice 0
        (FrameHeader.encode ⟨own, nextHop, .geoNetworking⟩) := rfl
  have front := Bytes.splice_zero (buffer.takeHop buffer.packet.headers.remainingHops).bytes
    (FrameHeader.encode ⟨own, nextHop, .geoNetworking⟩)
  have behind (i : Nat) (far : 14 ≤ i) : (buffer.sentOn own nextHop).bytes[i]? =
      (buffer.takeHop buffer.packet.headers.remainingHops).bytes[i]? := by
    rw [sent]
    exact Bytes.getElem?_splice_outside (by omega) (.inr (by omega))
  have hop : (buffer.sentOn own nextHop).bytes.octetAt 17 = buffer.bytes.octetAt 17 - 1 := by
    have single : 0 < [buffer.packet.headers.remainingHops - 1].length := Nat.zero_lt_one
    have written := Bytes.getElem?_splice_inside (b := buffer.bytes) long single
    rw [Bytes.octetAt, List.getD_eq_getElem?_getD, behind 17 (by decide)]
    rw [buffer.remainingHops_packet] at written ⊢
    exact congrArg (·.getD 0) written
  have more : 1 < (buffer.bytes.octetAt 17).toNat := by
    rw [← buffer.remainingHops_packet]
    exact UInt8.lt_iff_toNat_lt.mp spare
  have less : (buffer.bytes.octetAt 17 - 1).toNat = (buffer.bytes.octetAt 17).toNat - 1 :=
    UInt8.toNat_sub_of_le _ _ (UInt8.le_iff_toNat_le.mpr (Nat.le_of_lt more))
  constructor
  · rw [sent, Bytes.length_splice (by omega), taken]
  · rw [sent, front]
    rfl
  · rw [sent, front]
    rfl
  · rw [hop, less]
    omega
  · rw [hop, less]
    omega
  · intro i link other
    by_cases far : 14 ≤ i
    · rw [behind i far]
      exact Bytes.getElem?_splice_outside long (by simp only [List.length_singleton]; omega)
    · -- The protocol is written again, as the one that the filter of the adapter let through.
      obtain ⟨first, second⟩ := admitted.protocol_octets
      have last : i = 12 ∨ i = 13 := by omega
      have written : BigEndian.encode 2 EtherType.geoNetworking.code.toNat = [0x89, 0x47] := by
        decide
      rw [sent, front, FrameHeader.encode, written]
      rcases last with rfl | rfl
      · rw [first]
        rfl
      · rw [second]
        rfl

namespace Router

theorem forwarded_of_concluded {r : Router} {adapter : Adapter} {packet : FramedPacket}
    {verdict : Verdict} {nextHop : Mac}
    (forwarded : (r.concluded adapter packet verdict).outcome = .forwarded nextHop) :
    verdict = .forward nextHop ∧ adapter.handle.queueing ≠ .refused := by
  cases verdict with
  | deliver => cases forwarded
  | drop cause => cases forwarded
  | forward other =>
    simp only [concluded, passedOn] at forwarded
    split at forwarded
    · cases forwarded
    · rename_i queued
      obtain rfl := Outcome.forwarded.inj forwarded
      exact ⟨rfl, queued⟩

theorem place_of_discarded {r : Router} {adapter : Adapter} {packet : FramedPacket}
    {verdict : Verdict} {cause : Cause} (other : cause ≠ .queue)
    (discarded : (r.concluded adapter packet verdict).outcome = .discarded cause) :
    (r.concluded adapter packet verdict).place.buffer = packet.buffer ∧
      (r.concluded adapter packet verdict).place.adapter = adapter := by
  cases verdict with
  | deliver => cases discarded
  | drop cause => exact ⟨rfl, rfl⟩
  | forward nextHop =>
    simp only [concluded, passedOn] at discarded
    split at discarded
    · exact absurd (Outcome.discarded.inj discarded).symm other
    · cases discarded

section Total

variable {D : Type} [LT D] [LE D] [DecidableLT D] [DecidableLE D] (distance : Point → Point → D)

/-- What it takes for a packet to be sent on to a next hop, and what is changed by that. -/
structure Forwards (place : Workplace) (nextHop : Mac) (after : Reception) : Prop where
  admitted : Admitted place.adapter.address place.buffer.bytes
  clear : Headers.objection? (place.buffer.bytes.drop FrameHeader.size) = none
  spare : 1 < place.buffer.packet.headers.remainingHops
  choice : ∃ own choice, place.router.management.position = some own ∧
    after.place.router.locations.nextHop distance own.point
      place.buffer.packet.headers.extended.destination.point
      place.buffer.packet.headers.trafficClass = choice ∧ choice ≠ .buffer ∧ choice.mac = nextHop
  adapter : after.place.adapter = { place.adapter with handle.queueing := .queued }
  buffer : after.place.buffer = place.buffer.sentOn place.adapter.address nextHop

theorem reception_forwards {place : Workplace} {nextHop : Mac}
    (forwarded : (reception distance place).outcome = .forwarded nextHop) :
    Forwards distance place nextHop (reception distance place) := by
  have course := reception_course distance place
  generalize reception distance place = after at course forwarded ⊢
  cases course with
  | ignored | unreadable | duplicate => cases forwarded
  | fresh sweep admitted clear fresh =>
    subst sweep
    obtain ⟨verdict, queued⟩ := forwarded_of_concluded forwarded
    obtain ⟨decided, way⟩ := decide_forwards distance verdict
    obtain ⟨spare, own, choice, position, chosen, sent, mac⟩ := route_forwards distance way
    obtain ⟨locations, sweep, sweepTicket, frame⟩ :=
      place.router.poll_frame place.adapter.time
    rw [frame] at position
    simp only [processed, decided, concluded, passedOn]
    rw [if_neg (by rw [decided] at queued; exact queued)]
    exact ⟨admitted, clear, spare, ⟨own, choice, position, chosen, sent, mac⟩, rfl, rfl⟩

/-- A packet that is forwarded is queued in its own buffer, with the hop limit one less and with
the addresses of this station and of the next hop, which is the greedy choice, in front. All else
in the buffer is as it came, and so is the whole buffer of a packet that is dropped for any cause
but the queue. -/
theorem forwarding_changes_link_and_hops (place : Workplace) :
    ∃ after, receive distance place = .ok after ∧
      (∀ nextHop, after.outcome = .forwarded nextHop →
        SentOn place.adapter.address nextHop place.buffer.bytes after.place.buffer.bytes ∧
        after.place.buffer.resizing = place.buffer.resizing ∧
        after.place.adapter = { place.adapter with handle.queueing := .queued } ∧
        ∃ h own choice, Headers.parse (place.buffer.bytes.drop FrameHeader.size) = .ok (.ok h) ∧
          place.router.management.position = some own ∧
          after.place.router.locations.nextHop distance own.point
            h.extended.destination.point h.trafficClass = choice ∧
          choice ≠ .buffer ∧ choice.mac = nextHop) ∧
      ∀ cause, after.outcome = .discarded cause → cause ≠ .queue →
        after.place.buffer = place.buffer ∧ after.place.adapter.handle = place.adapter.handle := by
  refine ⟨_, receive_eq distance place, ?_, ?_⟩
  · intro nextHop forwarded
    obtain ⟨admitted, clear, spare, ⟨own, choice, position, chosen, sent, mac⟩, adapter, buffer⟩ :=
      reception_forwards distance forwarded
    have long : FrameHeader.size + 4 ≤ place.buffer.bytes.length :=
      Nat.le_trans (by decide) (Headers.long_of_clear clear)
    have parsed := Headers.parse_ok_iff.mpr ⟨clear, rfl⟩
    refine ⟨?_, ?_, adapter, _, own, choice, parsed, position, chosen, sent, mac⟩
    · rw [buffer]
      exact Buffer.sentOn_spec admitted long spare
    · rw [buffer]
      rfl
  · intro cause discarded other
    have course := reception_course distance place
    generalize reception distance place = after at course discarded ⊢
    cases course with
    | ignored => cases discarded
    | unreadable | duplicate => exact ⟨rfl, rfl⟩
    | fresh sweep admitted clear fresh =>
      obtain ⟨buffer, adapter⟩ := place_of_discarded other discarded
      have handle := congrArg Adapter.handle adapter
      exact ⟨buffer, handle⟩

end Total
end Router

/-- A frame for the device `own` with a payload for the station with the identifier 3. -/
def passingFrame (own : Mac) (hops : UInt8) (payload : Bytes) : Buffer :=
  let headers : Headers := {
    lifetime := ⟨0⟩
    remainingHops := hops
    next := .btpA
    trafficClass := {}
    mobile := false
    payloadLength := UInt16.ofNat payload.length
    maxHops := 10
    extended := {
      sequence := ⟨1⟩
      source := { address := Address.zero.withMid ⟨2⟩ }
      destination := { address := Address.zero.withMid ⟨3⟩ } } }
  .ofFixed (FrameHeader.encode ⟨.broadcast, own, .geoNetworking⟩ ++ (headers.encode ++ payload))

/-- A station without neighbours broadcasts a packet with two hops left and drops one with one. -/
theorem forwarding_changes_link_and_hops_of_last :
    let distance : Point → Point → Nat := fun _ _ => 0
    let own : Mac := ⟨2, 0, 0, 0, 0, 1⟩
    let router : Router := {
      locations := .ofCapacity 1
      links := .ofCapacity 1
      management := { position := some ⟨0, 0, 0, 0, false⟩ } }
    let place (hops : UInt8) : Workplace :=
      ⟨router, ⟨own, .ofTime ⟨0⟩⟩, passingFrame own hops [7]⟩
    (∃ after, Router.receive distance (place 2) = .ok after ∧
      after.outcome = .forwarded .broadcast ∧
      SentOn own .broadcast (passingFrame own 2 [7]).bytes after.place.buffer.bytes) ∧
    ∃ after, Router.receive distance (place 1) = .ok after ∧ after.outcome = .discarded .hopLimit ∧
      after.place.buffer = passingFrame own 1 [7] := by
  intro distance own router place
  have outcomes : (Router.receive distance (place 2)).toOption.map (·.outcome) =
        some (.forwarded .broadcast) ∧
      (Router.receive distance (place 1)).toOption.map (·.outcome) =
        some (.discarded .hopLimit) := by
    decide +kernel
  constructor
  · obtain ⟨after, received, sends, -⟩ :=
      Router.forwarding_changes_link_and_hops distance (place 2)
    rw [received] at outcomes
    have outcome : after.outcome = .forwarded .broadcast := Option.some.inj outcomes.1
    obtain ⟨sent, -⟩ := sends .broadcast outcome
    exact ⟨after, received, outcome, sent⟩
  · obtain ⟨after, received, -, keeps⟩ :=
      Router.forwarding_changes_link_and_hops distance (place 1)
    rw [received] at outcomes
    have outcome : after.outcome = .discarded .hopLimit := Option.some.inj outcomes.2
    obtain ⟨buffer, -⟩ := keeps .hopLimit outcome (by decide)
    exact ⟨after, received, outcome, buffer⟩

end GeoRouter
