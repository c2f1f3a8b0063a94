import GeoRouter.Proofs.Forwarding

/-!
# The hop budget of a path

A packet that is handed on from station to station loses a hop at each of them and nothing else, so
that its hop limit bounds the length of the path. What one station leaves of the packet is said by
`Carries`, and a path by `Passes`, whatever the states of its stations are.
-/

namespace GeoRouter

/-- A frame holds a packet that may be processed, with these headers and this payload. -/
structure Carries (b : Bytes) (h : Headers) (payload : Bytes) : Prop where
  parsed : Headers.parse (b.drop FrameHeader.size) = .ok (.ok h)
  payload : Bytes.slice (b.drop FrameHeader.size) Headers.size h.payloadLength.toNat = .ok payload

theorem Carries.of_parsed {b : Bytes} {h : Headers}
    (parsed : Headers.parse (b.drop FrameHeader.size) = .ok (.ok h)) :
    ∃ payload, Carries b h payload := by
  obtain ⟨clear, rfl⟩ := Headers.parse_ok_iff.mp parsed
  obtain ⟨enough, -⟩ := Headers.of_objection?_none clear
  exact ⟨_, parsed, Bytes.slice_eq enough⟩

theorem Carries.of_payload {buffer : Buffer} {payload : Bytes}
    (clear : Headers.objection? (buffer.bytes.drop FrameHeader.size) = none)
    (readable : buffer.packet.payload = .ok payload) :
    Carries buffer.bytes buffer.packet.headers payload := by
  obtain ⟨enough, -⟩ := Headers.of_objection?_none clear
  refine ⟨Headers.parse_ok_iff.mpr ⟨clear, rfl⟩, ?_⟩
  rw [Packet.payload_eq clear] at readable
  rw [← readable]
  exact Bytes.slice_eq enough

theorem Carries.of_splice {b after : Bytes} {h : Headers} {payload : Bytes}
    (carries : Carries b h payload) {hops : UInt8} (few : hops ≤ h.maxHops)
    (written : after.drop FrameHeader.size = Bytes.splice (b.drop FrameHeader.size) 3 [hops]) :
    Carries after { h with remainingHops := hops } payload := by
  obtain ⟨parsed, slice⟩ := carries
  obtain ⟨clear, rfl⟩ := Headers.parse_ok_iff.mp parsed
  obtain ⟨enough, -, -⟩ := Headers.of_objection?_none clear
  have inside : 4 ≤ (b.drop FrameHeader.size).length := by
    rw [Headers.size, FixedHeader.size, GeoUnicast.size] at enough
    omega
  have width : (Bytes.splice (b.drop FrameHeader.size) 3 [hops]).length =
      (b.drop FrameHeader.size).length := Bytes.length_splice inside
  have behind : (Bytes.splice (b.drop FrameHeader.size) 3 [hops]).drop Headers.size =
      (b.drop FrameHeader.size).drop Headers.size := Bytes.drop_splice inside (by decide : 4 ≤ 60)
  constructor
  · rw [written, Headers.parse_ok_iff]
    exact ⟨Headers.objection?_splice inside hops clear few,
      (Headers.inOctets_splice inside hops).symm⟩
  · rw [Bytes.slice_eq enough] at slice
    rw [← width] at enough
    rw [written, Bytes.slice_eq enough, behind]
    exact slice

theorem Buffer.drop_sentOn {buffer : Buffer} (own nextHop : Mac)
    (long : FrameHeader.size + 4 ≤ buffer.bytes.length) :
    (buffer.sentOn own nextHop).bytes.drop FrameHeader.size =
      Bytes.splice (buffer.bytes.drop FrameHeader.size) 3
        [buffer.packet.headers.remainingHops - 1] := by
  have header := FrameHeader.length_encode ⟨own, nextHop, .geoNetworking⟩
  have taken := buffer.length_takeHop long buffer.packet.headers.remainingHops
  have link : (buffer.sentOn own nextHop).bytes.drop FrameHeader.size =
      (buffer.takeHop buffer.packet.headers.remainingHops).bytes.drop FrameHeader.size :=
    Bytes.drop_splice (by omega) (by omega)
  rw [link]
  exact Bytes.drop_splice_behind 3 (by omega)

theorem Buffer.admitted_sentOn (buffer : Buffer) (own nextHop : Mac) :
    Admitted nextHop (buffer.sentOn own nextHop).bytes := by
  have bytes := Bytes.splice_zero (buffer.takeHop buffer.packet.headers.remainingHops).bytes
    (FrameHeader.encode ⟨own, nextHop, .geoNetworking⟩)
  rw [sentOn, stamp, bytes]
  exact admitted_encode (.inl rfl) own _

section Path

variable {D : Type} [LT D] [LE D] [DecidableLT D] [DecidableLE D] (distance : Point → Point → D)

/-- A station that forwards a packet had a hop to spare, and leaves it the rest. -/
theorem Carries.of_forwarded {place : Workplace} {h : Headers} {payload : Bytes} {nextHop : Mac}
    (carries : Carries place.buffer.bytes h payload)
    (forwarded : (Router.reception distance place).outcome = .forwarded nextHop) :
    1 < h.remainingHops ∧ Carries (Router.reception distance place).place.buffer.bytes
      { h with remainingHops := h.remainingHops - 1 } payload := by
  obtain ⟨-, clear, spare, -, -, buffer⟩ := Router.reception_forwards distance forwarded
  obtain ⟨-, rfl⟩ := Headers.parse_ok_iff.mp carries.parsed
  obtain ⟨-, -, few⟩ := Headers.of_objection?_none clear
  have long : FrameHeader.size + 4 ≤ place.buffer.bytes.length :=
    Nat.le_trans (by decide) (Headers.long_of_clear clear)
  have less : place.buffer.packet.headers.remainingHops - 1 ≤
      place.buffer.packet.headers.maxHops := by
    have wider := UInt8.le_iff_toNat_le.mp few
    rw [UInt8.le_iff_toNat_le, UInt8.toNat_sub_of_le _ _ (UInt8.le_of_lt spare)]
    exact Nat.le_trans (Nat.sub_le ..) wider
  refine ⟨spare, carries.of_splice less ?_⟩
  rw [buffer]
  exact Buffer.drop_sentOn _ _ long

theorem Carries.of_delivered {place : Workplace} {h : Headers} {payload : Bytes}
    {packet : FramedPacket} (carries : Carries place.buffer.bytes h payload)
    (delivered : (Router.reception distance place).outcome = .delivered packet) :
    packet.payload = .ok payload := by
  obtain ⟨parsed, slice⟩ := carries
  obtain ⟨rfl, -⟩ := Router.payload_of_delivered distance delivered
  obtain ⟨clear, rfl⟩ := Headers.parse_ok_iff.mp parsed
  obtain ⟨enough, -⟩ := Headers.of_objection?_none clear
  rw [Bytes.slice_eq enough] at slice
  rw [Packet.payload_eq clear]
  exact slice

/-- The octets of a frame along stations that forward it, each of which receives what the one
before it left in its buffer. -/
inductive Passes : Bytes → List Workplace → Bytes → Prop where
  | here {b : Bytes} : Passes b [] b
  | on {place : Workplace} {after : Reception} {nextHop : Mac} {rest : List Workplace}
    {last : Bytes} (received : Router.receive distance place = .ok after)
    (forwarded : after.outcome = .forwarded nextHop)
    (later : Passes after.place.buffer.bytes rest last) :
    Passes place.buffer.bytes (place :: rest) last

variable {distance}

theorem Passes.carries {b last : Bytes} {stations : List Workplace} {h : Headers}
    {payload : Bytes} (passes : Passes distance b stations last) (carries : Carries b h payload) :
    ∃ hops : UInt8, hops.toNat + stations.length = h.remainingHops.toNat ∧
      (stations ≠ [] → 1 ≤ hops.toNat) ∧
      Carries last { h with remainingHops := hops } payload := by
  -- The headers vary along the way, by the hop limit.
  induction passes generalizing h with
  | here => exact ⟨h.remainingHops, rfl, fun some => absurd rfl some, carries⟩
  | @on place after nextHop rest last received forwarded later ih =>
    rw [Router.receive_eq] at received
    obtain rfl := Except.ok.inj received
    obtain ⟨spare, carries⟩ := carries.of_forwarded distance forwarded
    obtain ⟨hops, budget, left, carries⟩ := ih carries
    have more := UInt8.lt_iff_toNat_lt.mp spare
    have less : (h.remainingHops - 1).toNat = h.remainingHops.toNat - 1 :=
      UInt8.toNat_sub_of_le _ _ (UInt8.le_of_lt spare)
    have one : (1 : UInt8).toNat = 1 := rfl
    rw [less] at budget
    refine ⟨hops, ?_, fun _ => ?_, carries⟩
    · rw [List.length_cons]
      omega
    · -- A further station leaves a hop as well, and without one all but the hop taken are left.
      cases rest with
      | nil =>
        rw [List.length_nil] at budget
        omega
      | cons => exact left nofun

/-- A packet with `r` hops is forwarded by fewer than `r` stations, whatever their states are.
After `k` of them it has `r - k` hops left, at least one if any station forwarded it, and otherwise
the headers and the payload that it started with, which are handed over where it is delivered. -/
theorem hops_bound_path {b last : Bytes} {stations : List Workplace} {h : Headers}
    {payload : Bytes} (carries : Carries b h payload) (passes : Passes distance b stations last) :
    (stations ≠ [] → stations.length < h.remainingHops.toNat) ∧
      ∃ hops : UInt8, hops.toNat + stations.length = h.remainingHops.toNat ∧
        (stations ≠ [] → 1 ≤ hops.toNat) ∧
        Carries last { h with remainingHops := hops } payload ∧
        ∀ place : Workplace, place.buffer.bytes = last →
          ∃ after, Router.receive distance place = .ok after ∧
            ∀ packet, after.outcome = .delivered packet → packet.payload = .ok payload := by
  obtain ⟨hops, budget, left, carries⟩ := passes.carries carries
  refine ⟨fun some => ?_, hops, budget, left, carries, fun place same => ?_⟩
  · have remains := left some
    omega
  · subst same
    refine ⟨_, Router.receive_eq distance place, fun packet delivered => ?_⟩
    exact carries.of_delivered distance delivered

end Path

/-- Two stations use up three hops but one, and the third one delivers. -/
theorem hops_bound_path_of_three :
    let distance : Point → Point → Nat := fun _ _ => 0
    let own : Mac := ⟨2, 0, 0, 0, 0, 1⟩
    let router : Router := {
      locations := .ofCapacity 1
      links := .ofCapacity 1
      management := { position := some ⟨0, 0, 0, 0, false⟩ } }
    let target : Router := { router with
      links := ⟨⟨[{ address := Address.zero.withMid ⟨3⟩ }], []⟩⟩ }
    let frame := passingFrame own 3 [7]
    let first : Workplace := ⟨router, ⟨own, .ofTime ⟨0⟩⟩, frame⟩
    let second : Workplace :=
      ⟨router, ⟨own, .ofTime ⟨0⟩⟩, (Router.reception distance first).place.buffer⟩
    let last : Workplace :=
      ⟨target, ⟨own, .ofTime ⟨0⟩⟩, (Router.reception distance second).place.buffer⟩
    ∃ h, Carries frame.bytes h [7] ∧ h.remainingHops = 3 ∧
      Passes distance frame.bytes [first, second] last.buffer.bytes ∧
      Carries last.buffer.bytes { h with remainingHops := 1 } [7] ∧
      ∃ after packet, Router.receive distance last = .ok after ∧
        after.outcome = .delivered packet ∧ packet.payload = .ok [7] := by
  intro distance own router target frame first second last
  have carries : Carries frame.bytes
      (Headers.inOctets (frame.bytes.drop FrameHeader.size)) [7] :=
    ⟨Headers.parse_ok_iff.mpr ⟨by decide +kernel, rfl⟩, rfl⟩
  have one : (Router.reception distance first).outcome = .forwarded .broadcast := by
    decide +kernel
  have two : (Router.reception distance second).outcome = .forwarded .broadcast := by
    decide +kernel
  have three : (Router.reception distance last).outcome = .delivered last.buffer.packet := by
    decide +kernel
  have passes : Passes distance frame.bytes [first, second] last.buffer.bytes :=
    .on (Router.receive_eq distance first) one (.on (Router.receive_eq distance second) two .here)
  obtain ⟨-, hops, budget, -, kept, hands⟩ := hops_bound_path carries passes
  have left : hops = 1 := by
    have start : (Headers.inOctets (frame.bytes.drop FrameHeader.size)).remainingHops = 3 := by
      decide +kernel
    rw [start] at budget
    apply UInt8.toNat_inj.mp
    exact Nat.add_right_cancel budget
  subst left
  obtain ⟨after, received, delivers⟩ := hands last rfl
  rw [Router.receive_eq] at received
  obtain rfl := Except.ok.inj received
  exact ⟨_, carries, by decide +kernel, passes, kept, _, _, Router.receive_eq distance last, three,
    delivers _ three⟩

end GeoRouter
