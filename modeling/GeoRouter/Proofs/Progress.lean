import Mathlib.Data.Nat.Basic
import GeoRouter.Proofs.Greedy
import GeoRouter.Proofs.HopBudget
import GeoRouter.Proofs.Host
import GeoRouter.Proofs.Order
import GeoRouter.Proofs.Teaching

/-!
# Packets come closer

In a network whose stations stay where they are, say so, and know of their neighbours where those
are, a packet that is handed on to a neighbour is closer to its destination than before. So it never
comes to a station again. That the neighbours stay known is up to the packets alone: forwarding one
teaches nothing but where its source is. A packet that says something else of its source can go
anywhere.
-/

namespace GeoRouter

/-- The identifier is one of the station's. -/
def Host.Bears (host : Host) (mid : Mid) : Prop := host.router.links.owns mid = true

instance (host : Host) (mid : Mid) : Decidable (host.Bears mid) :=
  inferInstanceAs (Decidable (_ = _))

section Network

variable {ι : Type}

/-- The stations report where they are, and have their neighbours where those are. -/
def Truthful (position : ι → Point) (network : ι → Host) : Prop :=
  ∀ i, (∀ own ∈ (network i).router.management.position, own.point = position i) ∧
    ∀ entry ∈ (network i).router.locations.neighbours, ∀ j, (network j).Bears entry.mid →
      entry.position.point = position j

instance {n : Nat} (position : Fin n → Point) (network : Fin n → Host) :
    Decidable (Truthful position network) :=
  inferInstanceAs (Decidable (∀ _, _ ∧ _))

section Hops

variable {D : Type} [LT D] [LE D] [DecidableLT D] [DecidableLE D] (distance : Point → Point → D)

/-- A station forwards the packet in a frame, and the neighbour `mid` is its choice for that. -/
structure HandsOn (host : Host) (handle : Handle) (buffer : Buffer) (mid : Mid)
    (after : Reception) : Prop where
  received : Router.receive distance (host.workplace handle buffer) = .ok after
  forwarded : after.outcome = .forwarded mid.mac
  chosen : ∃ h own, Headers.parse (buffer.bytes.drop FrameHeader.size) = .ok (.ok h) ∧
    host.router.management.position = some own ∧
    after.place.router.locations.nextHop distance own.point h.extended.destination.point
      h.trafficClass = .neighbour mid

/-- The stations on the way of a packet, each of which hands it on to the next one, and the networks
that it starts in and ends in. What happens between two hops does not make the network untruthful. -/
inductive Way (position : ι → Point) : (ι → Host) → Bytes → List ι → (ι → Host) → Prop where
  | here {network : ι → Host} {b : Bytes} {i : ι} : Way position network b [i] network
  | on {network moved next last : ι → Host} {handle : Handle} {buffer : Buffer} {mid : Mid}
    {after : Reception} {i j : ι} {rest : List ι}
    (hands : HandsOn distance (network i) handle buffer mid after)
    (took : moved i = .ofWorkplace after.place) (others : ∀ k, k ≠ i → moved k = network k)
    (bearer : (moved j).Bears mid) (kept : Truthful position moved → Truthful position next)
    (later : Way position next after.place.buffer.bytes (j :: rest) last) :
    Way position network buffer.bytes (i :: j :: rest) last

namespace Router

theorem mem_of_poll {r : Router} {now : Instant} {entry : Entry}
    (member : entry ∈ (r.poll now).2.locations.entries) : entry ∈ r.locations.entries := by
  unfold poll at member
  split at member
  · rw [LocationTable.expire_eq] at member
    exact (List.mem_filter.mp member).1
  · exact member

theorem router_of_forwarded {place : Workplace} {nextHop : Mac}
    (forwarded : (reception distance place).outcome = .forwarded nextHop) :
    let swept := (place.router.poll place.adapter.time).2
    swept.locations.HasRoom place.buffer.packet.headers.origin ∧
      ∃ counters, (reception distance place).place.router = { swept with
        locations := swept.learned place.adapter.time place.buffer.packet.headers, counters } := by
  intro swept
  have course := reception_course distance place
  generalize reception distance place = after at course forwarded ⊢
  cases course with
  | ignored | unreadable | duplicate => cases forwarded
  | fresh sweep admitted clear fresh =>
    subst sweep
    rcases locations_freshly distance swept place.adapter place.buffer.packet with
      ⟨room, -⟩ | ⟨-, own⟩ | ⟨-, -, full⟩
    · obtain ⟨counters, frame⟩ := processed_frame distance
        { swept with locations := swept.locations.restamp place.buffer.packet.headers }
        place.adapter place.buffer.packet
      obtain ⟨verdict, -⟩ := forwarded_of_concluded forwarded
      obtain ⟨decided, -⟩ := decide_forwards distance verdict
      rw [decided] at frame
      refine ⟨room, counters, frame.trans ?_⟩
      rw [← learned_restamp room]
    · rw [own] at forwarded
      cases forwarded
    · rw [full] at forwarded
      cases forwarded

theorem links_of_forwarded {place : Workplace} {nextHop : Mac}
    (forwarded : (reception distance place).outcome = .forwarded nextHop) :
    (reception distance place).place.router.links = place.router.links := by
  obtain ⟨-, counters, frame⟩ := router_of_forwarded distance forwarded
  rw [frame]
  exact place.router.links_poll place.adapter.time

end Router

theorem HandsOn.reception {host : Host} {handle : Handle} {buffer : Buffer} {mid : Mid}
    {after : Reception} (hands : HandsOn distance host handle buffer mid after) :
    Router.reception distance (host.workplace handle buffer) = after := by
  have received := hands.received
  rw [Router.receive_eq] at received
  exact Except.ok.inj received

theorem neighbours_of_forwarded {place : Workplace} {nextHop : Mac} {entry : Entry}
    (forwarded : (Router.reception distance place).outcome = .forwarded nextHop)
    (member : entry ∈ (Router.reception distance place).place.router.locations.neighbours) :
    (place.buffer.packet.headers.remainingHops = place.buffer.packet.headers.maxHops ∧
        entry.mid = place.buffer.packet.headers.origin ∧
        entry.position = place.buffer.packet.headers.extended.source) ∨
      entry ∈ place.router.locations.neighbours := by
  obtain ⟨room, counters, frame⟩ := Router.router_of_forwarded distance forwarded
  rw [frame] at member
  obtain ⟨known, heard⟩ := List.mem_filter.mp member
  obtain ⟨-, placed⟩ := Router.learned_places place.adapter.time room
  rcases placed.mem known with rfl | old
  · exact .inl ⟨of_decide_eq_true heard, Router.mid_lesson .., rfl⟩
  · refine .inr (List.mem_filter.mpr ⟨?_, heard⟩)
    exact Router.mem_of_poll old

/-- Forwarding a packet leaves the network truthful, if the packet says where its source is. It has
to do so only as long as nobody has taken a hop from it. -/
theorem Truthful.of_handsOn {position : ι → Point} {before network : ι → Host} {i : ι}
    {handle : Handle} {buffer : Buffer} {mid : Mid} {after : Reception} {h : Headers}
    (truthful : Truthful position before)
    (hands : HandsOn distance (before i) handle buffer mid after)
    (parsed : Headers.parse (buffer.bytes.drop FrameHeader.size) = .ok (.ok h))
    (honest : h.remainingHops = h.maxHops → ∀ j, (before j).Bears h.origin →
      h.extended.source.point = position j)
    (moved : network i = .ofWorkplace after.place) (others : ∀ j, j ≠ i → network j = before j) :
    Truthful position network := by
  obtain ⟨-, rfl⟩ := Headers.parse_ok_iff.mp parsed
  obtain rfl := hands.reception
  have bears : ∀ j mid, (network j).Bears mid → (before j).Bears mid := by
    intro j mid bears
    by_cases here : j = i
    · subst here
      have links := Router.links_of_forwarded distance hands.forwarded
      unfold Host.Bears at bears ⊢
      rw [moved] at bears
      rw [← bears]
      exact congrArg (Links.owns · mid) links.symm
    · rw [others j here] at bears
      exact bears
  intro k
  by_cases here : k = i
  · subst here
    obtain ⟨reports, knows⟩ := truthful k
    rw [moved]
    constructor
    · have management := Router.management_reception distance ((before k).workplace handle buffer)
      rw [Host.ofWorkplace, management]
      exact reports
    · intro entry member j bearer
      rcases neighbours_of_forwarded distance hands.forwarded member with
        ⟨direct, origin, source⟩ | old
      · rw [source]
        rw [origin] at bearer
        exact honest direct j (bears j _ bearer)
      · exact knows entry old j (bears j _ bearer)
  · obtain ⟨reports, knows⟩ := truthful k
    rw [others k here]
    exact ⟨reports, fun entry member j bearer => knows entry member j (bears j _ bearer)⟩

end Hops

/-! ### Ways -/

theorem Carries.hop_taken {b : Bytes} {h : Headers} {payload : Bytes} (carries : Carries b h payload)
    (spare : 1 < h.remainingHops) : h.remainingHops - 1 ≠ h.maxHops := by
  obtain ⟨clear, rfl⟩ := Headers.parse_ok_iff.mp carries.parsed
  obtain ⟨-, -, few⟩ := Headers.of_objection?_none clear
  intro same
  have less := UInt8.toNat_sub_of_le _ _ (UInt8.le_of_lt spare)
  have wider := UInt8.le_iff_toNat_le.mp few
  have more := UInt8.lt_iff_toNat_lt.mp spare
  have one : (1 : UInt8).toNat = 1 := rfl
  rw [same] at less
  omega

section Descent

variable {D : Type} [LinearOrder D] {distance : Point → Point → D} {position : ι → Point}

theorem HandsOn.descends {moved : ι → Host} {host : Host} {handle : Handle} {buffer : Buffer}
    {mid : Mid} {after : Reception} {i j : ι} {h : Headers}
    (hands : HandsOn distance host handle buffer mid after)
    (took : moved i = .ofWorkplace after.place) (truthful : Truthful position moved)
    (bearer : (moved j).Bears mid)
    (parsed : Headers.parse (buffer.bytes.drop FrameHeader.size) = .ok (.ok h)) :
    distance (position j) h.extended.destination.point <
      distance (position i) h.extended.destination.point := by
  obtain ⟨read, own, same, reported, chosen⟩ := hands.chosen
  obtain rfl := Except.ok.inj (Except.ok.inj (same.symm.trans parsed))
  obtain ⟨entry, member, rfl, closer, -⟩ := LocationTable.closest_of_nextHop chosen
  obtain ⟨reports, knows⟩ := truthful i
  rw [took] at reports knows
  have management := Router.management_reception distance (host.workplace handle buffer)
  rw [hands.reception] at management
  have here : own.point = position i := by
    refine reports own ?_
    rw [Host.ofWorkplace, management]
    exact reported
  have there : entry.position.point = position j := knows entry member j bearer
  rwa [here, there] at closer

theorem Way.descends {network last : ι → Host} {b : Bytes} {stations : List ι} {h : Headers}
    (way : Way distance position network b stations last) (truthful : Truthful position network)
    (parsed : Headers.parse (b.drop FrameHeader.size) = .ok (.ok h))
    (honest : h.remainingHops = h.maxHops → ∀ j, (network j).Bears h.origin →
      h.extended.source.point = position j) :
    Truthful position last ∧ stations.Pairwise fun i j =>
      distance (position j) h.extended.destination.point <
        distance (position i) h.extended.destination.point := by
  -- A hop leaves the network truthful, and changes the headers, but not the destination.
  induction way generalizing h with
  | here => exact ⟨truthful, List.pairwise_singleton ..⟩
  | @on network moved next last handle buffer mid after i j rest hands took others bearer kept
      later ih =>
    have learned := truthful.of_handsOn distance hands parsed honest took others
    obtain ⟨payload, carries⟩ := Carries.of_parsed parsed
    have forwarded := hands.forwarded
    rw [← hands.reception] at forwarded
    obtain ⟨spare, left⟩ := carries.of_forwarded distance forwarded
    rw [hands.reception] at left
    obtain ⟨ends, behind⟩ := ih (kept learned) left.parsed
      fun direct => absurd direct (carries.hop_taken spare)
    have first := hands.descends took learned bearer parsed
    refine ⟨ends, List.pairwise_cons.mpr ⟨fun k member => ?_, behind⟩⟩
    rcases List.mem_cons.mp member with rfl | member
    · exact first
    · exact lt_trans ((List.pairwise_cons.mp behind).1 k member) first

/-- A packet that is handed on from neighbour to neighbour comes closer to its destination with
every hop, so that it never comes to a station twice, and leaves the network truthful. It has to say
where its source is as long as nobody has taken a hop from it, since it makes that a neighbour. -/
theorem greedy_ways_descend {network last : ι → Host} {b : Bytes} {stations : List ι} {h : Headers}
    (truthful : Truthful position network)
    (parsed : Headers.parse (b.drop FrameHeader.size) = .ok (.ok h))
    (honest : h.remainingHops = h.maxHops → ∀ j, (network j).Bears h.origin →
      h.extended.source.point = position j)
    (way : Way distance position network b stations last) :
    stations.Pairwise (fun i j => distance (position j) h.extended.destination.point <
        distance (position i) h.extended.destination.point) ∧
      stations.Nodup ∧ Truthful position last := by
  obtain ⟨ends, descends⟩ := way.descends truthful parsed honest
  refine ⟨descends, descends.imp fun closer same => ?_, ends⟩
  rw [same] at closer
  exact lt_irrefl _ closer

end Descent
end Network

/-! ### Stations in a row -/

/-- Four stations, each of which knows the next one. -/
def row (i : Fin 4) : Host :=
  let address (i : Fin 4) : Address := Address.zero.withMid ⟨BitVec.ofNat 48 (2 + i.val)⟩
  let next : Entry := { Entry.ofAddress (address (i + 1)) with
    position := { latitude := Int32.ofInt (i.val + 1) }
    neighbour := true }
  ⟨{
    locations := ⟨⟨if i = 3 then [] else [next], [{}]⟩⟩
    links := ⟨⟨[{ address := address i }], []⟩⟩
    management := { position := some ⟨Int32.ofInt i.val, 0, 0, 0, false⟩ } },
    (address i).mac⟩

theorem truthful_row : Truthful (fun i => ⟨Int32.ofInt i.val, 0⟩) row := by decide +kernel

/-- A packet of the first station, which says that it is at the latitude `source`, as the second one
hears it. It is for a place at the last station. -/
def rowFrame (source : Int32) : Buffer :=
  let headers : Headers := {
    lifetime := ⟨0⟩
    remainingHops := 10
    next := .btpA
    trafficClass := {}
    mobile := false
    payloadLength := 0
    maxHops := 10
    extended := {
      sequence := ⟨1⟩
      source := { address := Address.zero.withMid ⟨2⟩, latitude := source }
      destination := { address := Address.zero.withMid ⟨6⟩, latitude := 3 } } }
  .ofFixed (FrameHeader.encode ⟨(row 0).address, (row 1).address, .geoNetworking⟩ ++ headers.encode)

/-- The packet passes the second and the third station and comes to the last one, if the first one
has said where it is. -/
theorem greedy_ways_descend_of_row :
    let position (i : Fin 4) : Point := ⟨Int32.ofInt i.val, 0⟩
    let distance (a b : Point) : Nat := (a.latitude.toInt - b.latitude.toInt).natAbs
    let frame := rowFrame 0
    ∃ h last, Headers.parse (frame.bytes.drop FrameHeader.size) = .ok (.ok h) ∧
      Truthful position row ∧ h.remainingHops = h.maxHops ∧ (row 0).Bears h.origin ∧
      (∀ j, (row j).Bears h.origin → h.extended.source.point = position j) ∧
      Way distance position row frame.bytes [1, 2, 3] last ∧
      [(1 : Fin 4), 2, 3].Pairwise (fun i j =>
        distance (position j) h.extended.destination.point <
          distance (position i) h.extended.destination.point) := by
  intro position distance frame
  let first := Router.reception distance ((row 1).workplace (.ofTime ⟨0⟩) frame)
  let second := Router.reception distance ((row 2).workplace (.ofTime ⟨0⟩) first.place.buffer)
  let one (i : Fin 4) : Host := if i = 1 then .ofWorkplace first.place else row i
  let two (i : Fin 4) : Host := if i = 2 then .ofWorkplace second.place else one i
  have parsed := Headers.parse_ok_iff.mpr
    ⟨(by decide +kernel : Headers.objection? (frame.bytes.drop FrameHeader.size) = none), rfl⟩
  have left : HandsOn distance (row 1) (.ofTime ⟨0⟩) frame ⟨4⟩ first :=
    ⟨Router.receive_eq .., by decide +kernel, _, _, parsed, rfl, by decide +kernel⟩
  have right : HandsOn distance (one 2) (.ofTime ⟨0⟩) first.place.buffer ⟨5⟩ second :=
    ⟨Router.receive_eq .., by decide +kernel, _, _,
      Headers.parse_ok_iff.mpr ⟨by decide +kernel, rfl⟩, rfl, by decide +kernel⟩
  have honest : ∀ j, (row j).Bears (Headers.inOctets (frame.bytes.drop FrameHeader.size)).origin →
      (Headers.inOctets (frame.bytes.drop FrameHeader.size)).extended.source.point = position j := by
    decide +kernel
  have bearsOne : (one 2).Bears ⟨4⟩ := by decide +kernel
  have bearsTwo : (two 3).Bears ⟨5⟩ := by decide +kernel
  have way : Way distance position row frame.bytes [1, 2, 3] two :=
    .on left rfl (fun _ other => if_neg other) bearsOne id
      (.on right rfl (fun _ other => if_neg other) bearsTwo id .here)
  obtain ⟨descend, -⟩ := greedy_ways_descend truthful_row parsed (fun _ => honest) way
  exact ⟨_, two, parsed, truthful_row, by decide +kernel, by decide +kernel, honest, way, descend⟩

/-- The packet goes back to the first station, which is farther from its destination, if that has
said that it is there. -/
theorem lies_lead_away :
    let position (i : Fin 4) : Point := ⟨Int32.ofInt i.val, 0⟩
    let distance (a b : Point) : Nat := (a.latitude.toInt - b.latitude.toInt).natAbs
    let frame := rowFrame 3
    ∃ h last, Headers.parse (frame.bytes.drop FrameHeader.size) = .ok (.ok h) ∧
      Truthful position row ∧ Way distance position row frame.bytes [1, 0] last ∧
      distance (position 1) h.extended.destination.point <
        distance (position 0) h.extended.destination.point := by
  intro position distance frame
  let first := Router.reception distance ((row 1).workplace (.ofTime ⟨0⟩) frame)
  let one (i : Fin 4) : Host := if i = 1 then .ofWorkplace first.place else row i
  have parsed := Headers.parse_ok_iff.mpr
    ⟨(by decide +kernel : Headers.objection? (frame.bytes.drop FrameHeader.size) = none), rfl⟩
  have hands : HandsOn distance (row 1) (.ofTime ⟨0⟩) frame ⟨2⟩ first :=
    ⟨Router.receive_eq .., by decide +kernel, _, _, parsed, rfl, by decide +kernel⟩
  have bears : (one 0).Bears ⟨2⟩ := by decide +kernel
  have way : Way distance position row frame.bytes [1, 0] one :=
    .on hands rfl (fun _ other => if_neg other) bears id .here
  exact ⟨_, one, parsed, truthful_row, way, by decide +kernel⟩

end GeoRouter
