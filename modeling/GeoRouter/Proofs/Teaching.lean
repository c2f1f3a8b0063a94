import GeoRouter.Proofs.Reception

/-!
# What a packet teaches the table

The source of a fresh packet is learned before it is known what becomes of the packet, so that
every later ending leaves the same table: the swept one, with the entry of the source made or
overwritten. A source for which there is no room has no entry that detection could have changed.
-/

namespace GeoRouter

namespace Instant

/-- The sum of an instant and a duration is one of the signed 64-bit numbers. -/
def Reaches (now : Instant) (d : Duration) : Prop :=
  -0x8000000000000000 ≤ now.millis ∧ now.millis + d.millis < 0x8000000000000000

instance (now : Instant) (d : Duration) : Decidable (now.Reaches d) :=
  inferInstanceAs (Decidable (_ ∧ _))

theorem millis_later (now : Instant) (d : Duration) :
    (now.later d).millis = Int.bmod (now.millis + d.millis) 0x10000000000000000 :=
  Int.add_bmod_bmod

theorem Reaches.millis_later {now : Instant} {d : Duration} (reaches : now.Reaches d) :
    (now.later d).millis = now.millis + d.millis := by
  obtain ⟨lower, upper⟩ := reaches
  rw [Instant.millis_later]
  exact Int.bmod_eq_of_le_mul_two (by omega) (by omega)

end Instant

def Outcome.followsLearning : Outcome → Bool
  | .delivered _ | .forwarded _ => true
  | .discarded cause => cause.followsLearning
  | .ignored => false

namespace Router

theorem settings_poll (r : Router) (now : Instant) : (r.poll now).2.settings = r.settings := by
  obtain ⟨locations, sweep, sweepTicket, frame⟩ := r.poll_frame now
  rw [frame]

theorem followsLearning_concluded (r : Router) (adapter : Adapter) (packet : FramedPacket)
    {verdict : Verdict}
    (dropped : ∀ cause, verdict = .drop cause → cause.followsLearning = true) :
    (r.concluded adapter packet verdict).outcome.followsLearning = true := by
  cases verdict with
  | deliver => rfl
  | drop cause => exact dropped cause rfl
  | forward nextHop =>
    simp only [concluded, passedOn]
    split <;> rfl

section Effects

variable {D : Type} [LT D] [LE D] [DecidableLT D] [DecidableLE D] (distance : Point → Point → D)

/-- A fresh packet behind detection, which has stamped the entry of its source. -/
abbrev freshly (swept : Router) (adapter : Adapter) (packet : FramedPacket) : Reception :=
  processed distance { swept with locations := swept.locations.restamp packet.headers } adapter
    packet

theorem reception_of_fresh {place : Workplace}
    (admitted : Admitted place.adapter.address place.buffer.bytes)
    (clear : Headers.objection? (place.buffer.bytes.drop FrameHeader.size) = none)
    {swept : Router} (sweep : (place.router.poll place.adapter.time).2 = swept)
    (fresh : swept.locations.knows place.buffer.packet.headers.origin
      place.buffer.packet.headers.stamp = false) :
    reception distance place = freshly distance swept place.adapter place.buffer.packet := by
  subst sweep
  rw [reception, if_pos admitted, answered_of_fresh distance _ _ clear fresh]

/-- The packet is learned, or its source is this station, or there is no room for its source. -/
theorem locations_freshly (swept : Router) (adapter : Adapter) (packet : FramedPacket) :
    (swept.locations.HasRoom packet.headers.origin ∧
      (freshly distance swept adapter packet).place.router.locations =
        swept.learned adapter.time packet.headers ∧
      (freshly distance swept adapter packet).outcome.followsLearning = true) ∨
    ((freshly distance swept adapter packet).place.router.locations =
        swept.locations.restamp packet.headers ∧
      (freshly distance swept adapter packet).outcome = .discarded .ownPacket) ∨
    (¬ swept.locations.HasRoom packet.headers.origin ∧
      (freshly distance swept adapter packet).place.router.locations = swept.locations ∧
      (freshly distance swept adapter packet).outcome = .discarded .locationTableFull) := by
  obtain ⟨counters, frame⟩ := processed_frame distance
    { swept with locations := swept.locations.restamp packet.headers } adapter packet
  unfold freshly
  rw [frame]
  rcases locations_decide distance { swept with
      locations := swept.locations.restamp packet.headers } adapter.address adapter.time
      packet.headers with ⟨room, learned, drops⟩ | ⟨kept, own⟩ | ⟨crowded, kept, full⟩
  · have before := LocationTable.hasRoom_restamp.mp room
    refine .inl ⟨before, learned.trans (learned_restamp before), ?_⟩
    exact followsLearning_concluded _ _ _ drops
  · refine .inr (.inl ⟨kept, ?_⟩)
    rw [processed, own]
    rfl
  · have before := mt LocationTable.hasRoom_restamp.mpr crowded
    refine .inr (.inr ⟨before, ?_, ?_⟩)
    · -- Without an entry there was nothing for detection to stamp.
      rw [LocationTable.HasRoom, not_or] at before
      have absent : swept.locations.find? packet.headers.origin = none := by
        simpa using before.1
      exact kept.trans (LocationTable.modify_of_absent absent _)
    · rw [processed, full]
      rfl

/-- A packet that was delivered or forwarded, or dropped for anything that comes after learning,
leaves the swept table with the entry of its source made or overwritten, and a packet whose source
found no room leaves the swept table. The entry ends a lifetime later, in whole milliseconds of
64 bits. -/
theorem reception_teaches_source (place : Workplace) :
    let now := place.adapter.time
    let swept := (place.router.poll now).2.locations
    let lifetime := place.router.settings.entryLifetime.nanos / 1000000
    ∃ after, receive distance place = .ok after ∧
      (after.outcome.followsLearning = true → ∃ h known ending,
        Headers.parse (place.buffer.bytes.drop FrameHeader.size) = .ok (.ok h) ∧
        swept.knows h.origin h.stamp = false ∧
        known = (swept.find? h.origin).getD (.ofAddress h.extended.source.address) ∧
        ending = Int.bmod (now.millis + lifetime) 0x10000000000000000 ∧
        (-0x8000000000000000 ≤ now.millis → now.millis + lifetime < 0x8000000000000000 →
          ending = now.millis + lifetime) ∧
        after.place.router.locations.capacity = swept.capacity ∧
        Entry.Placed { known with
          position := h.extended.source
          sequence := h.extended.sequence
          timestamp := h.extended.source.timestamp
          stationType := h.extended.source.address.stationType
          neighbour := h.remainingHops = h.maxHops
          pending := false
          expires := .on ⟨ending⟩ }
          swept.entries after.place.router.locations.entries) ∧
      (after.outcome = .discarded .locationTableFull →
        after.place.router.locations = swept) := by
  intro now swept lifetime
  refine ⟨_, receive_eq distance place, ?_⟩
  have ends := now.millis_later place.router.settings.entryLifetime
  have exact := @Instant.Reaches.millis_later now place.router.settings.entryLifetime
  have course := reception_course distance place
  generalize reception distance place = after at course ⊢
  cases course with
  | ignored => exact ⟨nofun, nofun⟩
  | @unreadable reason => cases reason <;> exact ⟨nofun, nofun⟩
  | duplicate => exact ⟨nofun, nofun⟩
  | fresh sweep admitted clear fresh =>
    subst sweep
    have parsed := Headers.parse_ok_iff.mpr ⟨clear, rfl⟩
    rcases locations_freshly distance (place.router.poll now).2 place.adapter
      place.buffer.packet with ⟨room, learned, follows⟩ | ⟨-, own⟩ | ⟨-, kept, full⟩
    · obtain ⟨slots, placed⟩ := learned_places now room
      rw [← learned] at slots placed
      unfold lesson at placed
      rw [settings_poll] at placed
      refine ⟨fun _ => ⟨_, _, _, parsed, fresh, rfl, ends, fun lower upper => exact ⟨lower, upper⟩,
        slots, placed⟩, fun full => ?_⟩
      rw [full] at follows
      cases follows
    · refine ⟨fun follows => ?_, fun full => ?_⟩
      · rw [own] at follows
        cases follows
      · rw [own] at full
        cases full
    · refine ⟨fun follows => ?_, fun _ => kept⟩
      rw [full] at follows
      cases follows

/-- A stranger is learned from a packet that has no hop left, if there is a slot for it. -/
theorem reception_teaches_stranger :
    let distance : Point → Point → Nat := fun _ _ => 0
    let own : Mac := ⟨2, 0, 0, 0, 0, 1⟩
    let stranger : Address := Address.zero.withMid ⟨2⟩
    let headers : Headers := {
      lifetime := ⟨0⟩
      remainingHops := 1
      next := .btpA
      trafficClass := {}
      mobile := false
      payloadLength := 0
      maxHops := 1
      extended := {
        sequence := ⟨1⟩
        source := { address := stranger, timestamp := ⟨5⟩ }
        destination := {} } }
    let buffer : Buffer := .ofFixed
      (FrameHeader.encode ⟨stranger.mac, own, .geoNetworking⟩ ++ headers.encode)
    let place (slots : Nat) : Workplace :=
      ⟨{ locations := .ofCapacity slots, links := .ofCapacity 1 }, ⟨own, .ofTime ⟨0⟩⟩, buffer⟩
    (∃ (after : Reception) (entry : Entry), receive distance (place 1) = .ok after ∧
      after.outcome = .discarded .hopLimit ∧ entry.position = headers.extended.source ∧
      entry.expires = .on ⟨20000⟩ ∧ entry.Placed [] after.place.router.locations.entries) ∧
    ∃ after, receive distance (place 0) = .ok after ∧
      after.outcome = .discarded .locationTableFull ∧
      after.place.router.locations = .ofCapacity 0 := by
  intro distance own stranger headers buffer place
  have outcomes : (receive distance (place 1)).toOption.map (·.outcome) =
        some (.discarded .hopLimit) ∧
      (receive distance (place 0)).toOption.map (·.outcome) =
        some (.discarded .locationTableFull) := by
    decide +kernel
  constructor
  · obtain ⟨after, received, teaches, -⟩ := reception_teaches_source distance (place 1)
    rw [received] at outcomes
    have outcome : after.outcome = .discarded .hopLimit := Option.some.inj outcomes.1
    obtain ⟨h, known, ending, parsed, -, -, -, ends, -, placed⟩ := teaches (by rw [outcome]; rfl)
    obtain ⟨-, rfl⟩ := Headers.parse_ok_iff.mp parsed
    have read : (Headers.inOctets (buffer.bytes.drop FrameHeader.size)).extended.source =
        headers.extended.source := by
      decide +kernel
    have lasts : ending = 20000 := (ends (by decide) (by decide)).trans (by decide)
    rw [lasts] at placed
    exact ⟨after, _, received, outcome, read, rfl, placed⟩
  · obtain ⟨after, received, -, keeps⟩ := reception_teaches_source distance (place 0)
    rw [received] at outcomes
    have outcome : after.outcome = .discarded .locationTableFull := Option.some.inj outcomes.2
    exact ⟨after, received, outcome, keeps outcome⟩

end Effects
end Router
end GeoRouter
