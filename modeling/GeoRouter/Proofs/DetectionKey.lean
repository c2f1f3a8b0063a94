import GeoRouter.Proofs.Learning

/-!
# Two readings of one header

Duplicate detection reads a packet through the offsets of the registry, before its headers are
parsed; learning stores what the parser read. Both come to the same fields of the same octets, so
a packet that was learned is known by the key it will be looked for.
-/

namespace GeoRouter

/-! ### The check in front of both -/

namespace Headers

theorem of_checkExtended {b : Bytes} {kind : ExtendedKind}
    (checked : checkExtended b = .ok (.ok kind)) :
    size ≤ b.length ∧ (FixedHeader.inOctets b).kind? = some .geoUnicast := by
  rw [checkExtended_eq] at checked
  split at checked
  · cases checked
  split at checked
  · cases checked
  rename_i found registered
  split at checked
  · cases checked
  rename_i enough
  cases found
  exact ⟨by omega, registered⟩

end Headers

/-! ### Octets of another type -/

namespace FixedHeader

theorem field?_of_unregistered {b : Bytes} (long : size ≤ b.length)
    (unregistered : (inOctets b).kind? = none) (offset : Layout → Option Nat) (width : Nat) :
    field? b offset width = .ok none := by
  have lookup : ExtendedKind.lookup (upper (b.octetAt 5)) (lower (b.octetAt 5)) = none :=
    unregistered
  simp only [size] at long
  unfold field?
  rw [Bytes.octet_eq (by omega)]
  simp only [bind, Except.bind, lookup, Option.bind_none]
  rfl

theorem nothing_of_unregistered {b : Bytes} (long : size ≤ b.length)
    (unregistered : (inOctets b).kind? = none) :
    (inOctets b).headersLength? = none ∧ sourceAddress? b = .ok none ∧
      sequenceNumber? b = .ok none ∧ timestamp? b = .ok none := by
  have nowhere := field?_of_unregistered long unregistered
  refine ⟨?_, ?_, ?_, ?_⟩
  · rw [headersLength?, unregistered]
    rfl
  · rw [sourceAddress?, nowhere]
    rfl
  · rw [sequenceNumber?, nowhere]
    rfl
  · rw [timestamp?, nowhere]
    rfl

end FixedHeader

/-! ### The key -/

namespace Router

/-- Learning leaves an entry of the source under the stamp of the packet. -/
theorem learn_stores {r taught : Router} {now : Instant} {h : Headers}
    (learn : r.learn now h = .ok taught) :
    ∃ entry, taught.locations.find? h.origin = some entry ∧ entry.stamp = h.stamp := by
  rw [learn_eq] at learn
  split at learn
  · rename_i room
    obtain rfl := Except.ok.inj learn
    have found : (r.learned now h).find? h.origin = some (r.lesson now h) :=
      (find?_learned room h.origin).trans (if_pos rfl)
    exact ⟨_, found, rfl⟩
  · cases learn

end Router

/-- The offsets of the registry lead to the fields that the parser of the extended header reads, in
all octets with a registered header, and nowhere in those of another type. -/
theorem registry_reads_parsed_fields (b : Bytes) :
    (∀ kind, Headers.checkExtended b = .ok (.ok kind) →
      ∃ fixed header, FixedHeader.read b = .ok fixed ∧
        fixed.headersLength? = some Headers.size ∧
        GeoUnicast.parse (b.drop FixedHeader.size) = .ok (.ok header) ∧
        FixedHeader.sourceAddress? b = .ok (some header.source.address) ∧
        FixedHeader.sequenceNumber? b = .ok (some header.sequence) ∧
        FixedHeader.timestamp? b = .ok (some header.source.timestamp) ∧
        (∀ table : LocationTable, table.detectPacket? b = .ok (some
          (table.detect header.source.address.mid header.sequence header.source.timestamp))) ∧
        ∀ h, Headers.parse b = .ok (.ok h) → h.extended = header ∧
          ∀ (r taught : Router) now, r.learn now h = .ok taught →
            ∃ entry, taught.locations.find? header.source.address.mid = some entry ∧
              entry.sequence = header.sequence ∧ entry.timestamp = header.source.timestamp ∧
              taught.locations.detectPacket? b = .ok (some (.duplicate, taught.locations))) ∧
    (FixedHeader.size ≤ b.length → ∃ fixed, FixedHeader.read b = .ok fixed ∧
      (fixed.kind? = none → fixed.headersLength? = none ∧
        FixedHeader.sourceAddress? b = .ok none ∧ FixedHeader.sequenceNumber? b = .ok none ∧
        FixedHeader.timestamp? b = .ok none)) := by
  constructor
  · intro kind checked
    obtain ⟨long, registered⟩ := Headers.of_checkExtended checked
    have front : FixedHeader.size ≤ b.length := Nat.le_trans (Nat.le_add_right ..) long
    have behind : GeoUnicast.size ≤ (b.drop FixedHeader.size).length := by
      rw [List.length_drop]
      rw [Headers.size] at long
      omega
    have source := FixedHeader.sourceAddress?_eq long registered
    have sequence := FixedHeader.sequenceNumber?_eq long registered
    have timestamp := FixedHeader.timestamp?_eq long registered
    refine ⟨_, _, FixedHeader.read_eq front, ?_, GeoUnicast.parse_eq behind, source, sequence,
      timestamp, ?_, ?_⟩
    · rw [FixedHeader.headersLength?, registered]
      rfl
    · intro table
      rw [table.detectPacket?_of_registered long registered, ← LocationTable.detect_eq]
      rfl
    intro h parsed
    obtain ⟨-, rfl⟩ := Headers.parse_ok_iff.mp parsed
    refine ⟨rfl, ?_⟩
    intro r taught now learn
    obtain ⟨entry, found, stamp⟩ := Router.learn_stores learn
    refine ⟨entry, found, congrArg Stamp.sequence stamp, congrArg Stamp.timestamp stamp, ?_⟩
    rw [LocationTable.detectPacket?_of_registered _ long registered,
      if_pos (LocationTable.knows_of_stored found stamp)]
  · intro front
    exact ⟨_, FixedHeader.read_eq front, FixedHeader.nothing_of_unregistered front⟩

/-- A packet of one station, or one of another type with the same fields. -/
def strangerOctets (type : UInt8) : Bytes :=
  [0x01, 0x00, 0x1a, 0x01, 0x20, type, 0x00, 0x00, 0x00, 0x00, 0x01, 0x00] ++
    [0x12, 0x34, 0x00, 0x00] ++ [0x80, 0x00, 0x00, 0x00, 0x00, 0x00, 0x00, 0x02] ++
    [0x00, 0x00, 0x00, 0x09] ++ List.replicate 32 0x00

theorem registry_reads_parsed_fields_of_stranger :
    let r : Router := { locations := .ofCapacity 1, links := .ofCapacity 1 }
    (∃ h taught entry, Headers.parse (strangerOctets 0x20) = .ok (.ok h) ∧
      r.learn ⟨0⟩ h = .ok taught ∧ taught.locations.find? ⟨2⟩ = some entry ∧
      entry.sequence = ⟨0x1234⟩ ∧ entry.timestamp = ⟨9⟩ ∧
      taught.locations.detectPacket? (strangerOctets 0x20) =
        .ok (some (.duplicate, taught.locations))) ∧
    FixedHeader.sourceAddress? (strangerOctets 0x30) = .ok none := by
  intro r
  constructor
  · have checked : Headers.checkExtended (strangerOctets 0x20) = .ok (.ok .geoUnicast) := rfl
    have parsed : Headers.parse (strangerOctets 0x20) =
        .ok (.ok (Headers.inOctets (strangerOctets 0x20))) :=
      Headers.parse_ok_iff.mpr ⟨by decide, rfl⟩
    have learn : r.learn ⟨0⟩ (Headers.inOctets (strangerOctets 0x20)) = .ok { r with
        locations := r.learned ⟨0⟩ (Headers.inOctets (strangerOctets 0x20)) } :=
      Router.learn_eq.trans (if_pos (by decide))
    obtain ⟨fixed, header, -, -, -, -, -, -, -, learns⟩ :=
      (registry_reads_parsed_fields (strangerOctets 0x20)).1 _ checked
    obtain ⟨rfl, stores⟩ := learns _ parsed
    obtain ⟨entry, found, sequence, timestamp, again⟩ := stores r _ ⟨0⟩ learn
    have mid : (Headers.inOctets (strangerOctets 0x20)).extended.source.address.mid = ⟨2⟩ := by
      decide
    rw [mid] at found
    exact ⟨_, _, entry, parsed, learn, found, sequence.trans (by decide),
      timestamp.trans (by decide), again⟩
  · obtain ⟨fixed, read, nothing⟩ :=
      (registry_reads_parsed_fields (strangerOctets 0x30)).2 (by decide)
    have unregistered : fixed.kind? = none := by
      rw [FixedHeader.read_eq (by decide)] at read
      obtain rfl := Except.ok.inj read
      decide
    exact (nothing unregistered).2.1

end GeoRouter
