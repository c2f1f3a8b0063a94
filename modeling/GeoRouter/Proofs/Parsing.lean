import GeoRouter.Packet.Headers
import GeoRouter.Proofs.Octets

/-!
# What the parser makes of octets

Every read of a header lies behind a length check, so parsing answers on all octets: `parse_eq`
gives the answer in full, with `objection?` as the list of checks in their order and `inOctets` as
the headers at the front of any octets. The registry, which duplicate detection reads through,
finds the same fields in the same octets.
-/

namespace GeoRouter

/-! ### Fields at their places -/

namespace Address

def inOctets (b : Bytes) (start : Nat) : Address := ofRaw (BitVec.ofNat 64 (b.number start size))

theorem read_eq {b : Bytes} {start : Nat} (inside : start + size ≤ b.length) :
    read b start = .ok (inOctets b start) := by
  unfold read
  rw [Bytes.word_eq inside]
  rfl

end Address

namespace ShortPositionVector

def inOctets (b : Bytes) (start : Nat) : ShortPositionVector where
  address := Address.inOctets b start
  timestamp := ⟨BitVec.ofNat 32 (b.number (start + timestampOffset) 4)⟩
  latitude := Coordinate.ofWord (b.number (start + 12) 4)
  longitude := Coordinate.ofWord (b.number (start + 16) 4)

theorem read_eq {b : Bytes} {start : Nat} (inside : start + size ≤ b.length) :
    read b start = .ok (inOctets b start) := by
  simp only [size] at inside
  rw [read, Address.read_eq (by simp only [Address.size]; omega),
    Bytes.word_eq (by simp only [timestampOffset]; omega), Bytes.word_eq (by omega),
    Bytes.word_eq (by omega)]
  rfl

end ShortPositionVector

namespace LongPositionVector

def inOctets (b : Bytes) (start : Nat) : LongPositionVector where
  toShortPositionVector := ShortPositionVector.inOctets b start
  accurate := b.number (start + 20) 2 / 0x8000 ≠ 0
  speed := UInt16.ofNat (b.number (start + 20) 2 % 0x8000)
  heading := UInt16.ofNat (b.number (start + 22) 2)

theorem read_eq {b : Bytes} {start : Nat} (inside : start + size ≤ b.length) :
    read b start = .ok (inOctets b start) := by
  simp only [size] at inside
  rw [read, ShortPositionVector.read_eq (by simp only [ShortPositionVector.size]; omega),
    Bytes.word_eq (by omega), Bytes.word_eq (by omega)]
  rfl

end LongPositionVector

namespace GeoUnicast

def inOctets (b : Bytes) : GeoUnicast where
  sequence := ⟨BitVec.ofNat 16 (b.number sequenceOffset 2)⟩
  source := LongPositionVector.inOctets b sourceOffset
  destination := ShortPositionVector.inOctets b destinationOffset

theorem read_eq {b : Bytes} (long : size ≤ b.length) : read b = .ok (inOctets b) := by
  simp only [size] at long
  rw [read, Bytes.word_eq (by simp only [sequenceOffset]; omega),
    LongPositionVector.read_eq (by simp only [sourceOffset, LongPositionVector.size]; omega),
    ShortPositionVector.read_eq
      (by simp only [destinationOffset, ShortPositionVector.size]; omega)]
  rfl

theorem parse_eq {b : Bytes} (long : size ≤ b.length) : parse b = .ok (.ok (inOctets b)) := by
  unfold parse
  rw [if_neg (Nat.not_lt.mpr long), read_eq long]
  rfl

end GeoUnicast

namespace FixedHeader

def inOctets (b : Bytes) : FixedHeader where
  version := upper (b.octetAt 0)
  basicNext := .ofCode (lower (b.octetAt 0))
  lifetime := ⟨b.octetAt 2⟩
  remainingHops := b.octetAt 3
  next := .ofCode (upper (b.octetAt 4))
  type := upper (b.octetAt 5)
  subtype := lower (b.octetAt 5)
  trafficClass := .ofCode (b.octetAt 6)
  mobile := b.octetAt 7 &&& 0x80 ≠ 0
  payloadLength := UInt16.ofNat (b.number 8 2)
  maxHops := b.octetAt 10

theorem read_eq {b : Bytes} (long : size ≤ b.length) : read b = .ok (inOctets b) := by
  simp only [size] at long
  rw [read, Bytes.octet_eq (by omega), Bytes.octet_eq (by omega), Bytes.octet_eq (by omega),
    Bytes.octet_eq (by omega), Bytes.octet_eq (by omega), Bytes.octet_eq (by omega),
    Bytes.octet_eq (by omega), Bytes.word_eq (by omega), Bytes.octet_eq (by omega)]
  rfl

end FixedHeader

namespace Headers

def inOctets (b : Bytes) : Headers where
  lifetime := ⟨b.octetAt 2⟩
  remainingHops := b.octetAt 3
  next := .ofCode (FixedHeader.upper (b.octetAt 4))
  trafficClass := .ofCode (b.octetAt 6)
  mobile := b.octetAt 7 &&& 0x80 ≠ 0
  payloadLength := UInt16.ofNat (b.number 8 2)
  maxHops := b.octetAt 10
  extended := GeoUnicast.inOctets (b.drop FixedHeader.size)

/-- The fields of the fixed header stand in the same octets for both readings. -/
theorem inOctets_eq (b : Bytes) : inOctets b = {
    lifetime := (FixedHeader.inOctets b).lifetime
    remainingHops := (FixedHeader.inOctets b).remainingHops
    next := (FixedHeader.inOctets b).next
    trafficClass := (FixedHeader.inOctets b).trafficClass
    mobile := (FixedHeader.inOctets b).mobile
    payloadLength := (FixedHeader.inOctets b).payloadLength
    maxHops := (FixedHeader.inOctets b).maxHops
    extended := GeoUnicast.inOctets (b.drop FixedHeader.size) } := rfl

/-- Why octets are not a packet that may be processed, if they are not. -/
def objection? (b : Bytes) : Option WireError :=
  if b.length < FixedHeader.size then some .truncated
  else match (FixedHeader.inOctets b).kind? with
    | none => some .unrecognized
    | some _ =>
      if b.length < size + (FixedHeader.inOctets b).payloadLength.toNat then some .truncated
      else refusal? (FixedHeader.inOctets b)

theorem checkExtended_eq (b : Bytes) :
    checkExtended b = .ok (
      if b.length < FixedHeader.size then .error .truncated
      else match (FixedHeader.inOctets b).kind? with
        | none => .error .unrecognized
        | some kind =>
          if b.length < size + (FixedHeader.inOctets b).payloadLength.toNat then .error .truncated
          else .ok kind) := by
  unfold checkExtended
  by_cases short : b.length < FixedHeader.size
  · rw [if_pos short, if_pos short]
    rfl
  rw [if_neg short, if_neg short, FixedHeader.read_eq (Nat.not_lt.mp short)]
  cases kind : (FixedHeader.inOctets b).kind? with
  | none =>
    simp only [bind, Except.bind, kind]
    rfl
  | some found =>
    cases found
    simp only [bind, Except.bind, kind]
    exact (apply_ite Except.ok ..).symm

theorem parse_eq (b : Bytes) :
    parse b = .ok (match objection? b with
      | some reason => .error reason
      | none => .ok (inOctets b)) := by
  unfold parse objection?
  rw [checkExtended_eq]
  by_cases short : b.length < FixedHeader.size
  · rw [if_pos short, if_pos short]
    rfl
  rw [if_neg short, if_neg short]
  have fixed := FixedHeader.read_eq (Nat.not_lt.mp short)
  cases (FixedHeader.inOctets b).kind? with
  | none => rfl
  | some found =>
    by_cases cut : b.length < size + (FixedHeader.inOctets b).payloadLength.toNat
    · simp only [if_pos cut]
      rfl
    have extended : GeoUnicast.parse (b.drop FixedHeader.size) =
        .ok (.ok (GeoUnicast.inOctets (b.drop FixedHeader.size))) := by
      apply GeoUnicast.parse_eq
      rw [List.length_drop]
      simp only [size] at cut
      omega
    simp only [if_neg cut, bind, Except.bind, fixed, Bytes.suffix_eq (Nat.not_lt.mp short)]
    cases refusal? (FixedHeader.inOctets b) with
    | some reason => rfl
    | none =>
      simp only [extended]
      rfl

theorem parse_ok_iff {b : Bytes} {h : Headers} :
    parse b = .ok (.ok h) ↔ objection? b = none ∧ h = inOctets b := by
  rw [parse_eq]
  cases objection? b with
  | some reason => simp
  | none => simp [eq_comm]

theorem parse_error_iff {b : Bytes} {reason : WireError} :
    parse b = .ok (.error reason) ↔ objection? b = some reason := by
  rw [parse_eq]
  cases objection? b with
  | some found => simp
  | none => simp

theorem refusal?_none_iff {fixed : FixedHeader} :
    refusal? fixed = none ↔ fixed.version = protocolVersion ∧
      (fixed.basicNext = .any ∨ fixed.basicNext = .common) ∧
      fixed.remainingHops ≤ fixed.maxHops := by
  unfold refusal?
  by_cases version : fixed.version = protocolVersion
  · rw [if_neg (not_not_intro version)]
    cases fixed.basicNext <;> simp [version, UInt8.not_lt]
  · simp [version]

/-- What the checks leave: enough octets, a registered extended header, and no refusal. -/
theorem objection?_none_iff {b : Bytes} :
    objection? b = none ↔ size + (inOctets b).payloadLength.toNat ≤ b.length ∧
      (FixedHeader.inOctets b).kind? = some .geoUnicast ∧
      refusal? (FixedHeader.inOctets b) = none := by
  have same : (inOctets b).payloadLength = (FixedHeader.inOctets b).payloadLength := rfl
  unfold objection?
  rw [same]
  constructor
  · intro clear
    split at clear
    · cases clear
    cases kind : (FixedHeader.inOctets b).kind? with
    | none => rw [kind] at clear; cases clear
    | some found =>
      cases found
      simp only [kind] at clear
      split at clear
      · cases clear
      · rename_i enough
        exact ⟨Nat.not_lt.mp enough, rfl, clear⟩
  · rintro ⟨enough, kind, accepted⟩
    have long : ¬ b.length < FixedHeader.size := by
      rw [size] at enough
      omega
    simp only [if_neg long, kind, if_neg (Nat.not_lt.mpr enough), accepted]

theorem of_objection?_none {b : Bytes} (clear : objection? b = none) :
    size + (inOctets b).payloadLength.toNat ≤ b.length ∧
      (FixedHeader.inOctets b).kind? = some .geoUnicast ∧
      (inOctets b).remainingHops ≤ (inOctets b).maxHops := by
  obtain ⟨enough, kind, accepted⟩ := objection?_none_iff.mp clear
  obtain ⟨-, -, hops⟩ := refusal?_none_iff.mp accepted
  exact ⟨enough, kind, hops⟩

end Headers

/-! ### The registry -/

namespace FixedHeader

section Registered

variable {b : Bytes} (long : Headers.size ≤ b.length)
  (registered : (inOctets b).kind? = some .geoUnicast)
include long registered

theorem field?_eq {offset : Layout → Option Nat} {start width : Nat}
    (place : offset ExtendedKind.geoUnicast.layout = some start)
    (inside : start + width ≤ GeoUnicast.size) :
    field? b offset width = .ok (some (Bytes.number (b.drop size) start width)) := by
  simp only [Headers.size] at long
  have lookup : ExtendedKind.lookup (upper (b.octetAt 5)) (lower (b.octetAt 5)) =
      some .geoUnicast := registered
  have word : Bytes.word (b.drop size) start width =
      .ok (Bytes.number (b.drop size) start width) :=
    Bytes.word_eq (by rw [List.length_drop]; omega)
  unfold field?
  rw [Bytes.octet_eq (by simp only [size, GeoUnicast.size] at long; omega)]
  simp only [bind, Except.bind, lookup, Option.bind_some, place]
  rw [Bytes.suffix_eq (by omega)]
  simp only [word]
  rfl

theorem sourceAddress?_eq :
    sourceAddress? b = .ok (some (Headers.inOctets b).extended.source.address) := by
  unfold sourceAddress?
  rw [field?_eq long registered rfl (by decide)]
  rfl

theorem sequenceNumber?_eq :
    sequenceNumber? b = .ok (some (Headers.inOctets b).extended.sequence) := by
  unfold sequenceNumber?
  rw [field?_eq long registered rfl (by decide)]
  rfl

theorem timestamp?_eq :
    timestamp? b = .ok (some (Headers.inOctets b).extended.source.timestamp) := by
  unfold timestamp?
  rw [field?_eq long registered rfl (by decide)]
  rfl

end Registered
end FixedHeader

/-! ### Another hop limit in the same octets -/

section Hops

variable {b : Bytes} (long : 4 ≤ b.length) (hops : UInt8)
include long

theorem FixedHeader.inOctets_splice :
    inOctets (b.splice 3 [hops]) = { inOctets b with remainingHops := hops } := by
  have other (i : Nat) (apart : i < 3 ∨ 4 ≤ i) : (b.splice 3 [hops]).octetAt i = b.octetAt i :=
    congrArg (·.getD 0) (Bytes.getElem?_splice_outside long apart)
  have single : 0 < [hops].length := Nat.zero_lt_one
  have here : (b.splice 3 [hops]).octetAt 3 = hops :=
    congrArg (·.getD 0) (Bytes.getElem?_splice_inside long single)
  have length : (b.splice 3 [hops]).number 8 2 = b.number 8 2 := by
    have behind : 3 + [hops].length ≤ 8 := (by decide : 4 ≤ 8)
    unfold Bytes.number
    rw [Bytes.drop_splice long behind]
  simp only [inOctets, other 0 (by decide), other 2 (by decide), here, other 4 (by decide),
    other 5 (by decide), other 6 (by decide), other 7 (by decide), length, other 10 (by decide)]

theorem Headers.inOctets_splice :
    inOctets (b.splice 3 [hops]) = { inOctets b with remainingHops := hops } := by
  have fixed := FixedHeader.inOctets_splice long hops
  have extended : (b.splice 3 [hops]).drop FixedHeader.size = b.drop FixedHeader.size :=
    Bytes.drop_splice long (by decide : 4 ≤ 12)
  rw [inOctets_eq, fixed, extended]
  rfl

/-- A packet without objection stays one with any hop limit up to the maximum. -/
theorem Headers.objection?_splice (clear : objection? b = none)
    (few : hops ≤ (inOctets b).maxHops) : objection? (b.splice 3 [hops]) = none := by
  obtain ⟨enough, kind, accepted⟩ := objection?_none_iff.mp clear
  obtain ⟨version, next, -⟩ := refusal?_none_iff.mp accepted
  rw [objection?_none_iff, inOctets_splice long, FixedHeader.inOctets_splice long,
    Bytes.length_splice long]
  exact ⟨enough, kind, refusal?_none_iff.mpr ⟨version, next, few⟩⟩

end Hops
end GeoRouter
