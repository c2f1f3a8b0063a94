import GeoRouter.Packet.Basic
import GeoRouter.Proofs.Parsing

/-!
# The language of the parser

Which octets are a packet, and what is said first against those that are not. `complaint?` tells
both from single octets, without the registry and without the codes of next headers, and is what
the parser finds on all octets.
-/

namespace GeoRouter

/-! ### Codes in half octets -/

namespace FixedHeader

theorem toNat_upper (octet : UInt8) : (upper octet).toNat = octet.toNat / 16 := by
  rw [upper, UInt8.toNat_shiftRight]
  exact Nat.shiftRight_eq_div_pow octet.toNat 4

theorem toNat_lower (octet : UInt8) : (lower octet).toNat = octet.toNat % 16 := by
  rw [lower, UInt8.toNat_and]
  exact Nat.and_two_pow_sub_one_eq_mod octet.toNat 4

/-- The registry knows type 2 with subtype 0 and nothing else. -/
theorem kind?_eq (header : FixedHeader) : header.kind? =
    if header.type.toNat = 2 ∧ header.subtype.toNat = 0 then some .geoUnicast else none := by
  have type : header.type = HeaderType.geoUnicast.code ↔ header.type.toNat = 2 :=
    UInt8.toNat_inj.symm
  have subtype : header.subtype = 0 ↔ header.subtype.toNat = 0 := UInt8.toNat_inj.symm
  simp only [kind?, ExtendedKind.lookup, type, subtype]

end FixedHeader

theorem BasicNextHeader.ofCode_cases (code : UInt8) :
    code.toNat = 0 ∧ ofCode code = .any ∨ code.toNat = 1 ∧ ofCode code = .common ∨
      code.toNat = 2 ∧ ofCode code = .secured ∨
      3 ≤ code.toNat ∧ ofCode code = .unknown code := by
  unfold ofCode
  split
  · rename_i any
    exact .inl ⟨any, rfl⟩
  · rename_i common
    exact .inr (.inl ⟨common, rfl⟩)
  · rename_i secured
    exact .inr (.inr (.inl ⟨secured, rfl⟩))
  · rename_i notAny notCommon notSecured
    refine .inr (.inr (.inr ⟨?_, rfl⟩))
    have zero : code.toNat ≠ 0 := notAny
    have one : code.toNat ≠ 1 := notCommon
    have two : code.toNat ≠ 2 := notSecured
    omega

namespace Headers

/-- The refusals, by the code that the basic next header was read from. -/
theorem refusal?_eq (fixed : FixedHeader) {code : UInt8} (read : fixed.basicNext = .ofCode code) :
    refusal? fixed =
      if fixed.version.toNat ≠ 0 ∨ code.toNat = 2 then some .unsupported
      else if 3 ≤ code.toNat then some .unrecognized
      else if fixed.maxHops < fixed.remainingHops then some .malformed
      else none := by
  have version : fixed.version = protocolVersion ↔ fixed.version.toNat = 0 :=
    UInt8.toNat_inj.symm
  unfold refusal?
  rw [read]
  by_cases foreign : fixed.version.toNat = 0
  · rcases BasicNextHeader.ofCode_cases code with
      ⟨any, named⟩ | ⟨common, named⟩ | ⟨secured, named⟩ | ⟨unknown, named⟩
    · simp [version, foreign, named, any]
    · simp [version, foreign, named, common]
    · simp [version, foreign, named, secured]
    · have unsecured : code.toNat ≠ 2 := by omega
      simp [version, foreign, named, unknown, unsecured]
  · simp [version, foreign]

/-! ### The language -/

/-- What is said first against octets as a packet, if anything is: that the fixed header is cut
off, that its type is another one, that the payload it announces is cut off, that the version is
another one or the packet is secured, that its next header is unknown, or that more hops are left
than there were. -/
def complaint? (b : Bytes) : Option WireError :=
  if b.length < 12 then some .truncated
  else if ¬ ((b.octetAt 5).toNat / 16 = 2 ∧ (b.octetAt 5).toNat % 16 = 0) then some .unrecognized
  else if b.length < 60 + b.number 8 2 then some .truncated
  else if (b.octetAt 0).toNat / 16 ≠ 0 ∨ (b.octetAt 0).toNat % 16 = 2 then some .unsupported
  else if 3 ≤ (b.octetAt 0).toNat % 16 then some .unrecognized
  else if b.octetAt 10 < b.octetAt 3 then some .malformed
  else none

theorem toNat_payloadLength (b : Bytes) : (inOctets b).payloadLength.toNat = b.number 8 2 :=
  UInt16.toNat_ofNat_of_lt' (b.number_lt 8 2)

theorem objection?_eq (b : Bytes) : objection? b = complaint? b := by
  have type : (FixedHeader.inOctets b).type.toNat = (b.octetAt 5).toNat / 16 :=
    FixedHeader.toNat_upper _
  have subtype : (FixedHeader.inOctets b).subtype.toNat = (b.octetAt 5).toNat % 16 :=
    FixedHeader.toNat_lower _
  have version : (FixedHeader.inOctets b).version.toNat = (b.octetAt 0).toNat / 16 :=
    FixedHeader.toNat_upper _
  have length : (FixedHeader.inOctets b).payloadLength.toNat = b.number 8 2 :=
    toNat_payloadLength b
  have refusal := refusal?_eq (FixedHeader.inOctets b) rfl
  rw [FixedHeader.toNat_lower, version] at refusal
  unfold objection? complaint?
  rw [FixedHeader.kind?_eq, type, subtype, length, refusal]
  by_cases registered : (b.octetAt 5).toNat / 16 = 2 ∧ (b.octetAt 5).toNat % 16 = 0
  · rw [if_pos registered, if_neg (not_not_intro registered)]
    rfl
  · rw [if_neg registered, if_pos registered]
    rfl

/-! ### Octets behind the packet -/

end Headers

namespace Bytes

variable {b : Bytes} {n : Nat}

theorem octetAt_take {i : Nat} (inside : i < n) : octetAt (b.take n) i = b.octetAt i := by
  rw [octetAt, octetAt, List.getD_eq_getElem?_getD, List.getD_eq_getElem?_getD,
    List.getElem?_take_of_lt inside]

theorem number_take {start size : Nat} (inside : start + size ≤ n) :
    number (b.take n) start size = b.number start size := by
  rw [number, number, List.drop_take, List.take_take, Nat.min_eq_left (by omega)]

/-- Octets inside the first ones are the same whatever stands behind those. -/
theorem take_drop_prefix {start size : Nat} (inside : start + size ≤ b.length)
    (trailing : Bytes) :
    ((b.take (start + size) ++ trailing).drop start).take size = (b.drop start).take size := by
  have width : (b.take (start + size)).length = start + size := List.length_take_of_le inside
  rw [List.drop_append_of_le_length (by omega), List.drop_take, Nat.add_sub_cancel_left,
    List.take_append_of_le_length (by rw [List.length_take, List.length_drop]; omega),
    List.take_take, Nat.min_self]

end Bytes

theorem LongPositionVector.inOctets_take {b : Bytes} {n start : Nat} (whole : start + size ≤ n) :
    inOctets (b.take n) start = inOctets b start := by
  simp only [size] at whole
  have movement : Bytes.number (b.take n) (start + 20) 2 = b.number (start + 20) 2 :=
    Bytes.number_take (by omega)
  unfold inOctets
  rw [movement]
  simp (disch := omega) only [ShortPositionVector.inOctets, Address.inOctets, Bytes.number_take,
    ShortPositionVector.timestampOffset, Address.size]

theorem GeoUnicast.inOctets_take {b : Bytes} {n : Nat} (whole : size ≤ n) :
    inOctets (b.take n) = inOctets b := by
  simp only [size] at whole
  have source : LongPositionVector.inOctets (b.take n) sourceOffset =
      LongPositionVector.inOctets b sourceOffset :=
    LongPositionVector.inOctets_take (Nat.le_trans (by decide) whole)
  unfold inOctets
  rw [source]
  simp (disch := omega) only [ShortPositionVector.inOctets, Address.inOctets, sequenceOffset,
    destinationOffset, ShortPositionVector.timestampOffset, Address.size, Bytes.number_take]

theorem FixedHeader.inOctets_take {b : Bytes} {n : Nat} (whole : size ≤ n) :
    inOctets (b.take n) = inOctets b := by
  simp only [size] at whole
  simp (disch := omega) only [inOctets, Bytes.octetAt_take, Bytes.number_take]

namespace Headers

theorem inOctets_take {b : Bytes} {n : Nat} (whole : size ≤ n) :
    inOctets (b.take n) = inOctets b := by
  have front : FixedHeader.size ≤ n := Nat.le_trans (Nat.le_add_right ..) whole
  have behind : GeoUnicast.size ≤ n - FixedHeader.size := by
    simp only [size] at whole
    omega
  rw [inOctets_eq, inOctets_eq, FixedHeader.inOctets_take front, List.drop_take,
    GeoUnicast.inOctets_take behind]

/-- A packet that ends where its headers say is a packet with the same headers in front of any
other octets. -/
theorem objection?_trailing {b : Bytes} (clear : objection? b = none) (trailing : Bytes) :
    objection? (b.take (inOctets b).totalLength ++ trailing) = none ∧
      inOctets (b.take (inOctets b).totalLength ++ trailing) = inOctets b := by
  obtain ⟨enough, kind, accepted⟩ := objection?_none_iff.mp clear
  have whole : size ≤ (inOctets b).totalLength := Nat.le_add_right ..
  have front : FixedHeader.size ≤ (inOctets b).totalLength := by
    simp only [size] at whole
    omega
  generalize cut : b.take (inOctets b).totalLength ++ trailing = other
  have width : (b.take (inOctets b).totalLength).length = (inOctets b).totalLength :=
    List.length_take_of_le enough
  have same : other.take (inOctets b).totalLength = b.take (inOctets b).totalLength := by
    rw [← cut, List.take_left' width]
  have headers : inOctets other = inOctets b := by
    rw [← inOctets_take whole, same, inOctets_take whole]
  have fixed : FixedHeader.inOctets other = FixedHeader.inOctets b := by
    rw [← FixedHeader.inOctets_take front, same, FixedHeader.inOctets_take front]
  refine ⟨objection?_none_iff.mpr ⟨?_, ?_, ?_⟩, headers⟩
  · rw [headers, ← cut, List.length_append, width]
    exact Nat.le_add_right ..
  · rw [fixed, kind]
  · rw [fixed, accepted]

end Headers

/-! ### Packets in containers -/

namespace Packet

variable {C : Type} [Container C] {c : C} {b : Bytes}

theorem parse_of_view (view : Container.view c = .ok b) :
    parse c = .ok (match Headers.objection? b with
      | some reason => .error reason
      | none => .ok ⟨c, Headers.inOctets b⟩) := by
  simp only [parse, view, bind, Except.bind, Headers.parse_eq]
  cases Headers.objection? b <;> rfl

/-- The payload of a packet without objection lies inside the octets. -/
theorem payload_of_view (view : Container.view c = .ok b) (clear : Headers.objection? b = none) :
    payload ⟨c, Headers.inOctets b⟩ =
      .ok ((b.drop Headers.size).take (Headers.inOctets b).payloadLength.toNat) := by
  simp only [payload, whole, view, bind, Except.bind]
  exact Bytes.slice_eq (Headers.of_objection?_none clear).1

/-- The parser answers for all octets: with what is said first against them, or with the packet that
starts them. That ends behind its payload, and what follows makes no difference. -/
theorem parse_decides_language (view : Container.view c = .ok b) :
    (∀ reason, Headers.checkFixed b = .error reason → parse c = .ok (.error reason)) ∧
    match Headers.complaint? b with
    | some reason => parse c = .ok (.error reason)
    | none => ∃ packet, parse c = .ok (.ok packet) ∧ packet.inner = c ∧ Headers.size = 60 ∧
        packet.headers.totalLength = 60 + b.number 8 2 ∧
        packet.headers.totalLength ≤ b.length ∧
        packet.payload = .ok ((b.drop 60).take (b.number 8 2)) ∧
        ∀ (other : C) (trailing : Bytes),
          Container.view other = .ok (b.take packet.headers.totalLength ++ trailing) →
          parse other = .ok (.ok { packet with inner := other }) ∧
            payload { packet with inner := other } = packet.payload := by
  rw [← Headers.objection?_eq, parse_of_view view]
  constructor
  · intro reason short
    unfold Headers.checkFixed at short
    split at short
    · rename_i cut
      obtain rfl := Except.error.inj short
      rw [Headers.objection?, if_pos cut]
    · cases short
  cases clear : Headers.objection? b with
  | some reason => rfl
  | none =>
    obtain ⟨enough, -, -⟩ := Headers.of_objection?_none clear
    have length := Headers.toNat_payloadLength b
    have total : (Headers.inOctets b).totalLength = 60 + b.number 8 2 := congrArg (60 + ·) length
    have payload := payload_of_view view clear
    rw [length] at payload
    refine ⟨_, rfl, rfl, rfl, total, enough, payload, ?_⟩
    intro other trailing seen
    obtain ⟨again, same⟩ := Headers.objection?_trailing clear trailing
    have read := payload_of_view seen again
    rw [parse_of_view seen, again]
    rw [same] at read ⊢
    refine ⟨rfl, read.trans ?_⟩
    rw [payload, length, total]
    exact congrArg Except.ok (Bytes.take_drop_prefix (total ▸ enough) trailing)

/-- A packet of one octet, with as many octets behind it. -/
def trailedOctets : Bytes :=
  [0x01, 0x00, 0x1a, 0x0a, 0x20, 0x20, 0x00, 0x00, 0x00, 0x01, 0x0a, 0x00] ++
    List.replicate 48 0x5a ++ [0x07, 0x08]

/-- Cut off inside its payload it is truncated, although its version is another one as well. -/
theorem parse_decides_language_of_trailed :
    (∃ packet, parse (Buffer.ofFixed trailedOctets) = .ok (.ok packet) ∧
      packet.payload = .ok [0x07]) ∧
    parse (Buffer.ofFixed (0x31 :: (trailedOctets.take 60).drop 1)) =
      .ok (.error .truncated) := by
  constructor
  · have view : Container.view (Buffer.ofFixed trailedOctets) = .ok trailedOctets := rfl
    have decided := (parse_decides_language view).2
    rw [show Headers.complaint? trailedOctets = none by decide] at decided
    obtain ⟨packet, parsed, -, -, -, -, payload, -⟩ := decided
    exact ⟨packet, parsed, payload.trans (congrArg Except.ok (by decide))⟩
  · have view : Container.view (Buffer.ofFixed (0x31 :: (trailedOctets.take 60).drop 1)) =
        .ok (0x31 :: (trailedOctets.take 60).drop 1) := rfl
    have decided := (parse_decides_language view).2
    rw [show Headers.complaint? (0x31 :: (trailedOctets.take 60).drop 1) =
      some .truncated by decide] at decided
    exact decided

end Packet
end GeoRouter
