import GeoRouter.Proofs.RoundTrip

/-!
# Octets there and back

Headers that were read and are written again stand in the octets they came from, apart from the
bits that mean nothing. `canonicalOctet` lists those bits octet by octet; all others are carried
through the headers, and accepting the octets without those bits gives the same headers.
-/

namespace GeoRouter

namespace BigEndian

theorem encode_decode {size : Nat} {octets : Bytes} (width : octets.length = size) :
    encode size (decode octets) = octets := by
  have same : (encode size (decode octets)).length = octets.length := by
    rw [length_encode, width]
  apply decode_injective same
  rw [decode_encode, ← width]
  exact Nat.mod_eq_of_lt (decode_lt octets)

end BigEndian

namespace Bytes

variable {b : Bytes}

theorem encode_number {start size : Nat} (inside : start + size ≤ b.length) :
    BigEndian.encode size (b.number start size) = (b.drop start).take size := by
  apply BigEndian.encode_decode
  rw [List.length_take, List.length_drop]
  omega

theorem take_append_drop (start m n : Nat) :
    (b.drop start).take m ++ (b.drop (start + m)).take n = (b.drop start).take (m + n) := by
  rw [List.take_add, List.drop_drop]

theorem getElem?_of_inside {i : Nat} (inside : i < b.length) : b[i]? = some (b.octetAt i) := by
  rw [octetAt, List.getD_eq_getElem?_getD, List.getElem?_eq_getElem inside]
  rfl

theorem mapIdx_take {n : Nat} (inside : n ≤ b.length) (f : Nat → UInt8 → UInt8) :
    (b.take n).mapIdx f = (List.range n).map fun i => f i (b.octetAt i) := by
  apply List.ext_getElem?
  intro i
  rw [List.getElem?_mapIdx, List.getElem?_map]
  by_cases before : i < n
  · rw [List.getElem?_take_of_lt before, List.getElem?_range before,
      getElem?_of_inside (Nat.lt_of_lt_of_le before inside)]
    rfl
  · have outside : (List.range n).length ≤ i := by
      rw [List.length_range]
      exact Nat.not_lt.mp before
    rw [List.getElem?_take_eq_none (Nat.not_lt.mp before), List.getElem?_eq_none outside]
    rfl

end Bytes

/-! ### Single fields -/

/-- What holds of all 256 octets, and so can be decided. -/
theorem Octet.forall_of_fin {p : UInt8 → Prop} (every : ∀ n : Fin 256, p ⟨⟨n⟩⟩)
    (octet : UInt8) : p octet := every octet.toFin

namespace FixedHeader

theorem nibbles_upper (octet : UInt8) : nibbles (upper octet) 0 = octet &&& 0xf0 := by
  revert octet
  exact Octet.forall_of_fin (by decide +kernel)

theorem nibbles_upper_lower (octet : UInt8) : nibbles (upper octet) (lower octet) = octet := by
  revert octet
  exact Octet.forall_of_fin (by decide +kernel)

theorem upper_mod (octet : UInt8) : upper octet % 16 = upper octet := by
  revert octet
  exact Octet.forall_of_fin (by decide +kernel)

theorem mobileOctet_flag (octet : UInt8) :
    mobileOctet (decide (octet &&& 0x80 ≠ 0)) = octet &&& 0x80 := by
  revert octet
  exact Octet.forall_of_fin (by decide +kernel)

end FixedHeader

theorem TrafficClass.code_ofCode (octet : UInt8) : (ofCode octet).code = octet := by
  revert octet
  exact Octet.forall_of_fin (by decide +kernel)

theorem TrafficClass.id_mod (octet : UInt8) : (ofCode octet).id % 64 = (ofCode octet).id := by
  revert octet
  exact Octet.forall_of_fin (by decide +kernel)

theorem NextHeader.code_ofCode (octet : UInt8) : (ofCode octet).code = octet := by
  unfold ofCode
  split
  all_goals first
    | rfl
    | (rename_i same; exact UInt8.toNat_inj.mp same.symm)

theorem Address.raw_ofRaw (bits : BitVec 64) : (ofRaw bits).raw = bits := by
  have flag : BitVec.ofBool bits.msb = bits.extractLsb' 63 1 := by
    apply BitVec.eq_of_getLsbD_eq
    intro i inside
    obtain rfl : i = 0 := by omega
    simp [BitVec.msb_eq_getLsbD_last]
  simp only [ofRaw, raw, flag]
  rw [BitVec.extractLsb'_append_extractLsb'_eq_extractLsb' (by decide),
    BitVec.extractLsb'_append_extractLsb'_eq_extractLsb' (by decide),
    BitVec.extractLsb'_append_extractLsb'_eq_extractLsb' (by decide)]
  exact BitVec.extractLsb'_eq_self

theorem Address.encode_inOctets {b : Bytes} {start : Nat} (inside : start + size ≤ b.length) :
    (inOctets b start).encode = (b.drop start).take size := by
  have word : (BitVec.ofNat 64 (b.number start size)).toNat = b.number start size :=
    Nat.mod_eq_of_lt (b.number_lt start size)
  unfold encode inOctets
  rw [raw_ofRaw, word]
  exact Bytes.encode_number inside

theorem Coordinate.toWord_ofWord {n : Nat} (bound : n < 1 <<< 32) : toWord (ofWord n) = n := by
  unfold toWord ofWord
  rw [Int32.toBitVec_ofBitVec]
  exact Nat.mod_eq_of_lt bound

/-! ### Position vectors -/

namespace ShortPositionVector

theorem encode_inOctets {b : Bytes} {start : Nat} (inside : start + size ≤ b.length) :
    (inOctets b start).encode = (b.drop start).take size := by
  simp only [size] at inside ⊢
  have address : (Address.inOctets b start).encode = (b.drop start).take 8 :=
    Address.encode_inOctets (by simp only [Address.size]; omega)
  have timestamp : (BitVec.ofNat 32 (b.number (start + 8) 4)).toNat = b.number (start + 8) 4 :=
    Nat.mod_eq_of_lt (b.number_lt (start + 8) 4)
  have latitude := Coordinate.toWord_ofWord (b.number_lt (start + 12) 4)
  have longitude := Coordinate.toWord_ofWord (b.number_lt (start + 16) 4)
  simp only [encode, inOctets, address, timestampOffset, timestamp, latitude, longitude]
  rw [Bytes.encode_number (by omega), Bytes.encode_number (by omega),
    Bytes.encode_number (by omega), Bytes.take_append_drop start 8 4,
    Bytes.take_append_drop start 12 4, Bytes.take_append_drop start 16 4]

end ShortPositionVector

namespace LongPositionVector

theorem movement_eq {n : Nat} (bound : n < 0x10000) {accurate : Bool}
    (flag : accurate = decide (n / 0x8000 ≠ 0)) :
    (if accurate then 0x8000 else 0) + (UInt16.ofNat (n % 0x8000)).toNat % 0x8000 = n := by
  have speed : (UInt16.ofNat (n % 0x8000)).toNat = n % 0x8000 := by
    rw [UInt16.toNat_ofNat']
    simp
    omega
  rw [speed]
  cases accurate with
  | true =>
    have set := of_decide_eq_true flag.symm
    rw [if_pos rfl]
    omega
  | false =>
    have clear := of_decide_eq_false flag.symm
    rw [if_neg Bool.false_ne_true]
    omega

theorem encode_inOctets {b : Bytes} {start : Nat} (inside : start + size ≤ b.length) :
    (inOctets b start).encode = (b.drop start).take size := by
  simp only [size] at inside ⊢
  have short : (inOctets b start).toShortPositionVector.encode = (b.drop start).take 20 :=
    ShortPositionVector.encode_inOctets (by simp only [ShortPositionVector.size]; omega)
  have movement : (if (inOctets b start).accurate then 0x8000 else 0) +
      (inOctets b start).speed.toNat % 0x8000 = b.number (start + 20) 2 :=
    movement_eq (b.number_lt (start + 20) 2) rfl
  have heading : (inOctets b start).heading.toNat = b.number (start + 22) 2 :=
    UInt16.toNat_ofNat_of_lt' (b.number_lt (start + 22) 2)
  unfold encode
  rw [short, movement, heading, Bytes.encode_number (by omega), Bytes.encode_number (by omega),
    Bytes.take_append_drop start 20 2, Bytes.take_append_drop start 22 2]

end LongPositionVector

/-! ### Whole headers -/

theorem GeoUnicast.transmitted_inOctets (b : Bytes) : (inOctets b).transmitted = inOctets b := by
  have speed : (inOctets b).source.speed % 0x8000 = (inOctets b).source.speed := by
    have bound : b.number (sourceOffset + 20) 2 % 0x8000 < 0x8000 := Nat.mod_lt _ (by decide)
    apply UInt16.toNat_inj.mp
    rw [UInt16.toNat_mod]
    refine Nat.mod_eq_of_lt (Nat.lt_of_le_of_lt ?_ bound)
    exact Nat.mod_le _ _
  unfold transmitted
  rw [speed]

theorem GeoUnicast.encode_inOctets {b : Bytes} (long : size ≤ b.length) :
    (inOctets b).encode = b.take 2 ++ [0, 0] ++ (b.drop 4).take 44 := by
  simp only [size] at long
  have sequence : (inOctets b).sequence.val.toNat = b.number 0 2 :=
    Nat.mod_eq_of_lt (b.number_lt 0 2)
  have source : (inOctets b).source.encode = (b.drop 4).take 24 :=
    LongPositionVector.encode_inOctets (by simp only [sourceOffset, LongPositionVector.size]; omega)
  have destination : (inOctets b).destination.encode = (b.drop 28).take 20 :=
    ShortPositionVector.encode_inOctets
      (by simp only [destinationOffset, ShortPositionVector.size]; omega)
  unfold encode
  rw [sequence, source, destination, Bytes.encode_number (by omega), List.append_assoc,
    Bytes.take_append_drop 4 24 20]
  rfl

namespace Headers

/-- An octet of the headers without the bits that mean nothing at its place. -/
def canonicalOctet (place : Nat) (octet : UInt8) : UInt8 :=
  match place with
  | 0 => (octet &&& 0xf0) ||| 1
  | 4 => octet &&& 0xf0
  | 7 => octet &&& 0x80
  | 1 | 11 | 14 | 15 => 0
  | _ => octet

def canonical (b : Bytes) : Bytes := (b.take size).mapIdx canonicalOctet

theorem canonical_eq {b : Bytes} (long : size ≤ b.length) :
    canonical b = [(b.octetAt 0 &&& 0xf0) ||| 1, 0, b.octetAt 2, b.octetAt 3, b.octetAt 4 &&& 0xf0,
      b.octetAt 5, b.octetAt 6, b.octetAt 7 &&& 0x80, b.octetAt 8, b.octetAt 9, b.octetAt 10, 0,
      b.octetAt 12, b.octetAt 13, 0, 0] ++ (b.drop 16).take 44 := by
  have whole : b.take size = b.take 16 ++ (b.drop 16).take 44 :=
    List.take_add (i := 16) (j := 44)
  have front := Bytes.mapIdx_take (Nat.le_trans (by decide : 16 ≤ size) long) canonicalOctet
  have width : (b.take 16).length = 16 :=
    List.length_take_of_le (Nat.le_trans (by decide : 16 ≤ size) long)
  have behind (octets : Bytes) : octets.mapIdx (fun i => canonicalOctet (i + 16)) = octets := by
    apply List.ext_getElem?
    intro i
    rw [List.getElem?_mapIdx]
    cases octets[i]? <;> rfl
  rw [canonical, whole, List.mapIdx_append, width, behind, front]
  rfl

/-- The first octet and the codes are those that every accepted packet has. -/
theorem fixed_octets {b : Bytes} (registered : (FixedHeader.inOctets b).kind? = some .geoUnicast)
    (version : (FixedHeader.inOctets b).version = protocolVersion) :
    (b.octetAt 0 &&& 0xf0) ||| 1 = 1 ∧ b.octetAt 5 = 0x20 := by
  have first : FixedHeader.upper (b.octetAt 0) = 0 := version
  have codes : FixedHeader.upper (b.octetAt 5) = 2 ∧ FixedHeader.lower (b.octetAt 5) = 0 := by
    unfold FixedHeader.kind? ExtendedKind.lookup at registered
    split at registered
    · assumption
    · cases registered
  constructor
  · rw [← FixedHeader.nibbles_upper, first]
    rfl
  · rw [← FixedHeader.nibbles_upper_lower (b.octetAt 5), codes.1, codes.2]
    rfl

theorem fixed_encode_inOctets {b : Bytes} (long : FixedHeader.size ≤ b.length)
    (codes : b.octetAt 5 = 0x20) :
    (inOctets b).fixed.encode = [1, 0, b.octetAt 2, b.octetAt 3, b.octetAt 4 &&& 0xf0,
      b.octetAt 5, b.octetAt 6, b.octetAt 7 &&& 0x80] ++ [b.octetAt 8, b.octetAt 9] ++
      [b.octetAt 10, 0] := by
  simp only [FixedHeader.size] at long
  have version : FixedHeader.nibbles protocolVersion BasicNextHeader.common.code = 1 := by decide
  have next : FixedHeader.nibbles (inOctets b).next.code 0 = b.octetAt 4 &&& 0xf0 := by
    have code : (inOctets b).next.code = FixedHeader.upper (b.octetAt 4) :=
      NextHeader.code_ofCode _
    rw [code, FixedHeader.nibbles_upper]
  have type : FixedHeader.nibbles ExtendedKind.geoUnicast.codes.1
      ExtendedKind.geoUnicast.codes.2 = 0x20 := by decide
  have traffic : (inOctets b).trafficClass.code = b.octetAt 6 := TrafficClass.code_ofCode _
  have mobile : FixedHeader.mobileOctet (inOctets b).mobile = b.octetAt 7 &&& 0x80 :=
    FixedHeader.mobileOctet_flag _
  have length : BigEndian.encode 2 (inOctets b).payloadLength.toNat =
      [b.octetAt 8, b.octetAt 9] := by
    have word : (inOctets b).payloadLength.toNat = b.number 8 2 :=
      UInt16.toNat_ofNat_of_lt' (b.number_lt 8 2)
    rw [word, Bytes.encode_number (by omega), Bytes.take_succ_drop 1 (by omega),
      Bytes.take_succ_drop 0 (by omega), List.take_zero]
  rw [← length, ← next, ← traffic, ← mobile, codes, ← version, ← type]
  rfl

/-- Headers that were read are written again as the octets they were read from, but for the bits
that mean nothing. -/
theorem encode_inOctets {b : Bytes} (long : size ≤ b.length)
    (registered : (FixedHeader.inOctets b).kind? = some .geoUnicast)
    (version : (FixedHeader.inOctets b).version = protocolVersion) :
    (inOctets b).encode = canonical b := by
  obtain ⟨first, codes⟩ := fixed_octets registered version
  have fits : FixedHeader.size + GeoUnicast.size ≤ b.length := long
  have fixed := fixed_encode_inOctets (Nat.le_trans (Nat.le_add_right ..) fits) codes
  have extended := GeoUnicast.encode_inOctets (b := b.drop FixedHeader.size)
    (by rw [List.length_drop]; omega)
  have sequence : (b.drop FixedHeader.size).take 2 = [b.octetAt 12, b.octetAt 13] := by
    simp only [FixedHeader.size, GeoUnicast.size] at fits ⊢
    rw [Bytes.take_succ_drop 1 (by omega), Bytes.take_succ_drop 0 (by omega), List.take_zero]
  rw [sequence, List.drop_drop] at extended
  have whole : (inOctets b).encode =
      (inOctets b).fixed.encode ++ (GeoUnicast.inOctets (b.drop FixedHeader.size)).encode := rfl
  rw [whole, fixed, extended, canonical_eq long, first]
  simp only [List.cons_append, List.nil_append]
  rfl

theorem transmitted_inOctets (b : Bytes) : (inOctets b).transmitted = inOctets b := by
  have next : NextHeader.ofCode ((inOctets b).next.code % 16) = (inOctets b).next := by
    have code : (inOctets b).next.code = FixedHeader.upper (b.octetAt 4) :=
      NextHeader.code_ofCode _
    rw [code, FixedHeader.upper_mod]
    rfl
  have id : (inOctets b).trafficClass.id % 64 = (inOctets b).trafficClass.id :=
    TrafficClass.id_mod _
  have source : (inOctets b).extended.transmitted = (inOctets b).extended :=
    GeoUnicast.transmitted_inOctets _
  unfold transmitted
  rw [next, id, source]

/-- Headers that were accepted and are written over other octets, all at once or field by field,
give the octets they came from without the bits that mean nothing, leave the octets behind them
alone, and are accepted again as the same headers, addresses with all their bits, once their
payload follows. -/
theorem emit_parsed {b : Bytes} {h : Headers} (parsed : parse b = .ok (.ok h)) {old : Bytes}
    (room : size ≤ old.length) :
    ∃ written, emit old h = .ok written ∧ emitFields old h = .ok written ∧
      written.take size = canonical b ∧
      written.drop size = old.drop size ∧
      ∀ payload : Bytes, h.payloadLength.toNat ≤ payload.length →
        parse (written.take size ++ payload) = .ok (.ok h) := by
  obtain ⟨clear, rfl⟩ := parse_ok_iff.mp parsed
  obtain ⟨enough, registered, accepted⟩ := objection?_none_iff.mp clear
  obtain ⟨version, -, hops⟩ := refusal?_none_iff.mp accepted
  have long : size ≤ b.length := Nat.le_trans (Nat.le_add_right ..) enough
  have same := encode_inOctets long registered version
  have front : ((inOctets b).encode ++ old.drop size).take size = (inOctets b).encode :=
    List.take_left' (inOctets b).length_encode
  refine ⟨_, emit_eq room _, emitFields_eq room _, front.trans same, ?_, ?_⟩
  · exact List.drop_left' (inOctets b).length_encode
  · intro payload follows
    have few : ¬ (inOctets b).maxHops < (inOctets b).remainingHops := UInt8.not_lt.mpr hops
    have clear : objection? ((inOctets b).encode ++ payload) = none := by
      rw [objection?_encode _ follows, if_neg few]
    rw [front]
    refine parse_ok_iff.mpr ⟨clear, ?_⟩
    rw [inOctets_encode, transmitted_inOctets]

/-- The octets of a packet with every bit set that means nothing. -/
def litteredOctets : Bytes :=
  [0x00, 0xff, 0x1a, 0x03, 0x2f, 0x20, 0xc5, 0xff, 0x00, 0x01, 0x0a, 0xff,
    0x12, 0x34, 0xff, 0xff] ++ List.replicate 44 0x5a ++ [0x07]

theorem emit_parsed_of_littered : ∃ h, parse litteredOctets = .ok (.ok h) ∧
    ∃ written, emit (List.replicate 60 0xee) h = .ok written ∧
      written.take size = [0x01, 0x00, 0x1a, 0x03, 0x20, 0x20, 0xc5, 0x80, 0x00, 0x01, 0x0a, 0x00,
        0x12, 0x34, 0x00, 0x00] ++ List.replicate 44 0x5a ∧
      parse (written.take size ++ [0x07]) = .ok (.ok h) := by
  have parsed : parse litteredOctets = .ok (.ok (inOctets litteredOctets)) :=
    parse_ok_iff.mpr ⟨by decide, rfl⟩
  have room : size ≤ (List.replicate 60 (0xee : UInt8)).length := by decide
  obtain ⟨written, emitted, -, front, -, again⟩ := emit_parsed parsed room
  refine ⟨_, parsed, written, emitted, front.trans (by decide), again [0x07] (by decide)⟩

end Headers
end GeoRouter
