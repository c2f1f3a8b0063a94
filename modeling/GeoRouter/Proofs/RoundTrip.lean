import GeoRouter.Proofs.Parsing

/-!
# Headers there and back

Headers that were written and are read again come back as `transmitted`: all of them as they were,
except that codes, the identifier of a traffic class and the speed of the source keep just the bits
that the octets have room for. The only objection to headers that were written is a remaining hop
limit above the maximum. Writing one field after the other comes to the same as writing all of them
at once.
-/

namespace GeoRouter

namespace Bytes

theorem number_behind (size n : Nat) (rest : Bytes) (start width : Nat) :
    number (BigEndian.encode size n ++ rest) (size + start) width = number rest start width := by
  have behind : (BigEndian.encode size n).length ≤ size + start := by
    rw [BigEndian.length_encode]
    omega
  rw [number_append_right width behind, BigEndian.length_encode, Nat.add_sub_cancel_left]

theorem number_written {size n : Nat} (bound : n < 1 <<< (8 * size)) (rest : Bytes) :
    number (BigEndian.encode size n ++ rest) 0 size = n := by
  rw [number_encode, Nat.mod_eq_of_lt bound]

/-- Data that is written where earlier data ends is appended to it. -/
theorem overwrite_next {b front data : Bytes} {start stop : Nat}
    (starts : front.length = start) (stops : start + data.length = stop) (room : stop ≤ b.length) :
    (front ++ b.drop start).overwrite start data = .ok (front ++ data ++ b.drop stop) := by
  have inside : start + data.length ≤ (front ++ b.drop start).length := by
    rw [List.length_append, List.length_drop]
    omega
  have behind : (front ++ b.drop start).drop (start + data.length) = b.drop stop := by
    rw [← stops, ← starts, List.drop_length_add_append, List.drop_drop]
  rw [overwrite_eq inside, splice, List.take_left' starts, behind]

end Bytes

namespace FixedHeader

theorem toNat_nibbles (high low : UInt8) :
    (nibbles high low).toNat = high.toNat % 16 * 16 + low.toNat % 16 := by
  have upper : (high <<< 4).toNat = high.toNat % 16 * 16 := by
    rw [UInt8.toNat_shiftLeft]
    simp [Nat.shiftLeft_eq]
    omega
  have lower : (low &&& 0x0f).toNat = low.toNat % 16 := by
    rw [UInt8.toNat_and]
    exact Nat.and_two_pow_sub_one_eq_mod low.toNat 4
  have apart := Nat.two_pow_add_eq_or_of_lt (i := 4) (Nat.mod_lt low.toNat (by decide))
    (high.toNat % 16)
  rw [nibbles, UInt8.toNat_or, upper, lower, Nat.mul_comm]
  exact apart.symm

theorem upper_nibbles (high low : UInt8) : upper (nibbles high low) = high % 16 := by
  apply UInt8.toNat_inj.mp
  rw [upper, UInt8.toNat_shiftRight, toNat_nibbles, UInt8.toNat_mod]
  simp [Nat.shiftRight_eq_div_pow]
  omega

theorem lower_nibbles (high low : UInt8) : lower (nibbles high low) = low % 16 := by
  have mask : (nibbles high low &&& 0x0f).toNat = (nibbles high low).toNat % 16 := by
    rw [UInt8.toNat_and]
    exact Nat.and_two_pow_sub_one_eq_mod _ 4
  apply UInt8.toNat_inj.mp
  rw [lower, mask, toNat_nibbles, UInt8.toNat_mod]
  simp

end FixedHeader

theorem TrafficClass.or_mask (a b mask : UInt8) : (a ||| b) &&& mask = a &&& mask ||| b &&& mask :=
  UInt8.toBitVec_inj.mp BitVec.and_or_distrib_right

theorem TrafficClass.ofCode_code (tc : TrafficClass) :
    ofCode tc.code = { tc with id := tc.id % 64 } := by
  obtain ⟨store, offload, id⟩ := tc
  have low : id &&& 0x3f = id % 64 := by
    apply UInt8.toNat_inj.mp
    rw [UInt8.toNat_and]
    exact Nat.and_two_pow_sub_one_eq_mod id.toNat 6
  -- The two flags and the identifier have no bit in common.
  have flags : (0x40 : UInt8) &&& 0x80 = 0 ∧ (0x80 : UInt8) &&& 0x40 = 0 ∧
      (0x40 : UInt8) &&& 0x3f = 0 ∧ (0x80 : UInt8) &&& 0x3f = 0 := by decide
  have first : id &&& 0x3f &&& 0x80 = 0 := by rw [UInt8.and_assoc]; exact UInt8.and_zero
  have second : id &&& 0x3f &&& 0x40 = 0 := by rw [UInt8.and_assoc]; exact UInt8.and_zero
  have third : id &&& 0x3f &&& 0x3f = id % 64 := by rw [UInt8.and_assoc]; exact low
  simp only [ofCode, code, or_mask, first, second, third]
  cases store <;> cases offload <;> simp [flags]

theorem Address.ofRaw_raw (address : Address) : ofRaw address.raw = address := by
  have manual : address.raw.msb = address.manual := by
    unfold raw
    rw [BitVec.msb_append, if_neg (by decide), BitVec.msb_append, if_neg (by decide),
      BitVec.msb_append, if_neg (by decide), BitVec.msb_ofBool]
  have station : address.raw.extractLsb' 58 5 = address.station := by
    unfold raw
    rw [BitVec.extractLsb'_append_eq_of_le (by decide),
      BitVec.extractLsb'_append_eq_of_le (by decide),
      BitVec.extractLsb'_append_eq_of_add_le (by decide), BitVec.extractLsb'_eq_self]
  have country : address.raw.extractLsb' 48 10 = address.country := by
    unfold raw
    rw [BitVec.extractLsb'_append_eq_of_le (by decide),
      BitVec.extractLsb'_append_eq_of_add_le (by decide), BitVec.extractLsb'_eq_self]
  have mid : address.raw.extractLsb' 0 48 = address.mid.val := BitVec.extractLsb'_append_eq_right
  rw [ofRaw, manual, station, country, mid]

theorem Coordinate.ofWord_toWord (x : Int32) : ofWord (toWord x) = x := by
  unfold ofWord toWord
  rw [BitVec.ofNat_toNat, BitVec.setWidth_eq, Int32.ofBitVec_toBitVec]

namespace ShortPositionVector

theorem inOctets_drop (b : Bytes) (skipped start : Nat) :
    inOctets (b.drop skipped) start = inOctets b (skipped + start) := by
  simp only [inOctets, Address.inOctets, Bytes.number_drop, Nat.add_assoc]

theorem inOctets_encode (v : ShortPositionVector) (rest : Bytes) :
    inOctets (v.encode ++ rest) 0 = v := by
  have address : Bytes.number (v.encode ++ rest) 0 8 = v.address.raw.toNat := by
    simp only [encode, Address.encode, List.append_assoc]
    exact Bytes.number_written v.address.raw.isLt _
  have timestamp : Bytes.number (v.encode ++ rest) 8 4 = v.timestamp.val.toNat := by
    simp only [encode, Address.encode, List.append_assoc]
    refine (Bytes.number_behind 8 _ _ 0 4).trans ?_
    exact Bytes.number_written v.timestamp.val.isLt _
  have latitude : Bytes.number (v.encode ++ rest) 12 4 = Coordinate.toWord v.latitude := by
    simp only [encode, Address.encode, List.append_assoc]
    refine (Bytes.number_behind 8 _ _ 4 4).trans ((Bytes.number_behind 4 _ _ 0 4).trans ?_)
    exact Bytes.number_written v.latitude.toBitVec.isLt _
  have longitude : Bytes.number (v.encode ++ rest) 16 4 = Coordinate.toWord v.longitude := by
    simp only [encode, Address.encode, List.append_assoc]
    refine (Bytes.number_behind 8 _ _ 8 4).trans ((Bytes.number_behind 4 _ _ 4 4).trans ?_)
    refine (Bytes.number_behind 4 _ _ 0 4).trans ?_
    exact Bytes.number_written v.longitude.toBitVec.isLt _
  have place : inOctets (v.encode ++ rest) 0 = {
      address := .ofRaw (BitVec.ofNat 64 v.address.raw.toNat)
      timestamp := ⟨BitVec.ofNat 32 v.timestamp.val.toNat⟩
      latitude := Coordinate.ofWord (Coordinate.toWord v.latitude)
      longitude := Coordinate.ofWord (Coordinate.toWord v.longitude) } := by
    rw [← address, ← timestamp, ← latitude, ← longitude]
    rfl
  rw [place, BitVec.ofNat_toNat, BitVec.setWidth_eq, Address.ofRaw_raw, BitVec.ofNat_toNat,
    BitVec.setWidth_eq, Coordinate.ofWord_toWord, Coordinate.ofWord_toWord]

theorem length_encode (v : ShortPositionVector) : v.encode.length = size := rfl

end ShortPositionVector

namespace LongPositionVector

theorem inOctets_drop (b : Bytes) (skipped start : Nat) :
    inOctets (b.drop skipped) start = inOctets b (skipped + start) := by
  simp only [inOctets, ShortPositionVector.inOctets_drop, Bytes.number_drop, Nat.add_assoc]

theorem inOctets_encode (v : LongPositionVector) (rest : Bytes) :
    inOctets (v.encode ++ rest) 0 = { v with speed := v.speed % 0x8000 } := by
  have movement : Bytes.number (v.encode ++ rest) 20 2 =
      (if v.accurate then 0x8000 else 0) + v.speed.toNat % 0x8000 := by
    simp only [encode, List.append_assoc]
    refine (Bytes.number_append_right 2 (Nat.le_refl _)).trans (Bytes.number_written ?_ _)
    show _ < 0x10000
    split <;> omega
  have heading : Bytes.number (v.encode ++ rest) 22 2 = v.heading.toNat := by
    simp only [encode, List.append_assoc]
    have behind : v.toShortPositionVector.encode.length ≤ 22 := by
      rw [ShortPositionVector.length_encode]
      decide
    refine (Bytes.number_append_right 2 behind).trans ((Bytes.number_behind 2 _ _ 0 2).trans ?_)
    exact Bytes.number_written v.heading.toNat_lt _
  have short : ShortPositionVector.inOctets (v.encode ++ rest) 0 = v.toShortPositionVector := by
    simp only [encode, List.append_assoc]
    exact v.toShortPositionVector.inOctets_encode _
  have speed : UInt16.ofNat (v.speed.toNat % 0x8000) = v.speed % 0x8000 := by
    apply UInt16.toNat_inj.mp
    rw [UInt16.toNat_mod, UInt16.toNat_ofNat']
    simp
    omega
  have flag : decide (((if v.accurate then 0x8000 else 0) + v.speed.toNat % 0x8000) / 0x8000 ≠ 0)
      = v.accurate := by
    split
    · rename_i accurate
      rw [accurate]
      exact decide_eq_true (by omega)
    · rename_i rough
      rw [Bool.eq_false_iff.mpr rough]
      refine decide_eq_false ?_
      omega
  have below : ((if v.accurate then 0x8000 else 0) + v.speed.toNat % 0x8000) % 0x8000 =
      v.speed.toNat % 0x8000 := by
    split <;> omega
  unfold inOctets
  rw [short, Nat.zero_add, Nat.zero_add, movement, heading, flag, below, speed,
    UInt16.ofNat_toNat]

end LongPositionVector

namespace GeoUnicast

def transmitted (header : GeoUnicast) : GeoUnicast :=
  { header with source.speed := header.source.speed % 0x8000 }

theorem inOctets_encode (header : GeoUnicast) (rest : Bytes) :
    inOctets (header.encode ++ rest) = header.transmitted := by
  have sequence : Bytes.number (header.encode ++ rest) sequenceOffset 2 =
      header.sequence.val.toNat := by
    simp only [encode, List.append_assoc]
    exact Bytes.number_written header.sequence.val.isLt _
  have source : LongPositionVector.inOctets (header.encode ++ rest) sourceOffset =
      { header.source with speed := header.source.speed % 0x8000 } := by
    have place : (header.encode ++ rest).drop sourceOffset =
        header.source.encode ++ (header.destination.encode ++ rest) := by
      simp only [encode, List.append_assoc]
      rfl
    rw [← Nat.add_zero sourceOffset, ← LongPositionVector.inOctets_drop, place]
    exact header.source.inOctets_encode _
  have destination : ShortPositionVector.inOctets (header.encode ++ rest) destinationOffset =
      header.destination := by
    have place : (header.encode ++ rest).drop destinationOffset =
        header.destination.encode ++ rest := by
      simp only [encode, List.append_assoc]
      rfl
    rw [← Nat.add_zero destinationOffset, ← ShortPositionVector.inOctets_drop, place]
    exact header.destination.inOctets_encode _
  rw [inOctets, sequence, source, destination, BitVec.ofNat_toNat, BitVec.setWidth_eq]
  rfl

end GeoUnicast

namespace FixedHeader

theorem length_encode (header : FixedHeader) : header.encode.length = size := rfl

/-- The header as it arrives: codes have four bits, the identifier of a traffic class has six. -/
def transmitted (header : FixedHeader) : FixedHeader :=
  { header with
    version := header.version % 16
    basicNext := .ofCode (header.basicNext.code % 16)
    next := .ofCode (header.next.code % 16)
    type := header.type % 16
    subtype := header.subtype % 16
    trafficClass.id := header.trafficClass.id % 64 }

theorem inOctets_encode (header : FixedHeader) (rest : Bytes) :
    inOctets (header.encode ++ rest) = header.transmitted := by
  have bound : header.payloadLength.toNat < 1 <<< (8 * 2) := header.payloadLength.toNat_lt
  have length : Bytes.number (header.encode ++ rest) 8 2 = header.payloadLength.toNat :=
    Bytes.number_written bound (header.maxHops :: 0 :: rest)
  have mobile : decide (mobileOctet header.mobile &&& 0x80 ≠ 0) = header.mobile := by
    cases header.mobile <;> rfl
  have places : inOctets (header.encode ++ rest) = {
      version := upper (nibbles header.version header.basicNext.code)
      basicNext := .ofCode (lower (nibbles header.version header.basicNext.code))
      lifetime := header.lifetime
      remainingHops := header.remainingHops
      next := .ofCode (upper (nibbles header.next.code 0))
      type := upper (nibbles header.type header.subtype)
      subtype := lower (nibbles header.type header.subtype)
      trafficClass := .ofCode header.trafficClass.code
      mobile := mobileOctet header.mobile &&& 0x80 ≠ 0
      payloadLength := UInt16.ofNat header.payloadLength.toNat
      maxHops := header.maxHops } := by
    rw [← length]
    rfl
  rw [places, upper_nibbles, lower_nibbles, upper_nibbles, upper_nibbles, lower_nibbles,
    TrafficClass.ofCode_code, mobile, UInt16.ofNat_toNat]
  rfl

end FixedHeader

namespace Headers

theorem length_encode (h : Headers) : h.encode.length = size := rfl

def transmitted (h : Headers) : Headers :=
  { h with
    next := .ofCode (h.next.code % 16)
    trafficClass.id := h.trafficClass.id % 64
    extended := h.extended.transmitted }

theorem fixed_encode (h : Headers) (rest : Bytes) :
    FixedHeader.inOctets (h.encode ++ rest) = h.fixed.transmitted := by
  rw [encode, List.append_assoc]
  exact h.fixed.inOctets_encode _

theorem registered_encode (h : Headers) (rest : Bytes) :
    (FixedHeader.inOctets (h.encode ++ rest)).kind? = some .geoUnicast := by
  rw [fixed_encode]
  rfl

theorem inOctets_encode (h : Headers) (rest : Bytes) :
    inOctets (h.encode ++ rest) = h.transmitted := by
  have extended : (h.encode ++ rest).drop FixedHeader.size = h.extended.encode ++ rest := by
    rw [encode, List.append_assoc]
    exact List.drop_left' h.fixed.length_encode
  rw [inOctets_eq, extended, h.extended.inOctets_encode, fixed_encode]
  rfl

/-- Headers that were written with their payload behind them are refused for their hops alone. -/
theorem objection?_encode (h : Headers) {rest : Bytes}
    (enough : h.payloadLength.toNat ≤ rest.length) :
    objection? (h.encode ++ rest) =
      if h.maxHops < h.remainingHops then some .malformed else none := by
  have length : (h.encode ++ rest).length = size + rest.length := by
    rw [List.length_append, length_encode]
  have kind : h.fixed.transmitted.kind? = some .geoUnicast := rfl
  have long : ¬ size + rest.length < FixedHeader.size := by
    rw [size]
    omega
  have whole : ¬ size + rest.length < size + h.fixed.transmitted.payloadLength.toNat := by
    have same : h.fixed.transmitted.payloadLength = h.payloadLength := rfl
    rw [same]
    omega
  have hops : refusal? h.fixed.transmitted =
      if h.maxHops < h.remainingHops then some .malformed else none := rfl
  simp only [objection?, fixed_encode, length, if_neg long, kind, if_neg whole, hops]

end Headers

/-! ### Writing field by field -/

namespace GeoUnicast

def emitFields (b : Bytes) (header : GeoUnicast) : Except Fault Bytes := do
  let b ← setSequence b header.sequence
  let b ← clearReserved b
  let b ← setSource b header.source
  setDestination b header.destination

theorem emitFields_eq {b : Bytes} (room : size ≤ b.length) (header : GeoUnicast) :
    emitFields b header = .ok (header.encode ++ b.drop size) := by
  have within {n : Nat} (inside : n ≤ size) : n ≤ b.length := Nat.le_trans inside room
  -- What stands in front of each field once it is its turn.
  let front₁ := BigEndian.encode 2 header.sequence.val.toNat
  let front₂ := front₁ ++ [0, 0]
  let front₃ := front₂ ++ header.source.encode
  have sequence : setSequence b header.sequence = .ok (front₁ ++ b.drop 2) :=
    @Bytes.overwrite_next b [] _ 0 2 rfl rfl (within (by decide))
  have reserved : clearReserved (front₁ ++ b.drop 2) = .ok (front₂ ++ b.drop 4) :=
    Bytes.overwrite_next rfl rfl (within (by decide))
  have source : setSource (front₂ ++ b.drop 4) header.source = .ok (front₃ ++ b.drop 28) :=
    Bytes.overwrite_next rfl rfl (within (by decide))
  have destination : setDestination (front₃ ++ b.drop 28) header.destination =
      .ok (header.encode ++ b.drop size) :=
    Bytes.overwrite_next rfl rfl room
  simp only [emitFields, bind, Except.bind, sequence, reserved, source, destination]

end GeoUnicast

namespace FixedHeader

def emitFields (b : Bytes) (header : FixedHeader) : Except Fault Bytes := do
  let b ← setVersion b header.version header.basicNext
  let b ← setLifetime b header.lifetime
  let b ← setRemainingHops b header.remainingHops
  let b ← setNext b header.next
  let b ← setType b header.type header.subtype
  let b ← setTrafficClass b header.trafficClass
  let b ← setMobile b header.mobile
  let b ← setPayloadLength b header.payloadLength
  setMaxHops b header.maxHops

theorem emitFields_eq {b : Bytes} (room : size ≤ b.length) (header : FixedHeader) :
    emitFields b header = .ok (header.encode ++ b.drop size) := by
  have within {n : Nat} (inside : n ≤ size) : n ≤ b.length := Nat.le_trans inside room
  -- What stands in front of each field once it is its turn.
  let front₁ := [nibbles header.version header.basicNext.code, 0]
  let front₂ := front₁ ++ [header.lifetime.code]
  let front₃ := front₂ ++ [header.remainingHops]
  let front₄ := front₃ ++ [nibbles header.next.code 0]
  let front₅ := front₄ ++ [nibbles header.type header.subtype]
  let front₆ := front₅ ++ [header.trafficClass.code]
  let front₇ := front₆ ++ [mobileOctet header.mobile]
  let front₈ := front₇ ++ BigEndian.encode 2 header.payloadLength.toNat
  have version : setVersion b header.version header.basicNext = .ok (front₁ ++ b.drop 2) :=
    @Bytes.overwrite_next b [] _ 0 2 rfl rfl (within (by decide))
  have lifetime : setLifetime (front₁ ++ b.drop 2) header.lifetime = .ok (front₂ ++ b.drop 3) :=
    Bytes.overwrite_next rfl rfl (within (by decide))
  have remaining : setRemainingHops (front₂ ++ b.drop 3) header.remainingHops =
      .ok (front₃ ++ b.drop 4) :=
    Bytes.overwrite_next rfl rfl (within (by decide))
  have next : setNext (front₃ ++ b.drop 4) header.next = .ok (front₄ ++ b.drop 5) :=
    Bytes.overwrite_next rfl rfl (within (by decide))
  have type : setType (front₄ ++ b.drop 5) header.type header.subtype =
      .ok (front₅ ++ b.drop 6) :=
    Bytes.overwrite_next rfl rfl (within (by decide))
  have traffic : setTrafficClass (front₅ ++ b.drop 6) header.trafficClass =
      .ok (front₆ ++ b.drop 7) :=
    Bytes.overwrite_next rfl rfl (within (by decide))
  have mobile : setMobile (front₆ ++ b.drop 7) header.mobile = .ok (front₇ ++ b.drop 8) :=
    Bytes.overwrite_next rfl rfl (within (by decide))
  have length : setPayloadLength (front₇ ++ b.drop 8) header.payloadLength =
      .ok (front₈ ++ b.drop 10) :=
    Bytes.overwrite_next rfl rfl (within (by decide))
  have maximum : setMaxHops (front₈ ++ b.drop 10) header.maxHops =
      .ok (header.encode ++ b.drop size) :=
    Bytes.overwrite_next rfl rfl room
  simp only [emitFields, bind, Except.bind, version, lifetime, remaining, next, type, traffic,
    mobile, length, maximum]

end FixedHeader

namespace Headers

def emitFields (b : Bytes) (h : Headers) : Except Fault Bytes := do
  let b ← h.fixed.emitFields b
  let extended ← h.extended.emitFields (← b.suffix FixedHeader.size)
  b.overwrite FixedHeader.size extended

theorem emitFields_eq {b : Bytes} (room : size ≤ b.length) (h : Headers) :
    emitFields b h = .ok (h.encode ++ b.drop size) := by
  have fits : FixedHeader.size + GeoUnicast.size ≤ b.length := room
  have fixed := FixedHeader.emitFields_eq (Nat.le_trans (Nat.le_add_right ..) fits) h.fixed
  have behind : (h.fixed.encode ++ b.drop FixedHeader.size).suffix FixedHeader.size =
      .ok (b.drop FixedHeader.size) := by
    have inside : FixedHeader.size ≤ (h.fixed.encode ++ b.drop FixedHeader.size).length := by
      rw [List.length_append, h.fixed.length_encode]
      omega
    rw [Bytes.suffix_eq inside, List.drop_left' h.fixed.length_encode]
  have extended := GeoUnicast.emitFields_eq (b := b.drop FixedHeader.size)
    (by rw [List.length_drop]; omega) h.extended
  rw [List.drop_drop] at extended
  have stops : FixedHeader.size + (h.extended.encode ++ b.drop size).length = b.length := by
    have width : h.extended.encode.length = GeoUnicast.size := rfl
    rw [List.length_append, List.length_drop, width, size]
    omega
  have together := Bytes.overwrite_next h.fixed.length_encode stops (Nat.le_refl _)
  rw [List.drop_length, List.append_nil, ← List.append_assoc] at together
  simp only [emitFields, bind, Except.bind, fixed, behind, extended]
  exact together

theorem emit_eq {b : Bytes} (room : size ≤ b.length) (h : Headers) :
    emit b h = .ok (h.encode ++ b.drop size) := by
  have inside : 0 + h.encode.length ≤ b.length := by
    rw [length_encode, Nat.zero_add]
    exact room
  unfold emit
  rw [Bytes.overwrite_eq inside, Bytes.splice_zero, length_encode]

/-- Headers that are written over the front of octets, all at once or field by field, leave those
behind the headers alone. They are refused if more hops are left than there were, and otherwise read
as they were written, addresses with all their bits, but for codes, identifier and speed, which are
cut to the bits that are transmitted. -/
theorem parse_emitted (h : Headers) {b : Bytes} (room : h.totalLength ≤ b.length) :
    ∃ written, emit b h = .ok written ∧ emitFields b h = .ok written ∧
      written.length = b.length ∧ written.drop size = b.drop size ∧
      parse written = .ok (if h.maxHops < h.remainingHops then .error .malformed else .ok { h with
        next := .ofCode (h.next.code % 16)
        trafficClass.id := h.trafficClass.id % 64
        extended.source.speed := h.extended.source.speed % 0x8000 }) := by
  have front : size ≤ b.length := Nat.le_trans (Nat.le_add_right ..) room
  have enough : h.payloadLength.toNat ≤ (b.drop size).length := by
    rw [totalLength] at room
    rw [List.length_drop]
    omega
  refine ⟨_, emit_eq front h, emitFields_eq front h, ?_, ?_, ?_⟩
  · rw [List.length_append, length_encode, List.length_drop]
    omega
  · exact List.drop_left' h.length_encode
  · rw [parse_eq, objection?_encode h enough, inOctets_encode]
    by_cases exceeds : h.maxHops < h.remainingHops
    · rw [if_pos exceeds, if_pos exceeds]
    · rw [if_neg exceeds, if_neg exceeds]
      rfl

/-- Headers with a next header, an identifier and a speed that their places have no room for. -/
def wideHeaders : Headers where
  lifetime := ⟨0xff⟩
  remainingHops := 3
  next := .unknown 0xf1
  trafficClass := ⟨true, false, 0xff⟩
  mobile := true
  payloadLength := 2
  maxHops := 3
  extended := {
    sequence := ⟨0xffff⟩
    source := {
      address := .ofRaw 0xfedcba9876543210
      timestamp := ⟨0x89abcdef⟩
      latitude := -1
      accurate := true
      speed := 0xffff
      heading := 3600 }
    destination := { address := .ofRaw 0x0123456789abcdef, longitude := -2 } }

theorem parse_emitted_of_wide : wideHeaders.totalLength ≤ 63 ∧
    ∃ written, emit (List.replicate 63 0xa5) wideHeaders = .ok written ∧
      written.drop size = [0xa5, 0xa5, 0xa5] ∧
      parse written = .ok (.ok { wideHeaders with
        next := .btpA
        trafficClass.id := 63
        extended.source.speed := 0x7fff }) := by
  have room : wideHeaders.totalLength ≤ (List.replicate 63 (0xa5 : UInt8)).length := by decide
  obtain ⟨written, emitted, -, -, behind, parsed⟩ := parse_emitted wideHeaders room
  refine ⟨by decide, written, emitted, behind.trans (by decide), parsed.trans ?_⟩
  rw [if_neg (by decide)]
  rfl

end Headers
end GeoRouter
