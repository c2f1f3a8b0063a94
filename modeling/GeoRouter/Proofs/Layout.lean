import GeoRouter.Proofs.Bindings

/-!
# The sixty-four bits of an address

The fields of an address lie side by side in a word, each in a place of its own, so that the word
has the fields and the fields have the word. `word` shifts them there one by one. Of the bits that
are not those of the identifier none counts for what an address is equal to, comes before or hashes
to.
-/

namespace GeoRouter

theorem StationType.code_ofCode (octet : UInt8) : (ofCode octet).code = octet := by
  unfold ofCode
  split
  all_goals first
    | rfl
    | (rename_i same; exact UInt8.toNat_inj.mp same.symm)

namespace Address

/-- The word with the fields at their places, from as many bits of the codes as there is room
for. -/
def word (manual : Bool) (station : UInt8) (country : UInt16) (mid : Mid) : BitVec 64 :=
  BitVec.ofNat 64 manual.toNat <<< 63 ||| (BitVec.ofNat 64 station.toNat &&& 0x1f) <<< 58 |||
    (BitVec.ofNat 64 country.toNat &&& 0x3ff) <<< 48 ||| BitVec.ofNat 64 mid.toNat

/-! ### The fields -/

theorem toNat_shifted {x place : Nat} (inside : x <<< place < 1 <<< 64) :
    (BitVec.ofNat 64 x <<< place).toNat = x <<< place := by
  have small : x < 1 <<< 64 := by
    rw [Nat.shiftLeft_eq] at inside
    exact Nat.lt_of_le_of_lt (Nat.le_mul_of_pos_right x (Nat.two_pow_pos place)) inside
  have kept : (BitVec.ofNat 64 x).toNat = x := Nat.mod_eq_of_lt small
  rw [BitVec.toNat_shiftLeft, kept]
  exact Nat.mod_eq_of_lt inside

/-- Masking a word keeps its lowest bits. -/
theorem and_mask (x bits : Nat) (narrow : bits ≤ 64) :
    BitVec.ofNat 64 x &&& BitVec.ofNat 64 (1 <<< bits - 1) = BitVec.ofNat 64 (x % 1 <<< bits) := by
  have power : 1 <<< bits = 2 ^ bits := Nat.one_shiftLeft bits
  have room : 2 ^ bits ≤ 2 ^ 64 := Nat.pow_le_pow_right (by decide) narrow
  have positive : 0 < 2 ^ bits := Nat.two_pow_pos bits
  have mask : (2 ^ bits - 1) % 2 ^ 64 = 2 ^ bits - 1 := Nat.mod_eq_of_lt (by omega)
  have small : x % 2 ^ bits % 2 ^ 64 = x % 2 ^ bits :=
    Nat.mod_eq_of_lt (Nat.lt_of_lt_of_le (Nat.mod_lt x positive) room)
  apply BitVec.eq_of_toNat_eq
  rw [power, BitVec.toNat_and, BitVec.toNat_ofNat, BitVec.toNat_ofNat, BitVec.toNat_ofNat, mask,
    small, Nat.and_two_pow_sub_one_eq_mod]
  exact Nat.mod_mod_of_dvd x (Nat.pow_dvd_pow 2 narrow)

theorem raw_pack (manual : Bool) (type : StationType) (country : UInt16) (mid : Mid) :
    (pack manual type country mid).raw = word manual type.code country mid := by
  have flag : manual.toNat <<< 63 < 1 <<< 64 := by cases manual <;> decide
  have station : (type.code.toNat % 32) <<< 58 < 1 <<< 64 := by
    rw [Nat.shiftLeft_eq]
    omega
  have land : (country.toNat % 1024) <<< 48 < 1 <<< 64 := by
    rw [Nat.shiftLeft_eq]
    omega
  have stationMask : BitVec.ofNat 64 type.code.toNat &&& 0x1f =
      BitVec.ofNat 64 (type.code.toNat % 32) := and_mask _ 5 (by decide)
  have landMask : BitVec.ofNat 64 country.toNat &&& 0x3ff =
      BitVec.ofNat 64 (country.toNat % 1024) := and_mask _ 10 (by decide)
  have own : (BitVec.ofNat 64 mid.toNat).toNat = mid.toNat :=
    Nat.mod_eq_of_lt (Nat.lt_trans mid.val.isLt (by decide))
  apply BitVec.eq_of_toNat_eq
  rw [word, stationMask, landMask, BitVec.toNat_or, BitVec.toNat_or, BitVec.toNat_or,
    toNat_shifted flag, toNat_shifted station, toNat_shifted land, own]
  unfold raw pack
  rw [BitVec.toNat_append, BitVec.toNat_append, BitVec.toNat_append, BitVec.toNat_ofBool,
    Nat.shiftLeft_or_distrib, Nat.shiftLeft_or_distrib, Nat.shiftLeft_or_distrib]
  simp only [← Nat.shiftLeft_add]
  rfl

theorem stationType_pack (manual : Bool) (type : StationType) (country : UInt16) (mid : Mid) :
    (pack manual type country mid).stationType = .ofCode (type.code % 32) := by
  have code : UInt8.ofNat (BitVec.ofNat 5 type.code.toNat).toNat = type.code % 32 := by
    apply UInt8.toNat_inj.mp
    rw [BitVec.toNat_ofNat, UInt8.toNat_ofNat', UInt8.toNat_mod]
    exact Nat.mod_eq_of_lt (by omega)
  exact congrArg StationType.ofCode code

theorem pack_fields (address : Address) : pack address.manual address.stationType
    (UInt16.ofNat address.country.toNat) address.mid = address := by
  obtain ⟨manual, station, country, mid⟩ := address
  have type : BitVec.ofNat 5 (StationType.ofCode (UInt8.ofNat station.toNat)).code.toNat =
      station := by
    have small := station.isLt
    apply BitVec.eq_of_toNat_eq
    rw [StationType.code_ofCode, UInt8.toNat_ofNat', BitVec.toNat_ofNat]
    omega
  have code : BitVec.ofNat 10 (UInt16.ofNat country.toNat).toNat = country := by
    have small := country.isLt
    apply BitVec.eq_of_toNat_eq
    rw [UInt16.toNat_ofNat', BitVec.toNat_ofNat]
    omega
  unfold pack stationType
  rw [type, code]

/-! ### The octets -/

/-- What was written over octets with room for an address is read back from there. -/
theorem read_overwritten (address : Address) (octets : Bytes) (start : Nat) :
    match octets.overwrite start address.encode with
    | .ok written => written.length = octets.length ∧ read written start = .ok address
    | .error _ => octets.length < start + size := by
  have width : address.encode.length = size := BigEndian.length_encode ..
  by_cases room : start + size ≤ octets.length
  · rw [← width] at room
    have same := Bytes.length_splice room
    have kept : (octets.splice start address.encode).number start size = address.raw.toNat := by
      have front : (octets.take start).length = start := List.length_take_of_le (by omega)
      rw [Bytes.splice, List.append_assoc, Bytes.number_append_right _ (Nat.le_of_eq front), front,
        Nat.sub_self]
      exact Bytes.number_written address.raw.isLt _
    rw [Bytes.overwrite_eq room]
    refine ⟨same, ?_⟩
    rw [read_eq (by rw [same, ← width]; exact room), inOctets, kept, BitVec.ofNat_toNat,
      BitVec.setWidth_eq, ofRaw_raw]
  · have cramped : ¬ start + address.encode.length ≤ octets.length := by rwa [width]
    simp only [Bytes.overwrite, if_neg cramped]
    exact Nat.not_le.mp room

/-! ### The identifier -/

theorem getLsbD_withMid (address : Address) (mid : Mid) (i : Nat) :
    (address.withMid mid).raw.getLsbD i =
      if i < 48 then mid.val.getLsbD i else address.raw.getLsbD i := by
  rw [raw_withMid, BitVec.getLsbD_append]
  by_cases low : i < 48
  · rw [if_pos low, if_pos low]
  · have place : 48 + (i - 48) = i := by omega
    rw [if_neg low, if_neg low, upper, BitVec.getLsbD_extractLsb', place]
    by_cases inside : i - 48 < 16
    · rw [decide_eq_true inside, Bool.true_and]
    · rw [decide_eq_false inside, Bool.false_and, BitVec.getLsbD_of_ge _ _ (by omega)]

theorem mid_ofRaw (upper : BitVec 16) (mid : Mid) : (ofRaw (upper ++ mid.val)).mid = mid :=
  congrArg Mid.mk BitVec.extractLsb'_append_eq_right

/-- The fields of an address and its sixty-four bits determine each other, on their own and in the
octets of a packet; another identifier takes the place of the old one and leaves the other bits;
identifiers are the Ethernet addresses; and addresses are the same station, come before each other
and hash as their identifiers do, whatever the other bits are. -/
theorem layout_is_bijective :
    (∀ manual type country mid, let address := pack manual type country mid
      address.raw = word manual type.code country mid ∧
        ofRaw (word manual type.code country mid) = address ∧ address.manual = manual ∧
        address.stationType = .ofCode (type.code % 32) ∧
        address.country.toNat = country.toNat % 1024 ∧ address.mid = mid) ∧
    (∀ bits, let address := ofRaw bits
      address.raw = bits ∧
        pack address.manual address.stationType (UInt16.ofNat address.country.toNat) address.mid =
          address ∧
        ∀ (octets : Bytes) start, match octets.overwrite start address.encode with
          | .ok written => written.length = octets.length ∧ read written start = .ok address
          | .error _ => octets.length < start + 8) ∧
    (∀ bits mid i, ((ofRaw bits).withMid mid).raw.getLsbD i =
      if i < 48 then mid.val.getLsbD i else bits.getLsbD i) ∧
    ((∀ mac, (Mid.ofMac mac).mac = mac) ∧ ∀ mid, Mid.ofMac mid.mac = mid) ∧
    (∀ (upper other : BitVec 16) (mid theirs : Mid),
      let address := ofRaw (upper ++ mid.val)
      let stranger := ofRaw (other ++ theirs.val)
      (address == stranger) = (mid == theirs) ∧
        compare address stranger = compare mid theirs ∧ hash address = hash mid) := by
  refine ⟨?packed, ?unpacked, ?moved, ⟨Mid.mac_ofMac, Mid.ofMac_mac⟩, ?identified⟩
  case packed =>
    intro manual type country mid
    have raw := raw_pack manual type country mid
    have unpacked := ofRaw_raw (pack manual type country mid)
    rw [raw] at unpacked
    exact ⟨raw, unpacked, rfl, stationType_pack manual type country mid, rfl, rfl⟩
  case unpacked =>
    intro bits address
    exact ⟨raw_ofRaw bits, pack_fields address, read_overwritten address⟩
  case moved =>
    intro bits mid i
    rw [getLsbD_withMid, raw_ofRaw]
  case identified =>
    intro upper other mid theirs address stranger
    have own : address.mid = mid := mid_ofRaw upper mid
    have foreign : stranger.mid = theirs := mid_ofRaw other theirs
    rw [← own, ← foreign]
    exact ⟨rfl, rfl, rfl⟩

end Address
end GeoRouter
