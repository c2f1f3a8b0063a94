import GeoRouter.Packet.Basic
import GeoRouter.Proofs.Carriers
import GeoRouter.Proofs.Language

/-!
# Remembered headers

A packet has its headers twice, in its octets and as they were read. `Memo` is what keeps the two
together: every way to change a packet changes both or neither, so whatever is done to a packet, its
headers are those that would be read again, its payload is there, and of the octets in front of the
payload none has changed but the hop limit and the payload length.
-/

namespace GeoRouter

namespace Bytes

variable {b : Bytes} {n : Nat}

theorem take_splice {data : Bytes} {start : Nat} (inside : start + data.length ≤ b.length)
    (before : n ≤ start) : (b.splice start data).take n = b.take n := by
  have width : n ≤ (b.take start).length := by
    rw [List.length_take]
    omega
  rw [splice, List.append_assoc, List.take_append_of_le_length width, List.take_take,
    Nat.min_eq_left before]

theorem take_resize {length : Nat} (kept : n ≤ length) (there : n ≤ b.length) :
    (b.resize length).take n = b.take n := by
  have width : n ≤ (b.take length).length := by
    rw [List.length_take]
    omega
  rw [resize, List.take_append_of_le_length width, List.take_take, Nat.min_eq_left kept]

end Bytes

/-! ### Headers and the octets they were read from -/

theorem Headers.inOctets_drop_congr {b c : Bytes} {front : Nat}
    (same : b.take (front + size) = c.take (front + size)) :
    inOctets (b.drop front) = inOctets (c.drop front) := by
  have parts (d : Bytes) :
      inOctets (d.drop front) = inOctets ((d.take (front + size)).drop front) := by
    rw [List.drop_take, Nat.add_sub_cancel_left, inOctets_take (Nat.le_refl _)]
  rw [parts b, parts c, same]

section PayloadLength

variable {b : Bytes} (long : 10 ≤ b.length) (length : UInt16)
include long

theorem FixedHeader.inOctets_splice_length :
    inOctets (b.splice 8 (BigEndian.encode 2 length.toNat)) =
      { inOctets b with payloadLength := length } := by
  have inside : 8 + (BigEndian.encode 2 length.toNat).length ≤ b.length := long
  have other (i : Nat) (apart : i < 8 ∨ 10 ≤ i) :
      (b.splice 8 (BigEndian.encode 2 length.toNat)).octetAt i = b.octetAt i :=
    congrArg (·.getD 0) (Bytes.getElem?_splice_outside inside apart)
  have number : (b.splice 8 (BigEndian.encode 2 length.toNat)).number 8 2 = length.toNat := by
    have behind : (b.splice (8 + 0) (BigEndian.encode 2 length.toNat)).drop 8 =
        Bytes.splice (b.drop 8) 0 (BigEndian.encode 2 length.toNat) :=
      Bytes.drop_splice_behind 0 (Nat.le_trans (by decide : 8 ≤ 10) long)
    rw [← Nat.add_zero 8, ← Bytes.number_drop, behind, Bytes.splice_zero, Bytes.number_encode]
    exact Nat.mod_eq_of_lt length.toNat_lt
  simp only [inOctets, other 0 (by decide), other 2 (by decide), other 3 (by decide),
    other 4 (by decide), other 5 (by decide), other 6 (by decide), other 7 (by decide), number,
    UInt16.ofNat_toNat, other 10 (by decide)]

theorem Headers.inOctets_splice_length :
    inOctets (b.splice 8 (BigEndian.encode 2 length.toNat)) =
      { inOctets b with payloadLength := length } := by
  have fixed := FixedHeader.inOctets_splice_length long length
  have extended : (b.splice 8 (BigEndian.encode 2 length.toNat)).drop FixedHeader.size =
      b.drop FixedHeader.size :=
    Bytes.drop_splice long (by decide : 10 ≤ 12)
  rw [inOctets_eq, fixed, extended]
  rfl

end PayloadLength

/-- The headers are what is read from the octets now, field by field. -/
structure Headers.ReadFrom (h : Headers) (b : Bytes) : Prop where
  fixed : ∃ fixed, FixedHeader.read b = .ok fixed ∧ fixed.kind? = some h.kind ∧
    h.lifetime = fixed.lifetime ∧ h.remainingHops = fixed.remainingHops ∧ h.next = fixed.next ∧
    h.trafficClass = fixed.trafficClass ∧ h.mobile = fixed.mobile ∧
    h.payloadLength = fixed.payloadLength ∧ h.maxHops = fixed.maxHops
  extended : ∃ behind, b.suffix FixedHeader.size = .ok behind ∧
    GeoUnicast.read behind = .ok h.extended

/-- Headers that were read behind `front` octets of `origin`, and the octets as they are now. -/
structure Memo (front : Nat) (origin now : Bytes) (h : Headers) : Prop where
  read : h = Headers.inOctets (now.drop front)
  room : front + Headers.size + h.payloadLength.toNat ≤ now.length
  kept : ∀ i < front + Headers.size, i ≠ front + 3 → i ≠ front + 8 → i ≠ front + 9 →
    now[i]? = origin[i]?

namespace Memo

variable {front : Nat} {origin now later : Bytes} {h : Headers}

theorem of_parsed (clear : Headers.objection? (origin.drop front) = none) :
    Memo front origin origin (Headers.inOctets (origin.drop front)) where
  read := rfl
  room := by
    obtain ⟨enough, -, -⟩ := Headers.of_objection?_none clear
    rw [List.length_drop] at enough
    have positive : 0 < Headers.size := by decide
    omega
  kept _ _ _ _ _ := rfl

/-- What happens behind the headers is nothing to them, as long as the payload stays there. -/
theorem of_take_eq (memo : Memo front origin now h)
    (same : later.take (front + Headers.size) = now.take (front + Headers.size))
    (room : front + Headers.size + h.payloadLength.toNat ≤ later.length) :
    Memo front origin later h where
  read := by
    rw [Headers.inOctets_drop_congr same]
    exact memo.read
  room := room
  kept i inside hops high low := by
    rw [← memo.kept i inside hops high low, ← List.getElem?_take_of_lt inside, same,
      List.getElem?_take_of_lt inside]

theorem setRemainingHops (memo : Memo front origin now h) (hops : UInt8) :
    Memo front origin (now.splice (front + 3) [hops]) { h with remainingHops := hops } where
  read := by
    have room := memo.room
    simp only [Headers.size, FixedHeader.size] at room
    rw [Bytes.drop_splice_behind 3 (by omega),
      Headers.inOctets_splice (by rw [List.length_drop]; omega) hops, ← memo.read]
  room := by
    have room := memo.room
    rw [Bytes.length_splice]
    · exact room
    · simp only [Headers.size, FixedHeader.size, List.length_singleton] at room ⊢
      omega
  kept i inside hops high low := by
    have room := memo.room
    simp only [Headers.size, FixedHeader.size] at room
    rw [← memo.kept i inside hops high low]
    apply Bytes.getElem?_splice_outside <;> simp only [List.length_singleton] <;> omega

theorem setPayloadLength (memo : Memo front origin now h) (length : UInt16)
    (same : later.take (front + Headers.size) = now.take (front + Headers.size))
    (room : front + Headers.size + length.toNat ≤ later.length) :
    Memo front origin (later.splice (front + 8) (BigEndian.encode 2 length.toNat))
      { h with payloadLength := length } := by
  have behind : front + 8 + (BigEndian.encode 2 length.toNat).length ≤ later.length := by
    simp only [Headers.size, FixedHeader.size, BigEndian.length_encode] at room ⊢
    omega
  simp only [BigEndian.length_encode] at behind
  refine ⟨?_, ?_, ?_⟩
  · rw [Bytes.drop_splice_behind 8 (by omega),
      Headers.inOctets_splice_length (by rw [List.length_drop]; omega) length,
      Headers.inOctets_drop_congr same, ← memo.read]
  · rw [Bytes.length_splice behind]
    exact room
  · intro i inside hops high low
    have before : later[i]? = now[i]? := by
      rw [← List.getElem?_take_of_lt inside, same, List.getElem?_take_of_lt inside]
    rw [← memo.kept i inside hops high low, ← before]
    exact Bytes.getElem?_splice_outside behind (by rw [BigEndian.length_encode]; omega)

theorem octetAt_eq (memo : Memo front origin now h) {i : Nat} (inside : i < Headers.size)
    (hops : i ≠ 3) (high : i ≠ 8) (low : i ≠ 9) :
    Bytes.octetAt (now.drop front) i = Bytes.octetAt (origin.drop front) i := by
  unfold Bytes.octetAt
  rw [List.getD_eq_getElem?_getD, List.getD_eq_getElem?_getD, List.getElem?_drop,
    List.getElem?_drop, memo.kept] <;> omega

theorem readFrom (memo : Memo front origin now h)
    (registered : (FixedHeader.inOctets (origin.drop front)).kind? = some .geoUnicast) :
    h.ReadFrom (now.drop front) := by
  have room := memo.room
  have long : Headers.size ≤ (now.drop front).length := by
    rw [List.length_drop]
    omega
  have first : FixedHeader.size ≤ (now.drop front).length :=
    Nat.le_trans (Nat.le_add_right ..) long
  have kind : (FixedHeader.inOctets (now.drop front)).kind? = some .geoUnicast := by
    have type := memo.octetAt_eq (i := 5) (by decide) (by decide) (by decide) (by decide)
    unfold FixedHeader.kind? FixedHeader.inOctets at registered ⊢
    rw [type]
    exact registered
  rw [memo.read]
  refine ⟨⟨_, FixedHeader.read_eq first, kind, rfl, rfl, rfl, rfl, rfl, rfl, rfl⟩,
    ⟨_, Bytes.suffix_eq first, GeoUnicast.read_eq ?_⟩⟩
  rw [List.length_drop]
  simp only [Headers.size] at long
  omega

end Memo

/-! ### What may be done with a packet -/

inductive PacketCall where
  | setRemainingHops (hops : UInt8)
  | resize (length : Nat)
  | reframe (change : Reframe)
  | write (start : Nat) (data : Bytes)
  | relocate (change : Relocation)

/-- The length that a call asks for with nothing but a length change in mind. -/
def PacketCall.length? : PacketCall → Option Nat
  | .resize length => some length
  | .reframe change => some change.length
  | _ => none

/-- A write stays in the payload. What is relocated lies in it, and where it goes lies in the new
one. -/
def PacketCall.Consistent (present : Nat) : PacketCall → Prop
  | .write start data => start + data.length ≤ present
  | .relocate r => r.fits present = true ∧ r.source.start ≤ r.source.stop ∧
      r.target.start ≤ r.length
  | _ => True

namespace Packet

/-- Why a length change was refused, if it was, and what is left. -/
def settle {C : Type} : Answer SizeError C C → Option SizeError × C
  | .ok c => (none, c)
  | .error refusal => (some refusal.cause, refusal.left)

def perform {C : Type} [Container C] (packet : Packet C) :
    PacketCall → Except Fault (Option SizeError × Packet C)
  | .setRemainingHops hops => return (none, ← packet.setRemainingHops hops)
  | .resize length => return settle (← Container.resize packet length)
  | .reframe change => return settle (← Container.reframe packet change)
  | .write start data => return (none, ← Container.overwrite packet start data)
  | .relocate change => return settle (← Container.relocate packet change)

/-- The call is consistent with the payload as it is. -/
def Permits {C : Type} [Container C] (packet : Packet C) (call : PacketCall) : Prop :=
  ∃ data, packet.payload = .ok data ∧ call.Consistent data.length

/-- Any number of consistent calls, refused or not, leads from one packet to another. -/
inductive Leads {C : Type} [Container C] (start : Packet C) : Packet C → Prop where
  | here : Leads start start
  | call {before after : Packet C} {call : PacketCall} {refusal : Option SizeError}
    (earlier : Leads start before) (permitted : before.Permits call)
    (performed : before.perform call = .ok (refusal, after)) : Leads start after

variable {C : Type} [Carrier C]

def Sound (origin : Bytes) (packet : Packet C) : Prop :=
  Memo (Carrier.front C) origin (Carrier.octets packet.inner) packet.headers

/-! ### Single calls -/

namespace Sound

variable {origin : Bytes} {packet : Packet C}

theorem whole_eq (sound : packet.Sound origin) :
    packet.whole = .ok ((Carrier.octets packet.inner).drop (Carrier.front C)) := by
  have room := sound.room
  rw [whole, Carrier.view_eq]
  exact Bytes.suffix_eq (by omega)

theorem payload_eq (sound : packet.Sound origin) :
    ∃ data, packet.payload = .ok data ∧ data.length = packet.headers.payloadLength.toNat := by
  have room := sound.room
  have inside : Headers.size + packet.headers.payloadLength.toNat ≤
      ((Carrier.octets packet.inner).drop (Carrier.front C)).length := by
    rw [List.length_drop]
    omega
  have read : packet.payload = .ok ((((Carrier.octets packet.inner).drop (Carrier.front C)).drop
      Headers.size).take packet.headers.payloadLength.toNat) := by
    simp only [payload, sound.whole_eq, bind, Except.bind]
    exact Bytes.slice_eq inside
  refine ⟨_, read, ?_⟩
  rw [List.length_take, List.length_drop]
  omega

theorem setRemainingHops_eq (sound : packet.Sound origin) (hops : UInt8) :
    ∃ after, packet.setRemainingHops hops = .ok after ∧ after.Sound origin := by
  have room := sound.room
  have behind : Carrier.front C + 3 + [hops].length ≤ (Carrier.octets packet.inner).length := by
    simp only [Headers.size, FixedHeader.size, List.length_singleton] at room ⊢
    omega
  obtain ⟨inner, written, octets⟩ := Carrier.overwrite_eq packet.inner behind
  refine ⟨⟨inner, { packet.headers with remainingHops := hops }⟩, ?_, ?_⟩
  · rw [setRemainingHops, written]
    rfl
  · rw [Sound, octets]
    exact Memo.setRemainingHops sound hops

theorem overwrite_eq (sound : packet.Sound origin) {start : Nat} {data : Bytes}
    (inside : start + data.length ≤ packet.headers.payloadLength.toNat) :
    ∃ after, Container.overwrite packet start data = .ok after ∧ after.Sound origin ∧
      after.headers = packet.headers := by
  obtain ⟨present, payload, width⟩ := sound.payload_eq
  have room := sound.room
  have behind : Carrier.front C + (Headers.size + start) + data.length ≤
      (Carrier.octets packet.inner).length := by
    omega
  obtain ⟨inner, written, octets⟩ := Carrier.overwrite_eq packet.inner behind
  refine ⟨⟨inner, packet.headers⟩, ?_, ?_, rfl⟩
  · simp only [Container.overwrite, payload, bind, Except.bind, width, Nat.not_lt.mpr inside,
      if_false]
    rw [written]
    rfl
  · rw [Sound, octets]
    refine Memo.of_take_eq sound (Bytes.take_splice behind (by omega)) ?_
    rw [Bytes.length_splice behind]
    exact room

/-- A length change reaches the headers as well, or nothing at all. -/
theorem resize_eq (sound : packet.Sound origin) (length : Nat) :
    (length < UInt16.size ∧ ∃ after, Container.resize packet length = .ok (.ok after) ∧
      after.Sound origin ∧ after.headers.payloadLength.toNat = length) ∨
    Container.resize packet length = .ok (.error ⟨.badSize, packet⟩) := by
  by_cases large : UInt16.size ≤ length
  · refine .inr ?_
    simp only [Container.resize, if_pos large]
    rfl
  have small : length < UInt16.size := Nat.not_le.mp large
  have written : (UInt16.ofNat length).toNat = length := UInt16.toNat_ofNat_of_lt' small
  rcases Carrier.resize_eq packet.inner (Headers.size + length) with
    ⟨inner, resized, octets⟩ | refused
  · have room := sound.room
    have width : (Carrier.octets inner).length = Carrier.front C + (Headers.size + length) := by
      rw [octets, Bytes.length_resize]
    have behind : Carrier.front C + 8 + (BigEndian.encode 2 (UInt16.ofNat length).toNat).length ≤
        (Carrier.octets inner).length := by
      rw [width, BigEndian.length_encode]
      simp only [Headers.size, FixedHeader.size]
      omega
    obtain ⟨last, announced, after⟩ := Carrier.overwrite_eq inner behind
    refine .inl ⟨small, ⟨last, { packet.headers with payloadLength := UInt16.ofNat length }⟩, ?_,
      ?_, written⟩
    · simp only [Container.resize, if_neg large, bind, Except.bind]
      rw [resized]
      simp only [setPayloadLength, bind, Except.bind]
      rw [announced]
      rfl
    · rw [Sound, after]
      apply Memo.setPayloadLength sound
      · rw [octets]
        exact Bytes.take_resize (by omega) (by omega)
      · rw [width, written]
        omega
  · refine .inr ?_
    simp only [Container.resize, if_neg large, bind, Except.bind]
    rw [refused]
    rfl

theorem resizeUnlessLength_eq (sound : packet.Sound origin) (length : Nat) :
    (∃ after, Container.resizeUnlessLength packet length = .ok (.ok after) ∧ after.Sound origin ∧
      after.headers.payloadLength.toNat = length) ∨
    Container.resizeUnlessLength packet length = .ok (.error ⟨.badSize, packet⟩) := by
  obtain ⟨data, payload, width⟩ := sound.payload_eq
  have view : Container.view packet = .ok data := payload
  by_cases same : data.length = length
  · refine .inl ⟨packet, ?_, sound, width.symm.trans same⟩
    simp only [Container.resizeUnlessLength, view, bind, Except.bind, if_pos same]
    rfl
  · have asked : Container.resizeUnlessLength packet length = Container.resize packet length := by
      simp only [Container.resizeUnlessLength, view, bind, Except.bind, if_neg same]
    rw [asked]
    rcases sound.resize_eq length with ⟨-, resized⟩ | refused
    · exact .inl resized
    · exact .inr refused

theorem copyWithin_eq (sound : packet.Sound origin) {source : Range} {target : Nat}
    (ordered : source.start ≤ source.stop)
    (there : source.stop ≤ packet.headers.payloadLength.toNat)
    (room : target + source.size ≤ packet.headers.payloadLength.toNat) :
    ∃ after, Container.copyWithin packet source target = .ok after ∧ after.Sound origin ∧
      after.headers = packet.headers := by
  obtain ⟨data, payload, width⟩ := sound.payload_eq
  have view : Container.view packet = .ok data := payload
  have inside : source.start + source.size ≤ data.length := by
    unfold Range.size
    omega
  have copied : ((data.drop source.start).take source.size).length = source.size := by
    rw [List.length_take, List.length_drop]
    omega
  obtain ⟨after, written, rest⟩ := sound.overwrite_eq (by rw [copied]; exact room)
  refine ⟨after, ?_, rest⟩
  simp only [Container.copyWithin, if_neg (Nat.not_lt.mpr ordered), view, bind, Except.bind,
    Bytes.slice_eq inside]
  exact written

section Relocation

variable (sound : packet.Sound origin) {r : Relocation}
  (consistent : (PacketCall.relocate r).Consistent packet.headers.payloadLength.toNat)
include sound consistent

/-- With the room there is made, the payload lies where it is and where it goes. -/
theorem makeRoom_eq :
    (∃ roomy, Container.makeRoom packet r = .ok (.ok roomy) ∧ roomy.Sound origin ∧
      r.source.stop ≤ roomy.headers.payloadLength.toNat ∧
      r.target.start + r.source.size ≤ roomy.headers.payloadLength.toNat) ∨
    Container.makeRoom packet r = .ok (.error ⟨.badSize, packet⟩) := by
  obtain ⟨fits, -, start⟩ := consistent
  obtain ⟨data, payload, width⟩ := sound.payload_eq
  have view : Container.view packet = .ok data := payload
  have ranges : r.source.size = r.target.size ∧
      r.source.stop ≤ packet.headers.payloadLength.toNat ∧ r.target.stop ≤ r.length := by
    simpa [Relocation.fits, and_assoc] using fits
  obtain ⟨sizes, there, target⟩ := ranges
  have goes : r.target.start + r.source.size ≤ r.length := by
    rw [sizes]
    unfold Range.size
    omega
  rw [← width] at fits
  by_cases grows : r.source.stop ≤ r.length
  · have asked : Container.makeRoom packet r = Container.resizeUnlessLength packet r.length := by
      simp only [Container.makeRoom, view, bind, Except.bind, fits, if_pos grows]
      rfl
    rw [asked]
    rcases sound.resizeUnlessLength_eq r.length with ⟨roomy, resized, steady, length⟩ | refused
    · refine .inl ⟨roomy, resized, steady, ?_⟩
      rw [length]
      exact ⟨grows, goes⟩
    · exact .inr refused
  · refine .inl ⟨packet, ?_, sound, there, by omega⟩
    simp only [Container.makeRoom, view, bind, Except.bind, fits, if_neg grows]
    rfl

/-- A relocation may be refused after its octets have moved, which is no harm to the headers. -/
theorem relocate_eq :
    ∃ answer, Container.relocate packet r = .ok answer ∧ (settle answer).2.Sound origin := by
  rcases sound.makeRoom_eq consistent with ⟨roomy, made, steady, there, goes⟩ | refused
  · obtain ⟨moved, copied, still, -⟩ := steady.copyWithin_eq consistent.2.1 there goes
    simp only [Container.relocate, made, copied, bind, Except.bind]
    rcases still.resizeUnlessLength_eq r.length with ⟨after, resized, last, -⟩ | refused
    · exact ⟨_, resized, last⟩
    · exact ⟨_, refused, still⟩
  · refine ⟨.error ⟨.badSize, packet⟩, ?_, sound⟩
    simp only [Container.relocate, refused, bind, Except.bind]
    rfl

end Relocation

/-- Every consistent call has an answer, and a refused length change has changed nothing. -/
theorem perform_eq (sound : packet.Sound origin) {call : PacketCall}
    (permitted : packet.Permits call) :
    ∃ refusal after, packet.perform call = .ok (refusal, after) ∧ after.Sound origin ∧
      ∀ length, call.length? = some length →
        (refusal = none → after.headers.payloadLength.toNat = length) ∧
        (refusal ≠ none → after = packet) ∧ (UInt16.size ≤ length → refusal ≠ none) := by
  obtain ⟨data, payload, width⟩ := sound.payload_eq
  obtain ⟨same, shown, consistent⟩ := permitted
  obtain rfl : data = same := Except.ok.inj (payload.symm.trans shown)
  rw [width] at consistent
  have resized (length : Nat) : ∃ answer, Container.resize packet length = .ok answer ∧
      (settle answer).2.Sound origin ∧
      ((settle answer).1 = none → (settle answer).2.headers.payloadLength.toNat = length) ∧
      ((settle answer).1 ≠ none → (settle answer).2 = packet) ∧
      (UInt16.size ≤ length → (settle answer).1 ≠ none) := by
    rcases sound.resize_eq length with ⟨small, after, resized, steady, exact⟩ | refused
    · refine ⟨_, resized, steady, fun _ => exact, fun some => absurd rfl some, fun large => ?_⟩
      exact absurd large (Nat.not_le.mpr small)
    · exact ⟨_, refused, sound, nofun, fun _ => rfl, nofun⟩
  cases call with
  | setRemainingHops hops =>
    obtain ⟨after, written, steady⟩ := sound.setRemainingHops_eq hops
    refine ⟨none, after, ?_, steady, nofun⟩
    simp only [perform, written, bind, Except.bind]
    rfl
  | write start data =>
    obtain ⟨after, written, steady, -⟩ := sound.overwrite_eq consistent
    refine ⟨none, after, ?_, steady, nofun⟩
    simp only [perform, written, bind, Except.bind]
    rfl
  | relocate change =>
    obtain ⟨answer, relocated, steady⟩ := sound.relocate_eq consistent
    refine ⟨(settle answer).1, (settle answer).2, ?_, steady, nofun⟩
    simp only [perform, relocated, bind, Except.bind]
    rfl
  | resize length =>
    obtain ⟨answer, performed, steady, rest⟩ := resized length
    refine ⟨(settle answer).1, (settle answer).2, ?_, steady, ?_⟩
    · simp only [perform, performed, bind, Except.bind]
      rfl
    · intro asked same
      obtain rfl := Option.some.inj same
      exact rest
  | reframe change =>
    obtain ⟨answer, performed, steady, rest⟩ := resized change.length
    refine ⟨(settle answer).1, (settle answer).2, ?_, steady, ?_⟩
    · simp only [perform, Container.reframe, performed, bind, Except.bind]
      rfl
    · intro asked same
      obtain rfl := Option.some.inj same
      exact rest

end Sound

/-! ### Runs of calls -/

theorem sound_of_parsed {c : C} {packet : Packet C} (parsed : parse c = .ok (.ok packet)) :
    packet.Sound (Carrier.octets c) ∧
      (FixedHeader.inOctets ((Carrier.octets c).drop (Carrier.front C))).kind? =
        some .geoUnicast := by
  cases view : Container.view c with
  | error fault =>
    simp only [parse, view, bind, Except.bind] at parsed
    cases parsed
  | ok b =>
    obtain rfl : (Carrier.octets c).drop (Carrier.front C) = b := by
      have shown := view
      rw [Carrier.view_eq, Bytes.suffix] at shown
      split at shown
      · exact Except.ok.inj shown
      · cases shown
    rw [parse_of_view view] at parsed
    cases clear : Headers.objection? ((Carrier.octets c).drop (Carrier.front C)) with
    | some reason =>
      rw [clear] at parsed
      cases parsed
    | none =>
      rw [clear] at parsed
      cases parsed
      obtain ⟨-, kind, -⟩ := Headers.of_objection?_none clear
      exact ⟨Memo.of_parsed clear, kind⟩

theorem Leads.sound {origin : Bytes} {start after : Packet C} (leads : start.Leads after)
    (sound : start.Sound origin) : after.Sound origin := by
  induction leads with
  | here => exact sound
  | call earlier permitted performed ih =>
    obtain ⟨refusal, next, answered, steady, -⟩ := ih.perform_eq permitted
    cases performed.symm.trans answered
    exact steady

/-- Whatever was done to a packet since it was read, in whatever it is contained: its headers are
what is read from its octets now, its payload is there in the length they say, and of the octets up
to the payload only the hop limit and the payload length were written. Any consistent call may
follow, and a length change that is refused changes nothing. -/
theorem headers_follow_octets {c : C} {start after : Packet C}
    (parsed : parse c = .ok (.ok start)) (leads : start.Leads after) :
    (∃ now data, after.whole = .ok now ∧ after.headers.ReadFrom now ∧
      Headers.size + after.headers.payloadLength.toNat ≤ now.length ∧
      after.payload = .ok data ∧ data.length = after.headers.payloadLength.toNat) ∧
    (∀ i < Carrier.front C + Headers.size, i ≠ Carrier.front C + 3 → i ≠ Carrier.front C + 8 →
      i ≠ Carrier.front C + 9 → (Carrier.octets after.inner)[i]? = (Carrier.octets c)[i]?) ∧
    ∀ call, after.Permits call → ∃ refusal next, after.perform call = .ok (refusal, next) ∧
      ∀ length, call.length? = some length →
        (refusal = none → next.headers.payloadLength.toNat = length) ∧
        (refusal ≠ none → next = after) ∧ (UInt16.size ≤ length → refusal ≠ none) := by
  obtain ⟨read, kind⟩ := sound_of_parsed parsed
  have sound := leads.sound read
  obtain ⟨data, payload, width⟩ := sound.payload_eq
  refine ⟨⟨_, data, sound.whole_eq, Memo.readFrom sound kind, ?_, payload, width⟩, sound.kept, ?_⟩
  · have room := sound.room
    rw [List.length_drop]
    omega
  · intro call permitted
    obtain ⟨refusal, next, performed, -, change⟩ := sound.perform_eq permitted
    exact ⟨refusal, next, performed, change⟩

/-- A packet with an octet of payload and one behind it, in a frame that can only shrink. -/
def framedPacket : Frame Buffer where
  inner := ⟨.shrinkOnly, List.replicate 14 0 ++ trailedOctets⟩
  header := ⟨.broadcast, .broadcast, .geoNetworking⟩

/-- It takes another hop limit, gives up its payload, and refuses to take it back. -/
theorem headers_follow_octets_of_framed : ∃ start after : Packet (Frame Buffer),
    parse framedPacket = .ok (.ok start) ∧ start.Leads after ∧
      after.headers.remainingHops = 3 ∧ after.headers.payloadLength = 0 ∧
      (∃ now, after.whole = .ok now ∧ after.headers.ReadFrom now) ∧
      after.perform (.resize 1) = .ok (some .badSize, after) := by
  have view : Container.view framedPacket = .ok trailedOctets := rfl
  have parsed : parse framedPacket = .ok (.ok ⟨framedPacket, Headers.inOctets trailedOctets⟩) := by
    rw [parse_of_view view, show Headers.objection? trailedOctets = none by decide]
  have limited := Leads.call .here (show Permits ⟨framedPacket, Headers.inOctets trailedOctets⟩
    (.setRemainingHops 3) from ⟨_, rfl, trivial⟩) rfl
  have emptied := limited.call (show Permits _ (.resize 0) from ⟨_, rfl, trivial⟩) rfl
  obtain ⟨⟨now, data, whole, read, -⟩, -, -⟩ := headers_follow_octets parsed emptied
  exact ⟨_, _, parsed, emptied, rfl, rfl, ⟨now, whole, read⟩, rfl⟩

end Packet
end GeoRouter
