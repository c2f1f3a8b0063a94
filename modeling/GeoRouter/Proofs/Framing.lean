import GeoRouter.Packet.Basic
import GeoRouter.Ethernet.Adapter
import GeoRouter.Proofs.Octets

/-!
# Frames in buffers

The answers of frames around a plain buffer, for octets of any number and a buffer of any kind:
which frames an adapter lets through to the router (`Admitted`), what a frame shows of its buffer,
and what a buffer holds after a frame was laid out in it or sent on in place.
-/

namespace GeoRouter

namespace Mac

def inOctets (b : Bytes) (start : Nat) : Mac :=
  ⟨b.octetAt start, b.octetAt (start + 1), b.octetAt (start + 2), b.octetAt (start + 3),
    b.octetAt (start + 4), b.octetAt (start + 5)⟩

theorem octets_inOctets {b : Bytes} {start : Nat} (inside : start + 6 ≤ b.length) :
    (inOctets b start).octets = (b.drop start).take 6 := by
  rw [Bytes.take_succ_drop 5 (by omega), Bytes.take_succ_drop 4 (by omega),
    Bytes.take_succ_drop 3 (by omega), Bytes.take_succ_drop 2 (by omega),
    Bytes.take_succ_drop 1 (by omega), Bytes.take_succ_drop 0 (by omega), List.take_zero]
  rfl

theorem octets_injective {a b : Mac} (same : a.octets = b.octets) : a = b := by
  cases a
  cases b
  simpa [octets] using same

theorem read_eq {b : Bytes} {start : Nat} (inside : start + 6 ≤ b.length) :
    read b start = .ok (inOctets b start) := by
  unfold read
  rw [Bytes.slice_eq inside, ← octets_inOctets inside]
  rfl

end Mac

namespace FrameHeader

def inOctets (b : Bytes) : FrameHeader where
  source := Mac.inOctets b 6
  destination := Mac.inOctets b 0
  kind := .ofCode (UInt16.ofNat (b.number 12 2))

theorem read_eq {b : Bytes} (long : size ≤ b.length) : read b = .ok (inOctets b) := by
  simp only [size] at long
  unfold read
  rw [Mac.read_eq (by omega), Mac.read_eq (by omega), Bytes.word_eq (by omega)]
  rfl

theorem length_encode (header : FrameHeader) : header.encode.length = size := rfl

end FrameHeader

/-- The octets are a frame that an adapter with the address `own` takes, and carry a packet for the
router. -/
structure Admitted (own : Mac) (b : Bytes) : Prop where
  long : 14 ≤ b.length
  destination : b.take 6 = own.octets ∨ b.take 6 = Mac.broadcast.octets
  protocol : b.number 12 2 = 0x8947

namespace Frame

theorem parse_eq {buffer : Buffer} (long : FrameHeader.size ≤ buffer.bytes.length) :
    parse buffer = .ok (.ok ⟨buffer, FrameHeader.inOctets buffer.bytes⟩) := by
  have header : FrameHeader.parse buffer.bytes =
      .ok (.ok (FrameHeader.inOctets buffer.bytes)) := by
    unfold FrameHeader.parse
    rw [if_neg (Nat.not_lt.mpr long), FrameHeader.read_eq long]
    rfl
  simp only [parse, Container.view, bind, Except.bind, header]
  rfl

theorem view_eq (frame : Frame Buffer) (long : FrameHeader.size ≤ frame.inner.bytes.length) :
    Container.view frame = .ok (frame.inner.bytes.drop FrameHeader.size) :=
  Bytes.suffix_eq long

theorem overwrite_eq (frame : Frame Buffer) {start : Nat} {data : Bytes}
    (inside : FrameHeader.size + start + data.length ≤ frame.inner.bytes.length) :
    Container.overwrite frame start data = .ok { frame with
      inner := ⟨frame.inner.resizing,
        frame.inner.bytes.splice (FrameHeader.size + start) data⟩ } := by
  have front : FrameHeader.size ≤ frame.inner.bytes.length := by omega
  simp only [Container.overwrite, whole, Container.view, bind, Except.bind,
    Bytes.suffix_eq front, Bytes.overwrite_eq inside]
  rfl

/-- The filter of the adapter lets through what it accepts, as the frame that it is. -/
theorem incoming?_eq (own : Mac) (buffer : Buffer) :
    incoming? own buffer = .ok (if FrameHeader.size ≤ buffer.bytes.length ∧
        own.accepts (FrameHeader.inOctets buffer.bytes).destination then
      some ⟨buffer, FrameHeader.inOctets buffer.bytes⟩ else none) := by
  by_cases long : FrameHeader.size ≤ buffer.bytes.length
  · simp only [incoming?, bind, Except.bind, parse_eq long, long, true_and]
    rfl
  · have header : FrameHeader.parse buffer.bytes = .ok (.error .truncated) := by
      unfold FrameHeader.parse
      rw [if_pos (Nat.not_le.mp long)]
      rfl
    simp only [incoming?, parse, Container.view, bind, Except.bind, header, long, false_and]
    rfl

end Frame

/-! ### The filter -/

theorem Mac.accepts_iff {own : Mac} {b : Bytes} (long : 14 ≤ b.length) :
    own.accepts (inOctets b 0) = true ↔
      b.take 6 = own.octets ∨ b.take 6 = broadcast.octets := by
  have front : b.take 6 = (inOctets b 0).octets := by
    rw [octets_inOctets (by omega), List.drop_zero]
  rw [front, accepts, isBroadcast, Bool.or_eq_true, decide_eq_true_iff, decide_eq_true_iff]
  constructor
  · rintro (same | same)
    · exact .inl (congrArg octets same)
    · exact .inr (congrArg octets same)
  · rintro (same | same)
    · exact .inl (octets_injective same)
    · exact .inr (octets_injective same)

theorem FrameHeader.kind_iff {b : Bytes} :
    (inOctets b).kind = .geoNetworking ↔ b.number 12 2 = 0x8947 := by
  have bound : b.number 12 2 < UInt16.size := b.number_lt 12 2
  have word : UInt16.ofNat (b.number 12 2) = 0x8947 ↔ b.number 12 2 = 0x8947 := by
    rw [← UInt16.toNat_inj, UInt16.toNat_ofNat', Nat.mod_eq_of_lt bound]
    rfl
  unfold inOctets
  rw [EtherType.ofCode]
  constructor
  · intro same
    split at same
    · exact word.mp ‹_›
    · cases same
  · intro same
    rw [if_pos (word.mpr same)]

/-- An adapter hands over just the admitted frames that it does not leave to other protocols. -/
theorem admitted_iff {own : Mac} {b : Bytes} :
    Admitted own b ↔ (FrameHeader.size ≤ b.length ∧
      own.accepts (FrameHeader.inOctets b).destination) ∧
      (FrameHeader.inOctets b).kind = .geoNetworking := by
  constructor
  · rintro ⟨long, destination, protocol⟩
    exact ⟨⟨long, (Mac.accepts_iff long).mpr destination⟩,
      FrameHeader.kind_iff.mpr protocol⟩
  · rintro ⟨⟨long, accepted⟩, kind⟩
    exact ⟨long, (Mac.accepts_iff long).mp accepted, FrameHeader.kind_iff.mp kind⟩

instance (own : Mac) (b : Bytes) : Decidable (Admitted own b) :=
  decidable_of_iff _ admitted_iff.symm

/-- Every adapter admits a frame for the router that is for it or for everyone. -/
theorem admitted_encode {own destination : Mac}
    (toUs : destination = own ∨ destination = .broadcast) (source : Mac) (rest : Bytes) :
    Admitted own (FrameHeader.encode ⟨source, destination, .geoNetworking⟩ ++ rest) := by
  have protocol : (FrameHeader.encode ⟨source, destination, .geoNetworking⟩ ++ rest).drop 12 =
      BigEndian.encode 2 0x8947 ++ rest := rfl
  refine ⟨?_, toUs.imp (congrArg Mac.octets) (congrArg Mac.octets), ?_⟩
  · rw [List.length_append, FrameHeader.length_encode]
    exact Nat.le_add_right ..
  · have number := Bytes.number_drop
      (FrameHeader.encode ⟨source, destination, .geoNetworking⟩ ++ rest) 12 0 2
    rw [protocol, Bytes.number_encode] at number
    exact number.symm

/-! ### Laying out and sending on -/

namespace Buffer

/-- The buffer with octets written over its front. -/
def stamp (buffer : Buffer) (data : Bytes) : Buffer :=
  { buffer with bytes := buffer.bytes.splice 0 data }

theorem view_stamp (buffer : Buffer) (header : FrameHeader) :
    Container.view (⟨buffer.stamp header.encode, header⟩ : Frame Buffer) =
      .ok (buffer.bytes.drop FrameHeader.size) := by
  have stamped : (buffer.stamp header.encode).bytes =
      header.encode ++ buffer.bytes.drop FrameHeader.size := Bytes.splice_zero ..
  have long : FrameHeader.size ≤ (buffer.stamp header.encode).bytes.length := by
    rw [stamped, List.length_append, FrameHeader.length_encode]
    exact Nat.le_add_right ..
  rw [Frame.view_eq _ long, stamped, List.drop_left' (by rfl)]

end Buffer

namespace Container

theorem relocate_in_place {buffer : Buffer} {start : Nat} (inside : start ≤ buffer.bytes.length) :
    relocate buffer ⟨buffer.bytes.length, ⟨start, buffer.bytes.length⟩,
      ⟨start, buffer.bytes.length⟩⟩ = .ok (.ok buffer) := by
  have kept : start + (buffer.bytes.length - start) ≤ buffer.bytes.length := by omega
  have width : ((buffer.bytes.drop start).take (buffer.bytes.length - start)).length =
      buffer.bytes.length - start := by
    rw [List.length_take, List.length_drop]
    omega
  have whole : buffer.bytes.overwrite start
      ((buffer.bytes.drop start).take (buffer.bytes.length - start)) = .ok buffer.bytes := by
    rw [Bytes.overwrite_eq (by rw [width]; exact kept), Bytes.splice_self kept]
  have ordered : ¬ buffer.bytes.length < start := Nat.not_lt.mpr inside
  simp only [relocate, makeRoom, resizeUnlessLength, copyWithin, Relocation.fits, view, overwrite,
    bind, Except.bind, pure, Except.pure, Range.size, Bytes.slice_eq kept, whole, ordered,
    Nat.le_refl, decide_true, Bool.and_self, if_true, if_false]

end Container

namespace FrameRequest

theorem length_eq (request : FrameRequest) {present : Nat}
    (fits : FrameHeader.size + request.payload < UInt64.size ∨
      FrameHeader.size + request.payload ≤ present) :
    request.length present = FrameHeader.size + request.payload :=
  Nat.mod_eq_of_lt (by omega)

/-- A frame that keeps its length is sent on with nothing but its header changed. -/
theorem reuse_eq (request : FrameRequest) {frame : Frame Buffer}
    (same : FrameHeader.size + request.payload = frame.inner.bytes.length) :
    request.reuse frame =
      .ok (.ok ⟨frame.inner.stamp request.header.encode, request.header⟩) := by
  have long : FrameHeader.size ≤ frame.inner.bytes.length := same ▸ Nat.le_add_right ..
  have length : request.length frame.inner.bytes.length = frame.inner.bytes.length :=
    (request.length_eq (.inr (Nat.le_of_eq same))).trans same
  have payload : request.payload = frame.inner.bytes.length - FrameHeader.size := by omega
  have start : frame.inner.bytes.length - (frame.inner.bytes.length - FrameHeader.size) =
      FrameHeader.size := by omega
  have written : frame.inner.bytes.overwrite 0 request.header.encode =
      .ok (frame.inner.bytes.splice 0 request.header.encode) :=
    Bytes.overwrite_eq (by rw [FrameHeader.length_encode]; omega)
  have moved := Container.relocate_in_place long
  simp only [reuse, Frame.whole, Container.view, bind, Except.bind, Nat.not_lt.mpr long, if_false,
    length, payload, Nat.min_self, start, moved, Frame.emit, Container.overwrite, written]
  rfl

/-- A buffer that takes the length holds the header in front, and what it held or zeros behind. -/
theorem prepare_eq (request : FrameRequest) (buffer : Buffer) {length : Nat}
    (whole : FrameHeader.size + request.payload = length) (fits : length < UInt64.size) :
    request.prepare buffer = .ok (if buffer.canTake length then
      .ok ⟨{ buffer with bytes := buffer.bytes.resize length }.stamp request.header.encode,
        request.header⟩
      else .error ⟨.badSize, buffer⟩) := by
  have same : request.length 0 = length := (request.length_eq (.inl (whole ▸ fits))).trans whole
  by_cases taken : buffer.canTake length
  · have width : (buffer.bytes.resize length).length = length := Bytes.length_resize ..
    have long : FrameHeader.size ≤ length := whole ▸ Nat.le_add_right ..
    have written : (buffer.bytes.resize length).overwrite 0 request.header.encode =
        .ok ((buffer.bytes.resize length).splice 0 request.header.encode) :=
      Bytes.overwrite_eq (by rw [FrameHeader.length_encode, width]; omega)
    simp only [prepare, same, Container.resize, Buffer.resize, taken, if_true, bind, Except.bind,
      Container.view, width, Nat.not_lt.mpr long, if_false, Frame.emit, Container.overwrite,
      written]
    rfl
  · simp only [prepare, same, Container.resize, Buffer.resize, taken, bind, Except.bind]
    rfl

end FrameRequest

end GeoRouter
