import GeoRouter.Ethernet.Frame
import GeoRouter.Packet.Basic
import GeoRouter.Proofs.Octets

/-!
# What all containers have in common

Whatever a container stands in, its view is like an octet string of its own. Writing changes the
octets that are written and faults outside; a length change keeps the octets that there are before
and after it, or is refused and changes nothing at all. Buffers of every kind are lawful in this
sense, and so are frames and packets in any container that is.
-/

namespace GeoRouter

namespace Bytes

/-- Octets after a change of their number: where there were octets and still are, they are the
same. -/
structure Resized (before : Bytes) (length : Nat) (after : Bytes) : Prop where
  width : after.length = length
  kept : ∀ i, i < before.length → i < length → after[i]? = before[i]?

theorem resized_resize (b : Bytes) (length : Nat) : b.Resized length (b.resize length) where
  width := length_resize b length
  kept i there stays := by
    have width : i < (b.take length).length := by
      rw [List.length_take]
      omega
    rw [resize, List.getElem?_append_left width, List.getElem?_take_of_lt stays]

theorem Resized.drop {before after : Bytes} {front length : Nat}
    (resized : before.Resized (front + length) after) :
    Resized (before.drop front) length (after.drop front) where
  width := by
    rw [List.length_drop, resized.width, Nat.add_sub_cancel_left]
  kept i there stays := by
    rw [List.length_drop] at there
    rw [List.getElem?_drop, List.getElem?_drop]
    exact resized.kept (front + i) (by omega) (by omega)

theorem Resized.of_take {before after : Bytes} {length : Nat}
    (resized : before.Resized length after) (n : Nat) : Resized (before.take n) length after where
  width := resized.width
  kept i there stays := by
    rw [List.length_take] at there
    rw [List.getElem?_take_of_lt (by omega)]
    exact resized.kept i (by omega) stays

theorem take_splice_behind {b data : Bytes} {start n : Nat} (inside : start + data.length ≤ n)
    (long : n ≤ b.length) : (b.splice start data).take n = splice (b.take n) start data := by
  have width : (b.take start ++ data).length = start + data.length := by
    rw [List.length_append, List.length_take_of_le (by omega)]
  rw [splice, splice, List.take_append, width, List.take_of_length_le (by rw [width]; exact inside),
    List.take_take, Nat.min_eq_left (by omega), List.drop_take]

end Bytes

namespace Container

variable {C : Type} [Container C]

/-- The container can be given the length. -/
def Takes (c : C) (length : Nat) : Prop := ∃ after, resize c length = .ok (.ok after)

end Container

/-- A container that shows octets treats them as octets of its own. Which lengths it takes does not
depend on what they are. -/
class LawfulContainer (C : Type) [Container C] : Prop where
  overwrite_inside {c : C} {b : Bytes} (shown : Container.view c = .ok b) (start : Nat)
    (data : Bytes) (inside : start + data.length ≤ b.length) :
    ∃ after, Container.overwrite c start data = .ok after ∧
      Container.view after = .ok (b.splice start data) ∧
      ∀ length, Container.Takes after length ↔ Container.Takes c length
  overwrite_outside {c : C} {b : Bytes} (shown : Container.view c = .ok b) (start : Nat)
    (data : Bytes) (outside : b.length < start + data.length) :
    ∃ fault, Container.overwrite c start data = .error fault
  overwrite_self {c : C} {b : Bytes} (shown : Container.view c = .ok b) (start size : Nat)
    (inside : start + size ≤ b.length) :
    Container.overwrite c start ((b.drop start).take size) = .ok c
  resize_eq {c : C} {b : Bytes} (shown : Container.view c = .ok b) (length : Nat) :
    (∃ after later, Container.resize c length = .ok (.ok after) ∧
      Container.view after = .ok later ∧ b.Resized length later) ∨
    Container.resize c length = .ok (.error ⟨.badSize, c⟩)

/-! ### Buffers -/

namespace Buffer

theorem takes_iff {buffer : Buffer} {length : Nat} :
    Container.Takes buffer length ↔ buffer.canTake length = true := by
  simp only [Container.Takes, Container.resize, resize]
  by_cases taken : buffer.canTake length
  · rw [if_pos taken]
    exact iff_of_true ⟨_, rfl⟩ taken
  · rw [if_neg taken]
    refine iff_of_false ?_ taken
    rintro ⟨after, resized⟩
    cases Except.ok.inj resized

theorem overwrite_eq (buffer : Buffer) {start : Nat} {data : Bytes}
    (inside : start + data.length ≤ buffer.bytes.length) :
    Container.overwrite buffer start data =
      .ok { buffer with bytes := buffer.bytes.splice start data } := by
  simp only [Container.overwrite, bind, Except.bind, Bytes.overwrite_eq inside]
  rfl

end Buffer

instance : LawfulContainer Buffer where
  overwrite_inside {buffer b} shown start data inside := by
    obtain rfl : buffer.bytes = b := Except.ok.inj shown
    refine ⟨_, buffer.overwrite_eq inside, rfl, fun length => ?_⟩
    simp only [Buffer.takes_iff, Buffer.canTake, Bytes.length_splice inside]
  overwrite_outside {buffer b} shown start data outside := by
    obtain rfl : buffer.bytes = b := Except.ok.inj shown
    refine ⟨.outOfBounds, ?_⟩
    simp only [Container.overwrite, Bytes.overwrite, if_neg (Nat.not_le.mpr outside)]
    rfl
  overwrite_self {buffer b} shown start size inside := by
    obtain rfl : buffer.bytes = b := Except.ok.inj shown
    have width : ((buffer.bytes.drop start).take size).length = size := by
      rw [List.length_take, List.length_drop]
      omega
    rw [buffer.overwrite_eq (by rw [width]; exact inside), Bytes.splice_self inside]
  resize_eq {buffer b} shown length := by
    obtain rfl : buffer.bytes = b := Except.ok.inj shown
    simp only [Container.resize, Buffer.resize]
    by_cases taken : buffer.canTake length
    · rw [if_pos taken]
      exact .inl ⟨_, _, rfl, rfl, buffer.bytes.resized_resize length⟩
    · rw [if_neg taken]
      exact .inr rfl

/-! ### Frames -/

section Frames

variable {C : Type} [Container C]

namespace Frame

theorem view_iff {frame : Frame C} {b : Bytes} : Container.view frame = .ok b ↔
    ∃ whole, Container.view frame.inner = .ok whole ∧ FrameHeader.size ≤ whole.length ∧
      b = whole.drop FrameHeader.size := by
  simp only [Container.view, Frame.whole, bind, Except.bind]
  cases Container.view frame.inner with
  | error fault => simp
  | ok whole =>
    by_cases long : FrameHeader.size ≤ whole.length
    · simp [Bytes.suffix, long, eq_comm]
    · simp [Bytes.suffix, long]

theorem overwrite_of_view {frame : Frame C} {b : Bytes} (shown : Container.view frame = .ok b)
    (start : Nat) (data : Bytes) : Container.overwrite frame start data =
      (Container.overwrite frame.inner (FrameHeader.size + start) data).map
        fun inner => { frame with inner } := by
  obtain ⟨whole, inner, long, -⟩ := view_iff.mp shown
  simp only [Container.overwrite, Frame.whole, inner, bind, Except.bind, discard, Functor.discard,
    Functor.mapConst, Except.map, Function.comp, Bytes.suffix_eq long]
  rfl

theorem takes_iff {frame : Frame C} {length : Nat} :
    Container.Takes frame length ↔ Container.Takes frame.inner (length + FrameHeader.size) := by
  constructor
  · rintro ⟨after, resized⟩
    simp only [Container.resize, bind, Except.bind] at resized
    split at resized
    · cases resized
    · split at resized
      · cases resized
      · rename_i inner taken
        exact ⟨inner, taken⟩
  · rintro ⟨inner, taken⟩
    refine ⟨{ frame with inner }, ?_⟩
    simp only [Container.resize, bind, Except.bind, taken]
    rfl

end Frame

instance [LawfulContainer C] : LawfulContainer (Frame C) where
  overwrite_inside {frame b} shown start data inside := by
    obtain ⟨whole, inner, long, rfl⟩ := Frame.view_iff.mp shown
    rw [List.length_drop] at inside
    obtain ⟨after, written, later, taken⟩ :=
      LawfulContainer.overwrite_inside inner (FrameHeader.size + start) data (by omega)
    refine ⟨{ frame with inner := after }, ?_, ?_, ?_⟩
    · rw [Frame.overwrite_of_view shown, written]
      rfl
    · refine Frame.view_iff.mpr ⟨_, later, ?_, ?_⟩
      · rw [Bytes.length_splice (by omega)]
        exact long
      · rw [Bytes.drop_splice_behind start long]
    · intro length
      rw [Frame.takes_iff, Frame.takes_iff]
      exact taken _
  overwrite_outside {frame b} shown start data outside := by
    obtain ⟨whole, inner, long, rfl⟩ := Frame.view_iff.mp shown
    rw [List.length_drop] at outside
    obtain ⟨fault, refused⟩ :=
      LawfulContainer.overwrite_outside inner (FrameHeader.size + start) data (by omega)
    refine ⟨fault, ?_⟩
    rw [Frame.overwrite_of_view shown, refused]
    rfl
  overwrite_self {frame b} shown start size inside := by
    obtain ⟨whole, inner, long, rfl⟩ := Frame.view_iff.mp shown
    rw [List.length_drop] at inside
    have same := LawfulContainer.overwrite_self inner (FrameHeader.size + start) size (by omega)
    rw [Frame.overwrite_of_view shown, List.drop_drop, same]
    rfl
  resize_eq {frame b} shown length := by
    obtain ⟨whole, inner, long, rfl⟩ := Frame.view_iff.mp shown
    simp only [Container.resize, bind, Except.bind]
    rcases LawfulContainer.resize_eq inner (length + FrameHeader.size) with
      ⟨after, later, resized, view, kept⟩ | refused
    · rw [Nat.add_comm] at kept
      rw [resized]
      refine .inl ⟨{ frame with inner := after }, _, rfl, ?_, kept.drop⟩
      refine Frame.view_iff.mpr ⟨later, view, ?_, rfl⟩
      rw [kept.width]
      exact Nat.le_add_right ..
    · rw [refused]
      exact .inr rfl

end Frames

/-! ### Packets -/

section Packets

variable {C : Type} [Container C]

namespace Packet

theorem view_iff {packet : Packet C} {b : Bytes} : Container.view packet = .ok b ↔
    ∃ whole, Container.view packet.inner = .ok whole ∧
      Headers.size + packet.headers.payloadLength.toNat ≤ whole.length ∧
      b = (whole.drop Headers.size).take packet.headers.payloadLength.toNat := by
  simp only [Container.view, payload, Packet.whole, bind, Except.bind]
  cases Container.view packet.inner with
  | error fault => simp
  | ok whole =>
    by_cases long : Headers.size + packet.headers.payloadLength.toNat ≤ whole.length
    · simp [Bytes.slice, long, eq_comm]
    · simp [Bytes.slice, long]

theorem length_of_view {packet : Packet C} {b : Bytes} (shown : Container.view packet = .ok b) :
    b.length = packet.headers.payloadLength.toNat := by
  obtain ⟨whole, -, room, rfl⟩ := view_iff.mp shown
  rw [List.length_take, List.length_drop]
  omega

theorem overwrite_of_view {packet : Packet C} {b data : Bytes} {start : Nat}
    (shown : Container.view packet = .ok b) (inside : start + data.length ≤ b.length) :
    Container.overwrite packet start data =
      (Container.overwrite packet.inner (Headers.size + start) data).map
        fun inner => { packet with inner } := by
  have payload : packet.payload = .ok b := shown
  simp only [Container.overwrite, payload, bind, Except.bind, if_neg (Nat.not_lt.mpr inside)]
  rfl

variable [LawfulContainer C]

/-- What a packet stands in, once it has the length that the packet asks for, is long enough to
write the payload length into. -/
theorem resize_of_taken {packet : Packet C} {b : Bytes} {inner : C} {length : Nat}
    (shown : Container.view packet = .ok b) (small : length < UInt16.size)
    (taken : Container.resize packet.inner (Headers.size + length) = .ok (.ok inner)) :
    ∃ after later, Container.resize packet length = .ok (.ok after) ∧
      Container.view after = .ok later ∧ b.Resized length later := by
  obtain ⟨whole, view, -, rfl⟩ := view_iff.mp shown
  have number : (UInt16.ofNat length).toNat = length := UInt16.toNat_ofNat_of_lt' small
  have positive : 10 ≤ Headers.size := by decide
  rcases LawfulContainer.resize_eq view (Headers.size + length) with
    ⟨_, later, resized, view, kept⟩ | refused
  · cases resized.symm.trans taken
    have inside : 8 + (BigEndian.encode 2 (UInt16.ofNat length).toNat).length ≤ later.length := by
      rw [kept.width, BigEndian.length_encode]
      omega
    obtain ⟨last, written, view, -⟩ := LawfulContainer.overwrite_inside view 8 _ inside
    refine ⟨⟨last, { packet.headers with payloadLength := UInt16.ofNat length }⟩,
      later.drop Headers.size, ?_, ?_, kept.drop.of_take _⟩
    · simp only [Container.resize, if_neg (Nat.not_le.mpr small), bind, Except.bind, taken,
        setPayloadLength, written]
      rfl
    · refine view_iff.mpr ⟨_, view, ?_, ?_⟩
      · apply Nat.le_of_eq
        rw [Bytes.length_splice inside, kept.width, number]
      · rw [Bytes.drop_splice inside (by rw [BigEndian.length_encode]; exact positive), number]
        exact (List.take_of_length_le (Nat.le_of_eq kept.drop.width)).symm
  · cases refused.symm.trans taken

theorem takes_iff {packet : Packet C} {b : Bytes} (shown : Container.view packet = .ok b)
    {length : Nat} : Container.Takes packet length ↔
      length < UInt16.size ∧ Container.Takes packet.inner (Headers.size + length) := by
  constructor
  · rintro ⟨after, resized⟩
    by_cases large : UInt16.size ≤ length
    · simp only [Container.resize, if_pos large] at resized
      cases resized
    · refine ⟨Nat.not_le.mp large, ?_⟩
      simp only [Container.resize, if_neg large, bind, Except.bind] at resized
      split at resized
      · cases resized
      · split at resized
        · cases resized
        · rename_i inner taken
          exact ⟨inner, taken⟩
  · rintro ⟨small, inner, taken⟩
    obtain ⟨after, -, resized, -⟩ := resize_of_taken shown small taken
    exact ⟨after, resized⟩

end Packet

instance [LawfulContainer C] : LawfulContainer (Packet C) where
  overwrite_inside {packet b} shown start data inside := by
    obtain ⟨whole, view, room, rfl⟩ := Packet.view_iff.mp shown
    have width := Packet.length_of_view shown
    obtain ⟨after, written, later, taken⟩ :=
      LawfulContainer.overwrite_inside view (Headers.size + start) data (by omega)
    have read : ((whole.splice (Headers.size + start) data).drop Headers.size).take
        packet.headers.payloadLength.toNat = Bytes.splice
          ((whole.drop Headers.size).take packet.headers.payloadLength.toNat) start data := by
      rw [Bytes.drop_splice_behind start (by omega), Bytes.take_splice_behind (by omega)]
      rw [List.length_drop]
      omega
    have long : Headers.size + packet.headers.payloadLength.toNat ≤
        (whole.splice (Headers.size + start) data).length := by
      rw [Bytes.length_splice (by omega)]
      exact room
    have same := (@Packet.view_iff C _ ⟨after, packet.headers⟩ _).mpr ⟨_, later, long, read.symm⟩
    refine ⟨⟨after, packet.headers⟩, ?_, same, ?_⟩
    · rw [Packet.overwrite_of_view shown inside, written]
      rfl
    · intro length
      rw [Packet.takes_iff same, Packet.takes_iff shown, taken]
  overwrite_outside {packet b} shown start data outside := by
    have payload : packet.payload = .ok b := shown
    refine ⟨.outOfBounds, ?_⟩
    simp only [Container.overwrite, payload, bind, Except.bind, if_pos outside]
    rfl
  overwrite_self {packet b} shown start size inside := by
    obtain ⟨whole, view, room, rfl⟩ := Packet.view_iff.mp shown
    have width := Packet.length_of_view shown
    have same := LawfulContainer.overwrite_self view (Headers.size + start) size (by omega)
    have read : (((whole.drop Headers.size).take packet.headers.payloadLength.toNat).drop
        start).take size = (whole.drop (Headers.size + start)).take size := by
      rw [List.drop_take, List.take_take, List.drop_drop, Nat.min_eq_left (by omega)]
    have copied : ((whole.drop (Headers.size + start)).take size).length = size := by
      rw [List.length_take, List.length_drop]
      omega
    rw [read, Packet.overwrite_of_view shown (by rw [copied]; exact inside), same]
    rfl
  resize_eq {packet b} shown length := by
    by_cases large : UInt16.size ≤ length
    · refine .inr ?_
      simp only [Container.resize, if_pos large]
      rfl
    · obtain ⟨whole, view, -, -⟩ := Packet.view_iff.mp shown
      rcases LawfulContainer.resize_eq view (Headers.size + length) with
        ⟨inner, -, taken, -, -⟩ | refused
      · exact .inl (Packet.resize_of_taken shown (Nat.not_le.mp large) taken)
      · refine .inr ?_
        simp only [Container.resize, if_neg large, bind, Except.bind, refused]
        rfl

end Packets

end GeoRouter
