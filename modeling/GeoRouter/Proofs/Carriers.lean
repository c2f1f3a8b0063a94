import GeoRouter.Ethernet.Frame
import GeoRouter.Proofs.Octets

/-!
# Containers that stand in octets

A container shows what is behind the front of one octet string. Writing into its view is writing
into that string, and a length change of the view is one of the string, or is refused and changes
nothing. Buffers of every kind do this without a front; a frame adds its header to the front of what
it is in.
-/

namespace GeoRouter

class Carrier (C : Type) extends Container C where
  octets : C → Bytes
  /-- The number of octets in front of the view. -/
  front : Nat
  view_eq (c : C) : view c = (octets c).suffix front
  overwrite_eq (c : C) {start : Nat} {data : Bytes}
    (inside : front + start + data.length ≤ (octets c).length) :
    ∃ after, overwrite c start data = .ok after ∧
      octets after = (octets c).splice (front + start) data
  resize_eq (c : C) (length : Nat) :
    (∃ after, resize c length = .ok (.ok after) ∧
      octets after = (octets c).resize (front + length)) ∨
    resize c length = .ok (.error ⟨.badSize, c⟩)

instance : Carrier Buffer where
  octets := Buffer.bytes
  front := 0
  view_eq buffer := (Bytes.suffix_eq (Nat.zero_le _)).symm
  overwrite_eq buffer start data inside := by
    rw [Nat.zero_add] at inside ⊢
    refine ⟨⟨buffer.resizing, buffer.bytes.splice start data⟩, ?_, rfl⟩
    simp only [Container.overwrite, bind, Except.bind, Bytes.overwrite_eq inside]
    rfl
  resize_eq buffer length := by
    rw [Nat.zero_add]
    simp only [Container.resize, Buffer.resize]
    by_cases taken : buffer.canTake length
    · exact .inl ⟨_, congrArg Except.ok (if_pos taken), rfl⟩
    · exact .inr (congrArg Except.ok (if_neg taken))

theorem Bytes.suffix_suffix (b : Bytes) (m n : Nat) :
    (b.suffix m).bind (·.suffix n) = b.suffix (m + n) := by
  unfold suffix
  by_cases first : m ≤ b.length
  · rw [if_pos first]
    simp only [Except.bind, List.length_drop, List.drop_drop]
    by_cases second : m + n ≤ b.length
    · rw [if_pos second, if_pos (by omega)]
    · rw [if_neg second, if_neg (by omega)]
  · rw [if_neg first, if_neg (by omega)]
    rfl

instance {C : Type} [Carrier C] : Carrier (Frame C) where
  octets frame := Carrier.octets frame.inner
  front := Carrier.front C + FrameHeader.size
  view_eq frame := by
    rw [← Bytes.suffix_suffix, ← Carrier.view_eq]
    rfl
  overwrite_eq frame start data inside := by
    rw [Nat.add_assoc (Carrier.front C)] at inside ⊢
    obtain ⟨after, written, octets⟩ := Carrier.overwrite_eq frame.inner inside
    refine ⟨{ frame with inner := after }, ?_, octets⟩
    have header : Container.view frame.inner =
        .ok ((Carrier.octets frame.inner).drop (Carrier.front C)) := by
      rw [Carrier.view_eq, Bytes.suffix_eq (by omega)]
    have behind : FrameHeader.size ≤
        ((Carrier.octets frame.inner).drop (Carrier.front C)).length := by
      rw [List.length_drop]
      omega
    simp only [Container.overwrite, Frame.whole, header, bind, Except.bind, discard,
      Functor.discard, Functor.mapConst, Except.map, Function.comp, Bytes.suffix_eq behind]
    simp only [written]
    rfl
  resize_eq frame length := by
    rw [Nat.add_assoc, Nat.add_comm FrameHeader.size]
    rcases Carrier.resize_eq frame.inner (length + FrameHeader.size) with
      ⟨after, resized, octets⟩ | refused
    · refine .inl ⟨{ frame with inner := after }, ?_, octets⟩
      simp only [Container.resize, bind, Except.bind]
      rw [resized]
      rfl
    · refine .inr ?_
      simp only [Container.resize, bind, Except.bind]
      rw [refused]
      rfl

end GeoRouter
