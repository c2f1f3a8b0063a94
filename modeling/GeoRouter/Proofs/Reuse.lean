import GeoRouter.Ethernet.Adapter
import GeoRouter.Proofs.Framing
import GeoRouter.Proofs.Relocation

/-!
# Frames made from other frames

A frame that is made from another one, of whatever length, ends with the octets that the other one
ended with, as many as both payloads have room for. They are moved as the payload of a relocation
whose ranges are taken from the two ends, so the relocation is always in order, and the header is
written over the front only when they have left it. All of this needs a length that a word can hold:
any other one comes out too short even for the header, and no frame is made.
-/

namespace GeoRouter
namespace FrameRequest

open Container (Takes relocate)

/-- The octets that stay at the end of a frame of which `present` octets were there. -/
def kept (request : FrameRequest) (present : Nat) : Nat :=
  min request.payload (present - FrameHeader.size)

/-- The end of the old frame becomes the end of the new one. -/
def relocation (request : FrameRequest) (present : Nat) : Relocation where
  length := request.length present
  source := ⟨present - request.kept present, present⟩
  target := ⟨request.length present - request.kept present, request.length present⟩

/-- The length next to `present` octets is that of a header and the payload. -/
def Whole (request : FrameRequest) (present : Nat) : Prop :=
  request.length present = FrameHeader.size + request.payload

variable (request : FrameRequest)

theorem kept_le_payload (present : Nat) : request.kept present ≤ request.payload :=
  Nat.min_le_left ..

theorem kept_le_present (present : Nat) : request.kept present ≤ present := by
  unfold kept
  omega

theorem size_source (present : Nat) :
    (request.relocation present).source.size = request.kept present :=
  Nat.sub_sub_self (request.kept_le_present present)

section Whole

variable {request : FrameRequest} {present : Nat} (whole : request.Whole present)
include whole

theorem Whole.kept_le_length : request.kept present ≤ request.length present := by
  have below := request.kept_le_payload present
  rw [whole]
  omega

theorem Whole.size_target : (request.relocation present).target.size = request.kept present :=
  Nat.sub_sub_self whole.kept_le_length

theorem Whole.relocation_fits : (request.relocation present).fits present = true := by
  rw [Relocation.fits_iff, size_source, whole.size_target]
  exact ⟨rfl, Nat.le_refl _, Nat.le_refl _⟩

end Whole

/-- A sum that a word can not hold has wrapped around by one word, as the payload has its place
in one. -/
theorem length_of_wrapped {present : Nat} (word : request.payload < UInt64.size)
    (wrapped : ¬ request.Whole present) : request.length present < FrameHeader.size := by
  have beyond : max UInt64.size (present + 1) ≤ FrameHeader.size + request.payload :=
    Nat.not_lt.mp fun inside => wrapped (Nat.mod_eq_of_lt inside)
  unfold length
  rw [Nat.mod_eq_sub_mod beyond]
  exact Nat.lt_of_le_of_lt (Nat.mod_le ..) (by omega)

variable {C : Type} [Container C]

theorem reuse_of_relocate {frame : Frame C} {old : Bytes} (shown : frame.whole = .ok old)
    (long : FrameHeader.size ≤ old.length) :
    request.reuse frame = (relocate frame.inner (request.relocation old.length)).bind fun
      | .error refusal => .ok (.error ⟨.ofSize refusal.cause, refusal.left⟩)
      | .ok c => (Frame.emit c request.header).map .ok := by
  simp only [reuse, shown, bind, Except.bind, if_neg (Nat.not_lt.mpr long)]
  rfl

variable [LawfulContainer C]

theorem emit_of_done {c : C} {old later : Bytes} (whole : request.Whole old.length)
    (shown : Container.view c = .ok later)
    (done : (request.relocation old.length).Done old later) :
    ∃ next now, Frame.emit c request.header = .ok next ∧ next.header = request.header ∧
      next.whole = .ok now ∧ now.length = FrameHeader.size + request.payload ∧
      now.take FrameHeader.size = request.header.encode ∧
      now.drop (now.length - request.kept old.length) =
        old.drop (old.length - request.kept old.length) := by
  have width : later.length = FrameHeader.size + request.payload := done.width.trans whole
  have below := request.kept_le_payload old.length
  have inside : 0 + request.header.encode.length ≤ later.length := by
    rw [width, FrameHeader.length_encode]
    omega
  have same := Bytes.length_splice inside
  obtain ⟨after, written, view, -⟩ := LawfulContainer.overwrite_inside shown 0 _ inside
  refine ⟨⟨after, request.header⟩, _, ?_, rfl, view, same.trans width, ?_, ?_⟩
  · simp only [Frame.emit, written, bind, Except.bind]
    rfl
  · rw [Bytes.splice_zero, List.take_left' (FrameHeader.length_encode _)]
  · have behind : 0 + request.header.encode.length ≤ later.length - request.kept old.length := by
      rw [FrameHeader.length_encode, width]
      omega
    have tail : (later.drop (later.length - request.kept old.length)).take
        (request.kept old.length) = (old.drop (old.length - request.kept old.length)).take
          (request.kept old.length) := by
      have payload := done.payload
      rw [size_source, whole.size_target] at payload
      rw [done.width]
      exact payload
    -- Both ends have just the octets that are kept.
    rw [same, Bytes.drop_splice inside behind]
    rwa [List.take_of_length_le, List.take_of_length_le] at tail
    · apply Nat.le_of_eq
      rw [List.length_drop, Nat.sub_sub_self (request.kept_le_present _)]
    · apply Nat.le_of_eq
      rw [List.length_drop, Nat.sub_sub_self (by omega)]

theorem emit_of_short {c : C} {b : Bytes} (shown : Container.view c = .ok b)
    (short : b.length < FrameHeader.size) :
    ∃ fault, Frame.emit c request.header = .error fault := by
  obtain ⟨fault, outside⟩ := LawfulContainer.overwrite_outside shown 0 request.header.encode
    (by rw [FrameHeader.length_encode]; omega)
  refine ⟨fault, ?_⟩
  simp only [Frame.emit, outside, bind, Except.bind]

theorem reuse_of_whole {frame : Frame C} {old : Bytes} (shown : frame.whole = .ok old)
    (long : FrameHeader.size ≤ old.length) (whole : request.Whole old.length) :
    ∃ answer, request.reuse frame = .ok answer ∧
      (answer.isOk = true ↔ request.length old.length = old.length ∨
        Takes frame.inner (request.length old.length)) ∧
      ∀ next, answer = .ok next → next.header = request.header ∧ ∃ now, next.whole = .ok now ∧
        now.length = FrameHeader.size + request.payload ∧
        now.take FrameHeader.size = request.header.encode ∧
        now.drop (now.length - request.kept old.length) =
          old.drop (old.length - request.kept old.length) := by
  have relocates := Container.relocate_relocates shown whole.relocation_fits
  rw [request.reuse_of_relocate shown long]
  generalize relocate frame.inner (request.relocation old.length) = result at relocates
  cases relocates with
  | done accepted view done =>
    obtain ⟨next, now, emitted, header, shows⟩ := request.emit_of_done whole view done
    refine ⟨.ok next, ?_, iff_of_true rfl accepted, ?_⟩
    · simp only [Except.bind, emitted]
      rfl
    · intro same granted
      obtain rfl := Except.ok.inj granted
      exact ⟨header, now, shows⟩
  | refused rejected | refusedLate rejected =>
    exact ⟨_, rfl, iff_of_false nofun rejected, nofun⟩
  | fault improper =>
    exact absurd ⟨Nat.sub_le .., Nat.sub_le ..⟩ improper

/-- Where the sum has wrapped around nothing is made: the tail can not move, or the length is
refused, or it is too short for the header. -/
theorem reuse_of_wrapped {frame : Frame C} {old : Bytes} (shown : frame.whole = .ok old)
    (long : FrameHeader.size ≤ old.length) (word : request.payload < UInt64.size)
    (wrapped : ¬ request.Whole old.length) (next : Frame C) :
    request.reuse frame ≠ .ok (.ok next) := by
  have short := request.length_of_wrapped word wrapped
  rw [request.reuse_of_relocate shown long]
  cases fits : (request.relocation old.length).fits old.length with
  | false =>
    rw [Container.relocate_of_unfit shown fits]
    nofun
  | true =>
    have relocates := Container.relocate_relocates shown fits
    generalize relocate frame.inner (request.relocation old.length) = result at relocates
    cases relocates with
    | done accepted view done =>
      have width : _ = request.length old.length := done.width
      obtain ⟨fault, outside⟩ := request.emit_of_short view (width ▸ short)
      simp only [Except.bind, outside]
      nofun
    | refused | refusedLate | fault => nofun

/-- A frame that is made from another one has the header and the length of the payload that were
asked for, and it ends as the other one did. As long as a word holds its length, it is made whenever
that stays or is taken, and no range that is moved for it is ever out of order. -/
theorem reuse_keeps_tail {frame : Frame C} {old : Bytes} (shown : frame.whole = .ok old)
    (long : 14 ≤ old.length) (word : request.payload < 0x10000000000000000) :
    (14 + request.payload < 0x10000000000000000 → ∃ answer, request.reuse frame = .ok answer ∧
      (answer.isOk = true ↔ 14 + request.payload = old.length ∨
        Takes frame.inner (14 + request.payload))) ∧
    ∀ next, request.reuse frame = .ok (.ok next) → ∃ now, next.whole = .ok now ∧
      now.length = 14 + request.payload ∧
      next.header = request.header ∧
      now.take 14 = request.header.destination.octets ++ request.header.source.octets ++
        BigEndian.encode 2 request.header.kind.code.toNat ∧
      now.drop (now.length - min request.payload (old.length - 14)) =
        old.drop (old.length - min request.payload (old.length - 14)) := by
  constructor
  · intro fits
    have whole : request.Whole old.length := request.length_eq (.inl fits)
    obtain ⟨answer, made, granted, -⟩ := request.reuse_of_whole shown long whole
    rw [whole] at granted
    exact ⟨answer, made, granted⟩
  · intro next made
    by_cases whole : request.Whole old.length
    · obtain ⟨answer, same, -, keeps⟩ := request.reuse_of_whole shown long whole
      obtain ⟨header, now, shows, width, front, tail⟩ :=
        keeps next (Except.ok.inj (same.symm.trans made))
      exact ⟨now, shows, width, header, front, tail⟩
    · exact absurd made (request.reuse_of_wrapped shown long word whole next)

/-- A broadcast with five octets of payload, in a buffer that can only shrink. -/
def borrowedFrame : Frame Buffer :=
  let header : FrameHeader := ⟨⟨2, 0, 0, 0, 0, 1⟩, .broadcast, .geoNetworking⟩
  ⟨⟨.shrinkOnly, header.encode ++ [1, 2, 3, 4, 5]⟩, header⟩

/-- A frame for four octets keeps the last four of five, which move by one. -/
theorem reuse_keeps_tail_of_borrowed : ∃ next now,
    reuse ⟨⟨.broadcast, ⟨2, 0, 0, 0, 0, 9⟩, .unknown 0x0800⟩, 4⟩ borrowedFrame = .ok (.ok next) ∧
      next.whole = .ok now ∧ now.length = 18 ∧
      now.take 14 = [2, 0, 0, 0, 0, 9, 0xff, 0xff, 0xff, 0xff, 0xff, 0xff, 8, 0] ∧
      now.drop 14 = [2, 3, 4, 5] := by
  obtain ⟨answers, keeps⟩ :=
    reuse_keeps_tail ⟨⟨.broadcast, ⟨2, 0, 0, 0, 0, 9⟩, .unknown 0x0800⟩, 4⟩
      (show borrowedFrame.whole = .ok borrowedFrame.inner.bytes from rfl) (by decide) (by decide)
  obtain ⟨answer, made, granted⟩ := answers (by decide)
  have fine : answer.isOk = true := granted.mpr (.inr ⟨_, rfl⟩)
  cases answer with
  | error refusal => cases fine
  | ok next =>
    obtain ⟨now, whole, width, -, front, tail⟩ := keeps next made
    rw [width] at tail
    exact ⟨next, now, made, whole, width, front, tail⟩

/-- With a payload as long as a word can tell, next to the header, nothing of a frame is left, and
the tail of another one can not move there. -/
theorem reuse_asks_for_disorder : ¬ ∀ (request : FrameRequest) (frame : Frame Buffer) (old : Bytes),
    request.payload < 0x10000000000000000 → frame.whole = .ok old → 14 ≤ old.length →
    request.reuse frame ≠ .error .badRelocation := by
  intro ordered
  exact ordered ⟨⟨.broadcast, ⟨2, 0, 0, 0, 0, 9⟩, .unknown 0x0800⟩, 0xfffffffffffffff2⟩
    borrowedFrame borrowedFrame.inner.bytes (by decide) rfl (by decide) rfl

end FrameRequest
end GeoRouter
