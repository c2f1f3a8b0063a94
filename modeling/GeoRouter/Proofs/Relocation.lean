import GeoRouter.Proofs.Views

/-!
# Moving a payload

A relocation changes the length of a view and moves a payload in it, in the order in which none of
the payload is cut off. Once it is done the payload is where it was wanted and everything else that
still has room is where it was. A container may refuse the length, and there the order shows: a
refusal after the payload has moved does not move it back.
-/

namespace GeoRouter

/-! ### Octets that move -/

namespace Bytes

/-- The octets with those of a range copied over others. -/
def move (b : Bytes) (source : Range) (target : Nat) : Bytes :=
  b.splice target ((b.drop source.start).take source.size)

/-- The range is in order, and both places lie inside. -/
structure Movable (b : Bytes) (source : Range) (target : Nat) : Prop where
  ordered : source.start ≤ source.stop
  there : source.stop ≤ b.length
  room : target + source.size ≤ b.length

variable {b : Bytes} {source : Range} {target : Nat}

namespace Movable

variable (movable : b.Movable source target)
include movable

theorem inside : source.start + source.size ≤ b.length := by
  have ordered := movable.ordered
  have there := movable.there
  unfold Range.size
  omega

theorem length_copied : ((b.drop source.start).take source.size).length = source.size := by
  have inside := movable.inside
  rw [List.length_take, List.length_drop]
  omega

theorem fits : target + ((b.drop source.start).take source.size).length ≤ b.length := by
  rw [movable.length_copied]
  exact movable.room

theorem length_move : (b.move source target).length = b.length := length_splice movable.fits

theorem moved : ((b.move source target).drop target).take source.size =
    (b.drop source.start).take source.size := by
  have width : (b.take target).length = target := by
    rw [List.length_take]
    have room := movable.room
    omega
  rw [move, splice, List.append_assoc, List.drop_left' width,
    List.take_left' movable.length_copied]

theorem move_eq_self_iff : b.move source target = b ↔
    (b.drop target).take source.size = (b.drop source.start).take source.size := by
  constructor
  · intro same
    rw [← movable.moved, same]
  · intro same
    rw [move, ← same, splice_self movable.room]

end Movable

theorem Resized.slice {before after : Bytes} {length start size : Nat}
    (resized : before.Resized length after) (there : start + size ≤ before.length)
    (stays : start + size ≤ length) :
    (after.drop start).take size = (before.drop start).take size := by
  apply List.ext_getElem?
  intro i
  by_cases inside : i < size
  · rw [List.getElem?_take_of_lt inside, List.getElem?_take_of_lt inside, List.getElem?_drop,
      List.getElem?_drop]
    exact resized.kept (start + i) (by omega) (by omega)
  · rw [List.getElem?_take_eq_none (by omega), List.getElem?_take_eq_none (by omega)]

end Bytes

theorem Relocation.fits_iff {r : Relocation} {present : Nat} : r.fits present = true ↔
    r.source.size = r.target.size ∧ r.source.stop ≤ present ∧ r.target.stop ≤ r.length := by
  simp [fits, and_assoc]

/-- What a relocation is for: the view has the length that was asked for, the payload is in its new
place, and an octet outside of that place stays if there is room for it. -/
structure Relocation.Done (r : Relocation) (before after : Bytes) : Prop where
  width : after.length = r.length
  payload : (after.drop r.target.start).take r.target.size =
    (before.drop r.source.start).take r.source.size
  kept : ∀ i, i < before.length → i < r.length → (i < r.target.start ∨ r.target.stop ≤ i) →
    after[i]? = before[i]?

/-- Room is made, the payload moves, and the length follows. At most one of the changes of length
does anything. -/
theorem Relocation.done_of_moved {r : Relocation} {before now after : Bytes}
    (sizes : r.source.size = r.target.size) (target : r.target.stop ≤ r.length)
    (there : r.source.stop ≤ before.length) (roomy : before.Resized now.length now)
    (one : now.length = r.length ∨ now = before)
    (movable : now.Movable r.source r.target.start)
    (resized : (now.move r.source r.target.start).Resized r.length after) :
    r.Done before after where
  width := resized.width
  payload := by
    have moved := movable.moved
    have there' := movable.there
    have ordered := movable.ordered
    have room := movable.room
    have stood : (now.drop r.source.start).take r.source.size =
        (before.drop r.source.start).take r.source.size := by
      apply roomy.slice <;> unfold Range.size <;> omega
    rw [← sizes, ← stood, ← moved]
    by_cases empty : r.source.size = 0
    · rw [empty, List.take_zero, List.take_zero]
    · apply resized.slice
      · rw [movable.length_move]
        exact room
      · -- A range that is not empty ends behind its start, so it lies in the new view.
        unfold Range.size at sizes empty ⊢
        omega
  kept i was stays outside := by
    have within : i < now.length := by
      rcases one with same | rfl
      · omega
      · exact was
    have unmoved : i < r.target.start ∨ r.target.start +
        ((now.drop r.source.start).take r.source.size).length ≤ i := by
      rw [movable.length_copied, sizes]
      unfold Range.size
      omega
    rw [resized.kept i (by rw [movable.length_move]; exact within) stays, Bytes.move,
      Bytes.getElem?_splice_outside movable.fits unmoved]
    exact roomy.kept i was within

/-! ### Containers -/

namespace Container

variable {C : Type} [Container C] {c : C} {b : Bytes}

theorem copyWithin_eq (shown : view c = .ok b) {source : Range}
    (ordered : source.start ≤ source.stop) (there : source.stop ≤ b.length) (target : Nat) :
    copyWithin c source target = overwrite c target ((b.drop source.start).take source.size) := by
  have inside : source.start + source.size ≤ b.length := by
    unfold Range.size
    omega
  simp only [copyWithin, if_neg (Nat.not_lt.mpr ordered), shown, bind, Except.bind,
    Bytes.slice_eq inside]

theorem relocate_of_unfit (shown : view c = .ok b) {r : Relocation}
    (unfit : r.fits b.length = false) : relocate c r = .error .badRelocation := by
  simp only [relocate, makeRoom, shown, bind, Except.bind, unfit]
  rfl

section Lawful

variable [LawfulContainer C]

theorem resizeUnlessLength_cases (shown : view c = .ok b) (length : Nat) :
    (length = b.length ∨ Takes c length) ∧ (∃ after later,
      resizeUnlessLength c length = .ok (.ok after) ∧ view after = .ok later ∧
        b.Resized length later) ∨
    ¬ (length = b.length ∨ Takes c length) ∧
      resizeUnlessLength c length = .ok (.error ⟨.badSize, c⟩) := by
  by_cases same : b.length = length
  · refine .inl ⟨.inl same.symm, c, b, ?_, shown, same, fun i _ _ => rfl⟩
    simp only [resizeUnlessLength, shown, bind, Except.bind, if_pos same]
    rfl
  · have asked : resizeUnlessLength c length = resize c length := by
      simp only [resizeUnlessLength, shown, bind, Except.bind, if_neg same]
    rw [asked]
    rcases LawfulContainer.resize_eq shown length with ⟨after, later, resized, rest⟩ | refused
    · exact .inl ⟨.inr ⟨after, resized⟩, after, later, resized, rest⟩
    · refine .inr ⟨?_, refused⟩
      rintro (same' | ⟨after, resized⟩)
      · exact same same'.symm
      · cases resized.symm.trans refused

/-- Copying inside the view either moves the octets, and then changes nothing about the lengths
that are taken, or has no meaning. -/
theorem copyWithin_cases (shown : view c = .ok b) (source : Range) (target : Nat) :
    b.Movable source target ∧ (∃ after, copyWithin c source target = .ok after ∧
      view after = .ok (b.move source target) ∧ ∀ length, Takes after length ↔ Takes c length) ∨
    ¬ b.Movable source target ∧ ∃ fault, copyWithin c source target = .error fault := by
  by_cases ordered : source.start ≤ source.stop
  · by_cases there : source.stop ≤ b.length
    · rw [copyWithin_eq shown ordered there]
      by_cases room : target + source.size ≤ b.length
      · have movable : b.Movable source target := ⟨ordered, there, room⟩
        exact .inl ⟨movable, LawfulContainer.overwrite_inside shown _ _ movable.fits⟩
      · refine .inr ⟨fun movable => room movable.room, ?_⟩
        apply LawfulContainer.overwrite_outside shown
        rw [List.length_take, List.length_drop]
        unfold Range.size at room ⊢
        omega
    · refine .inr ⟨fun movable => there movable.there, .outOfBounds, ?_⟩
      have outside : b.slice source.start source.size = .error .outOfBounds := by
        rw [Bytes.slice, if_neg]
        unfold Range.size
        omega
      simp only [copyWithin, if_neg (Nat.not_lt.mpr ordered), shown, bind, Except.bind, outside]
  · refine .inr ⟨fun movable => ordered movable.ordered, .outOfBounds, ?_⟩
    simp only [copyWithin, if_pos (Nat.not_le.mp ordered)]
    rfl

theorem copyWithin_of_same (shown : view c = .ok b) {source : Range} {target : Nat}
    (movable : b.Movable source target) (same : b.move source target = b) :
    copyWithin c source target = .ok c := by
  rw [copyWithin_eq shown movable.ordered movable.there, ← movable.move_eq_self_iff.mp same]
  exact LawfulContainer.overwrite_self shown target source.size movable.room

theorem makeRoom_cases (shown : view c = .ok b) {r : Relocation} (fits : r.fits b.length = true) :
    (∃ roomy now, makeRoom c r = .ok (.ok roomy) ∧ view roomy = .ok now ∧
      b.Resized now.length now ∧
      (r.source.stop ≤ r.length ∧ now.length = r.length ∧
          (r.length = b.length ∨ Takes c r.length) ∨
        r.length < r.source.stop ∧ roomy = c ∧ now = b)) ∨
    (r.source.stop ≤ r.length ∧ ¬ (r.length = b.length ∨ Takes c r.length)) ∧
      makeRoom c r = .ok (.error ⟨.badSize, c⟩) := by
  by_cases grows : r.source.stop ≤ r.length
  · have asked : makeRoom c r = resizeUnlessLength c r.length := by
      simp only [makeRoom, shown, bind, Except.bind, fits, if_pos grows]
      rfl
    rw [asked]
    rcases resizeUnlessLength_cases shown r.length with
      ⟨accepted, roomy, now, resized, view, kept⟩ | ⟨rejected, refused⟩
    · refine .inl ⟨roomy, now, resized, view, ?_, .inl ⟨grows, kept.width, accepted⟩⟩
      rw [kept.width]
      exact kept
    · exact .inr ⟨⟨grows, rejected⟩, refused⟩
  · refine .inl ⟨c, b, ?_, shown, ⟨rfl, fun i _ _ => rfl⟩, .inr ⟨Nat.not_le.mp grows, rfl, rfl⟩⟩
    simp only [makeRoom, shown, bind, Except.bind, fits, if_neg grows]
    rfl

/-- What a relocation of a payload in a view can come to. -/
inductive Relocates (c : C) (b : Bytes) (r : Relocation) :
    Except Fault (Answer SizeError C C) → Prop where
  | done {after : C} {later : Bytes} (accepted : r.length = b.length ∨ Takes c r.length)
    (shown : view after = .ok later) (done : r.Done b later) : Relocates c b r (.ok (.ok after))
  /-- The length is refused before the payload moves. -/
  | refused (rejected : ¬ (r.length = b.length ∨ Takes c r.length))
    (grows : r.source.stop ≤ r.length) : Relocates c b r (.ok (.error ⟨.badSize, c⟩))
  /-- The length is refused after the payload has moved. -/
  | refusedLate {left : C} (rejected : ¬ (r.length = b.length ∨ Takes c r.length))
    (shrinks : r.length < r.source.stop) (movable : b.Movable r.source r.target.start)
    (copied : copyWithin c r.source r.target.start = .ok left)
    (shown : view left = .ok (b.move r.source r.target.start)) :
    Relocates c b r (.ok (.error ⟨.badSize, left⟩))
  | fault {fault : Fault}
    (improper : ¬ (r.source.start ≤ r.source.stop ∧ r.target.start ≤ r.length)) :
    Relocates c b r (.error fault)

theorem relocate_relocates (shown : view c = .ok b) {r : Relocation}
    (fits : r.fits b.length = true) : Relocates c b r (relocate c r) := by
  obtain ⟨sizes, there, target⟩ := Relocation.fits_iff.mp fits
  rcases makeRoom_cases shown fits with
    ⟨roomy, now, made, view, kept, way⟩ | ⟨⟨grows, rejected⟩, made⟩
  · have went : relocate c r = (copyWithin roomy r.source r.target.start).bind
        (resizeUnlessLength · r.length) := by
      simp only [relocate, made, bind, Except.bind]
    rw [went]
    rcases copyWithin_cases view r.source r.target.start with
      ⟨movable, moved, copied, after, takes⟩ | ⟨still, fault, copied⟩
    · have one : now.length = r.length ∨ now = b := way.imp (·.2.1) (·.2.2)
      rw [copied]
      simp only [Except.bind]
      rcases resizeUnlessLength_cases after r.length with
        ⟨accepted, last, later, resized, view, cut⟩ | ⟨rejected, refused⟩
      · rw [resized]
        refine .done ?_ view (Relocation.done_of_moved sizes target there kept one movable cut)
        rcases way with ⟨-, -, accepted⟩ | ⟨-, rfl, rfl⟩
        · exact accepted
        · rw [movable.length_move, takes] at accepted
          exact accepted
      · rw [refused]
        rw [movable.length_move, takes] at rejected
        rcases way with ⟨-, width, -⟩ | ⟨shrinks, rfl, rfl⟩
        · exact absurd (.inl width.symm) rejected
        · exact .refusedLate rejected shrinks movable copied after
    · rw [copied]
      refine .fault ?_
      rintro ⟨ordered, starts⟩
      have goes : r.target.start + r.source.size ≤ r.length := by
        rw [sizes]
        unfold Range.size
        omega
      rcases way with ⟨grows, width, -⟩ | ⟨shrinks, -, rfl⟩
      · exact still ⟨ordered, by omega, by omega⟩
      · exact still ⟨ordered, there, by omega⟩
  · have stopped : relocate c r = .ok (.error ⟨.badSize, c⟩) := by
      simp only [relocate, made, bind, Except.bind]
      rfl
    rw [stopped]
    exact .refused rejected grows

/-- A relocation that is in order, to a length that a word can hold with headers in front of it, is
answered, and granted just if the view has the length already or takes it. Whenever one is granted,
the payload has moved and the rest has stayed. -/
theorem relocation_keeps_payload (shown : view c = .ok b) {r : Relocation}
    (fits : r.fits b.length = true) :
    (r.length < 0x4000000000000000 → r.source.start ≤ r.source.stop →
      r.target.start ≤ r.length → ∃ answer, relocate c r = .ok answer ∧
        (answer.isOk = true ↔ r.length = b.length ∨ Takes c r.length)) ∧
    ∀ after, relocate c r = .ok (.ok after) → ∃ later, view after = .ok later ∧ r.Done b later := by
  have relocates := relocate_relocates shown fits
  generalize relocate c r = result at relocates
  constructor
  · intro _ ordered starts
    cases relocates with
    | done accepted => exact ⟨_, rfl, iff_of_true rfl accepted⟩
    | refused rejected | refusedLate rejected => exact ⟨_, rfl, iff_of_false nofun rejected⟩
    | fault improper => exact absurd ⟨ordered, starts⟩ improper
  · intro after granted
    cases relocates with
    | done accepted shown done =>
      obtain rfl := Except.ok.inj (Except.ok.inj granted)
      exact ⟨_, shown, done⟩
    | refused | refusedLate => cases Except.ok.inj granted
    | fault => cases granted

/-- A refused relocation leaves the container as it was just if it was refused before the payload
moved, or if the octets of the payload stood in its new place already. Otherwise the payload has
moved, in a view of the old length. -/
theorem refused_relocation_undone_iff (shown : view c = .ok b) {r : Relocation}
    (fits : r.fits b.length = true) {refusal : Refusal SizeError C}
    (refused : relocate c r = .ok (.error refusal)) :
    (refusal.left = c ↔ r.source.stop ≤ r.length ∨
      (b.drop r.target.start).take r.target.size = (b.drop r.source.start).take r.source.size) ∧
    view refusal.left =
      .ok (if r.source.stop ≤ r.length then b else b.move r.source r.target.start) := by
  obtain ⟨sizes, -, -⟩ := Relocation.fits_iff.mp fits
  have relocates := relocate_relocates shown fits
  rw [refused] at relocates
  cases relocates with
  | refused rejected grows =>
    rw [if_pos grows]
    exact ⟨iff_of_true rfl (.inl grows), shown⟩
  | refusedLate rejected shrinks movable copied moved =>
    rw [if_neg (Nat.not_le.mpr shrinks), ← sizes, ← movable.move_eq_self_iff]
    refine ⟨?_, moved⟩
    constructor
    · rintro rfl
      exact .inr (Except.ok.inj (moved.symm.trans shown))
    · rintro (grows | same)
      · exact absurd grows (Nat.not_le.mpr shrinks)
      · exact Except.ok.inj (copied.symm.trans (copyWithin_of_same shown movable same))

end Lawful

/-- Five octets of payload behind headers, in a frame that can only shrink. -/
def borrowedPacket : Packet (Frame Buffer) where
  inner := ⟨⟨.shrinkOnly, List.replicate 74 0 ++ [1, 2, 3, 4, 5]⟩,
    ⟨.broadcast, .broadcast, .geoNetworking⟩⟩
  headers := {
    lifetime := ⟨0⟩
    remainingHops := 1
    next := .btpA
    trafficClass := {}
    mobile := false
    payloadLength := 5
    maxHops := 1
    extended := ⟨.first, {}, {}⟩ }

/-- Its payload moves over where it was, and its front goes, as does the end of the buffer. -/
theorem relocation_keeps_payload_of_overlapping : ∃ after : Packet (Frame Buffer),
    relocate borrowedPacket ⟨4, ⟨1, 5⟩, ⟨0, 4⟩⟩ = .ok (.ok after) ∧
      view after = .ok [2, 3, 4, 5] := by
  obtain ⟨answered, keeps⟩ := relocation_keeps_payload
    (show view borrowedPacket = .ok [1, 2, 3, 4, 5] from rfl)
    (show Relocation.fits ⟨4, ⟨1, 5⟩, ⟨0, 4⟩⟩ 5 = true from rfl)
  obtain ⟨answer, relocated, granted⟩ := answered (by decide) (by decide) (by decide)
  have fine : answer.isOk = true := granted.mpr (.inr ⟨_, rfl⟩)
  cases answer with
  | error refusal => cases fine
  | ok after =>
    obtain ⟨later, shown, done⟩ := keeps after relocated
    have whole : later.take 4 = later := List.take_of_length_le (Nat.le_of_eq done.width)
    have moved : later.take 4 = [2, 3, 4, 5] := done.payload
    rw [whole] at moved
    exact ⟨after, relocated, shown.trans (congrArg Except.ok moved)⟩

/-- A fixed buffer that is to grow stays as it is. -/
theorem refused_relocation_undone_of_growing : ∃ refusal,
    relocate (Buffer.ofFixed [1, 2, 3]) ⟨4, ⟨0, 3⟩, ⟨1, 4⟩⟩ = .ok (.error refusal) ∧
      refusal.left = .ofFixed [1, 2, 3] := by
  have refused : relocate (Buffer.ofFixed [1, 2, 3]) ⟨4, ⟨0, 3⟩, ⟨1, 4⟩⟩ =
      .ok (.error ⟨.badSize, .ofFixed [1, 2, 3]⟩) := rfl
  obtain ⟨undone, -⟩ := refused_relocation_undone_iff (b := [1, 2, 3]) rfl rfl refused
  exact ⟨_, refused, undone.mpr (.inl (by decide))⟩

/-- A fixed buffer that is to shrink is left with the payload in its new place. -/
theorem refused_relocation_leaves_payload_moved :
    ¬ ∀ (buffer : Buffer) (r : Relocation) (refusal : Refusal SizeError Buffer),
      r.source.start ≤ r.source.stop → r.target.start ≤ r.target.stop →
      r.fits buffer.bytes.length = true → relocate buffer r = .ok (.error refusal) →
      refusal.left = buffer := by
  intro undone
  have same := undone (.ofFixed [1, 2, 3]) ⟨2, ⟨2, 3⟩, ⟨0, 1⟩⟩ ⟨.badSize, .ofFixed [3, 2, 3]⟩
    (by decide) (by decide) rfl rfl
  exact absurd same (by decide)

end Container
end GeoRouter
