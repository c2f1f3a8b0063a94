import GeoRouter.Proofs.Numbering

/-!
# Half the range

Of two readings of a counter that starts again, the newer one is at most half the range ahead. A
range of even size leaves one pair of readings at a time that are half of it apart either way, and
there the smaller number counts as the newer one, as if the counter had just started again. So one
of two different readings is always newer, and never both.
-/

namespace GeoRouter

namespace Wraparound

/-- How readings of a counter with twice `span` values compare. -/
structure Compares {α : Type} [DecidableEq α] {w : Nat} (span : Nat) (reading : α → BitVec w)
    (newer : α → α → Bool) : Prop where
  /-- Two readings are the same, or one of them is the newer one. -/
  one_of_three (a b : α) : [decide (a = b), newer a b, newer b a].count true = 1
  newer_iff (a b : α) : newer a b = true ↔
    1 ≤ (reading a - reading b).toNat ∧ (reading a - reading b).toNat ≤ span - 1 ∨
      (reading a - reading b).toNat = span ∧ (reading a).toNat < (reading b).toNat
  /-- Of `span` readings in a row, wherever they start, the later ones are newer. -/
  in_a_row (base : BitVec w) (i j : Nat) (a b : α) : i < span → j < span →
    reading a = base + BitVec.ofNat w i → reading b = base + BitVec.ofNat w j →
    (newer a b = true ↔ j < i)
  transitive_in_a_row (base : BitVec w) (i j k : Nat) (a b c : α) : i < span → j < span →
    k < span → reading a = base + BitVec.ofNat w i → reading b = base + BitVec.ofNat w j →
    reading c = base + BitVec.ofNat w k → newer a b = true → newer b c = true → newer a c = true

section Comparison

variable {w span : Nat} (even : span + span = (BitVec.allOnes w).toNat + 1)
include even

theorem half_eq : half w = span - 1 := by
  unfold half
  omega

theorem newer_iff_way (a b : BitVec w) : newer a b = true ↔
    1 ≤ (a - b).toNat ∧ (a - b).toNat ≤ span - 1 ∨
      (a - b).toNat = span ∧ a.toNat < b.toNat := by
  have boundA := toNat_le a
  have boundB := toNat_le b
  rw [newer_iff, half_eq even]
  rcases toNat_sub_cases a b with ⟨order, way⟩ | ⟨order, way⟩ <;> omega

/-- The ways up and down between two readings make up the range, so that one of them is the shorter
one, or begins at the greater number. -/
theorem newer_swap {a b : BitVec w} (apart : a ≠ b) : newer a b = !newer b a := by
  have differ : a.toNat ≠ b.toNat := fun same => apart (BitVec.eq_of_toNat_eq same)
  have boundA := toNat_le a
  have boundB := toNat_le b
  rw [Bool.eq_iff_iff, Bool.not_eq_true', ← Bool.not_eq_true, newer_iff, newer_iff, half_eq even]
  omega

theorem newer_in_a_row (base : BitVec w) {i j : Nat} (first : i < span) (second : j < span) :
    newer (base + BitVec.ofNat w i) (base + BitVec.ofNat w j) = true ↔ j < i := by
  have size : 2 ^ w = span + span := by
    rw [even, BitVec.toNat_allOnes]
    exact (Nat.sub_add_cancel Nat.one_le_two_pow).symm
  have offset {n : Nat} (near : n < span) : (base + BitVec.ofNat w n - base).toNat = n := by
    rw [BitVec.add_comm, BitVec.add_sub_cancel, BitVec.toNat_ofNat, size]
    exact Nat.mod_eq_of_lt (by omega)
  have middle := half_eq even
  have near : (base + BitVec.ofNat w i - base).toNat ≤ half w := by
    rw [offset first]
    omega
  have other : (base + BitVec.ofNat w j - base).toNat ≤ half w := by
    rw [offset second]
    omega
  rw [newer_iff_offset near other, offset first, offset second]

theorem compares {α : Type} [DecidableEq α] {reading : α → BitVec w}
    (injective : Function.Injective reading) :
    Compares span reading fun a b => newer (reading a) (reading b) where
  one_of_three a b := by
    by_cases same : a = b
    · subst same
      simp [newer]
    · rw [newer_swap even fun equal => same (injective equal), decide_eq_false same]
      cases newer (reading b) (reading a) <;> rfl
  newer_iff a b := newer_iff_way even (reading a) (reading b)
  in_a_row base i j a b first second readA readB := by
    rw [readA, readB]
    exact newer_in_a_row even base first second
  transitive_in_a_row base i j k a b c first second third readA readB readC aheadA aheadB := by
    rw [readA, readB, newer_in_a_row even base first second] at aheadA
    rw [readB, readC, newer_in_a_row even base second third] at aheadB
    rw [readA, readC, newer_in_a_row even base first third]
    exact Nat.lt_trans aheadB aheadA

end Comparison

end Wraparound

namespace Timestamp

theorem val_injective : Function.Injective val := by
  intro a b same
  exact congrArg mk same

/-- The milliseconds since the Unix epoch may be a word of 64 bits, from which the start of 2004 is
taken and then the lower half kept. -/
theorem ofUnixMillis_eq_word (t : BitVec 64) :
    ofUnixMillis t.toNat = ⟨(t - 1072915200000).setWidth 32⟩ := by
  have bound := t.isLt
  have start : epoch = 1072915200000 := rfl
  have word : (1072915200000 : BitVec 64).toNat = 1072915200000 := rfl
  refine congrArg mk (BitVec.eq_of_toNat_eq ?_)
  rw [BitVec.toNat_ofInt, BitVec.toNat_setWidth, BitVec.toNat_sub, word, start]
  omega

theorem newer_of_later (t : Nat) {d : Nat} (some : 0 < d) (few : d < 0x80000000) :
    (ofUnixMillis (t + d : Nat)).newer (ofUnixMillis t) = true := by
  have later : ((ofUnixMillis (t + d : Nat)).val - (ofUnixMillis t).val).toNat = d := by
    rw [offset_ofUnixMillis (Nat.le_add_right t d) (by omega)]
    exact Nat.add_sub_cancel_left t d
  have start : ((ofUnixMillis t).val - (ofUnixMillis t).val).toNat = 0 := by
    rw [BitVec.sub_self]
    rfl
  have near : ((ofUnixMillis (t + d : Nat)).val - (ofUnixMillis t).val).toNat ≤
      Wraparound.half 32 := Nat.le_trans (Nat.le_of_eq later) (Nat.le_of_lt_succ few)
  rw [newer, Wraparound.newer_iff_offset near (Nat.le_trans (Nat.le_of_eq start) (Nat.zero_le _)),
    later, start]
  exact some

end Timestamp

theorem SequenceNumber.val_injective : Function.Injective SequenceNumber.val := by
  intro a b same
  exact congrArg mk same

/-- Timestamps and sequence numbers tell the newer of two readings apart from the older one, all the
way around: by the shorter of the ways between them, and over half the range by the smaller number.
Along any half of the range this is the order in which the readings follow each other. So the
timestamp of a moment is newer than that of any moment less than half the range before it, whether
the clock has started again in between or has not yet started. -/
theorem readings_compare_around :
    Wraparound.Compares 0x80000000 Timestamp.val Timestamp.newer ∧
      Wraparound.Compares 0x8000 SequenceNumber.val SequenceNumber.newer ∧
      (∀ t : BitVec 64, Timestamp.ofUnixMillis t.toNat = ⟨(t - 1072915200000).setWidth 32⟩) ∧
      ∀ t d : Nat, 0 < d → d < 0x80000000 →
        (Timestamp.ofUnixMillis (t + d : Nat)).newer (Timestamp.ofUnixMillis t) = true := by
  refine ⟨?_, ?_, Timestamp.ofUnixMillis_eq_word, fun t d => Timestamp.newer_of_later t⟩
  · exact Wraparound.compares (by decide) Timestamp.val_injective
  · exact Wraparound.compares (by decide) SequenceNumber.val_injective

/-- Two moments on either side of the start of 2004, and three numbers around the end. -/
theorem readings_compare_around_of_wrapped :
    (0 < 2 ∧ 2 < 0x80000000 ∧
      (Timestamp.ofUnixMillis 1072915200001).newer (.ofUnixMillis 1072915199999) = true) ∧
    (5 < 0x8000 ∧ (⟨3⟩ : SequenceNumber).val = 0xfffe + BitVec.ofNat 16 5 ∧
      (⟨0xffff⟩ : SequenceNumber).val = 0xfffe + BitVec.ofNat 16 1 ∧
      (⟨3⟩ : SequenceNumber).newer ⟨0xffff⟩ = true ∧
      (⟨0xffff⟩ : SequenceNumber).newer ⟨0xfffe⟩ = true ∧
      (⟨3⟩ : SequenceNumber).newer ⟨0xfffe⟩ = true) := by
  obtain ⟨-, numbers, -, moments⟩ := readings_compare_around
  have first : (⟨3⟩ : SequenceNumber).newer ⟨0xffff⟩ = true :=
    (numbers.in_a_row 0xfffe 5 1 _ _ (by decide) (by decide) rfl rfl).mpr (by decide)
  have second : (⟨0xffff⟩ : SequenceNumber).newer ⟨0xfffe⟩ = true :=
    (numbers.in_a_row 0xfffe 1 0 _ _ (by decide) (by decide) rfl rfl).mpr (by decide)
  have across := numbers.transitive_in_a_row 0xfffe 5 1 0 _ _ _ (by decide) (by decide) (by decide)
    rfl rfl rfl first second
  exact ⟨⟨by decide, by decide, moments 1072915199999 2 (by decide) (by decide)⟩,
    by decide, rfl, rfl, first, second, across⟩

end GeoRouter
