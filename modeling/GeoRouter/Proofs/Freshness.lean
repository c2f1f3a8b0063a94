import GeoRouter.Proofs.Locations

/-!
# Freshness of stamps

Timestamp and sequence number together are the stamp of a packet. A wrapping counter has an order
only inside a window of half its range, where `newer` is the order along the window. So has the
stamp if the timestamps share a window and the numbers of each timestamp share one.
-/

namespace GeoRouter

namespace Wraparound

variable {w : Nat}

/-- The way from `y` up to `x` may lead around the end. -/
theorem toNat_sub_cases (x y : BitVec w) :
    y.toNat ≤ x.toNat ∧ (x - y).toNat = x.toNat - y.toNat ∨
      x.toNat < y.toNat ∧ (x - y).toNat = (BitVec.allOnes w).toNat + 1 + x.toNat - y.toNat := by
  have top : (BitVec.allOnes w).toNat + 1 = 1 <<< w := by
    rw [BitVec.toNat_allOnes, Nat.shiftLeft_eq, Nat.one_mul]
    exact Nat.sub_add_cancel Nat.one_le_two_pow
  have boundX := x.isLt
  have boundY := y.isLt
  rw [Nat.shiftLeft_eq, Nat.one_mul] at top
  rw [BitVec.toNat_sub, top]
  by_cases ordered : y.toNat ≤ x.toNat
  · refine .inl ⟨ordered, ?_⟩
    rw [← Nat.sub_add_comm (Nat.le_of_lt boundY), Nat.add_sub_assoc ordered,
      Nat.add_mod_left, Nat.mod_eq_of_lt (Nat.lt_of_le_of_lt (Nat.sub_le ..) boundX)]
  · refine .inr ⟨Nat.not_le.mp ordered, ?_⟩
    rw [Nat.mod_eq_of_lt (by omega)]
    omega

theorem toNat_le (x : BitVec w) : x.toNat ≤ (BitVec.allOnes w).toNat := by
  have bound := x.isLt
  rw [BitVec.toNat_allOnes]
  omega

theorem newer_iff (a b : BitVec w) : newer a b = true ↔
    b.toNat < a.toNat ∧ a.toNat - b.toNat ≤ half w ∨
      a.toNat < b.toNat ∧ half w < b.toNat - a.toNat := by
  simp [newer]

/-- In a window of half the range, `newer` is the order along the window. -/
theorem newer_iff_offset {base a b : BitVec w} (first : (a - base).toNat ≤ half w)
    (second : (b - base).toNat ≤ half w) :
    newer a b = true ↔ (b - base).toNat < (a - base).toNat := by
  have boundA := toNat_le a
  have boundB := toNat_le b
  have boundBase := toNat_le base
  have middle : half w = (BitVec.allOnes w).toNat / 2 := rfl
  rw [newer_iff]
  -- Each of the two may have passed the end on its way from the base.
  rcases toNat_sub_cases a base with ⟨orderA, wayA⟩ | ⟨orderA, wayA⟩ <;>
    rcases toNat_sub_cases b base with ⟨orderB, wayB⟩ | ⟨orderB, wayB⟩ <;> omega

end Wraparound

/-! ### Stamps -/

/-- The timestamp of a packet and its number, by which its source tells it from its others. -/
structure Stamp where
  timestamp : Timestamp
  sequence : SequenceNumber
  deriving DecidableEq

namespace Stamp

/-- Whether `a` comes after `b`: the number decides between equal timestamps alone. -/
def newer (a b : Stamp) : Bool :=
  a.timestamp.newer b.timestamp || (a.timestamp = b.timestamp && a.sequence.newer b.sequence)

theorem newer_self (s : Stamp) : s.newer s = false := by
  simp [newer, Timestamp.newer, SequenceNumber.newer, Wraparound.newer]

end Stamp

def Entry.stamp (entry : Entry) : Stamp := ⟨entry.timestamp, entry.sequence⟩

namespace Headers

def stamp (h : Headers) : Stamp := ⟨h.extended.source.timestamp, h.extended.sequence⟩

def origin (h : Headers) : Mid := h.extended.source.address.mid

def target (h : Headers) : Mid := h.extended.destination.address.mid

end Headers

/-- Where timestamps start, and where the numbers of each timestamp start. -/
structure Window where
  time : Timestamp
  sequence : Timestamp → SequenceNumber

namespace Window

def place (window : Window) (s : Stamp) : Nat × Nat :=
  ((s.timestamp.val - window.time.val).toNat,
    (s.sequence.val - (window.sequence s.timestamp).val).toNat)

/-- The timestamp is one of 2147483648 in a row, and the number one of 32768. -/
def Holds (window : Window) (s : Stamp) : Prop :=
  (window.place s).1 < 0x80000000 ∧ (window.place s).2 < 0x8000

instance (window : Window) (s : Stamp) : Decidable (window.Holds s) :=
  inferInstanceAs (Decidable (_ ∧ _))

/-- `a` comes before `b` along the window, timestamps first. -/
def Before (window : Window) (a b : Stamp) : Prop :=
  (window.place a).1 < (window.place b).1 ∨
    (window.place a).1 = (window.place b).1 ∧ (window.place a).2 < (window.place b).2

instance (window : Window) (a b : Stamp) : Decidable (window.Before a b) :=
  inferInstanceAs (Decidable (_ ∨ _))

variable {window : Window} {a b c : Stamp}

theorem Before.trans (first : window.Before a b) (second : window.Before b c) :
    window.Before a c := by
  unfold Before at *
  omega

theorem Before.of_reached (reached : b = a ∨ window.Before a b) (second : window.Before b c) :
    window.Before a c := by
  rcases reached with rfl | first
  · exact second
  · exact first.trans second

theorem Before.ne (before : window.Before a b) : a ≠ b := by
  rintro rfl
  unfold Before at before
  omega

theorem newer_iff_before (first : window.Holds a) (second : window.Holds b) :
    a.newer b = true ↔ window.Before b a := by
  have times : a.timestamp.newer b.timestamp = true ↔ (window.place b).1 < (window.place a).1 :=
    Wraparound.newer_iff_offset (Nat.le_of_lt_succ first.1) (Nat.le_of_lt_succ second.1)
  have same : a.timestamp = b.timestamp ↔ (window.place b).1 = (window.place a).1 := by
    constructor
    · intro equal
      rw [place, place, equal]
    · intro equal
      have words := BitVec.eq_of_toNat_eq equal
      exact congrArg Timestamp.mk ((BitVec.sub_left_inj window.time.val).mp words).symm
  rw [Stamp.newer, Bool.or_eq_true, Bool.and_eq_true, times, decide_eq_true_iff, Before, ← same]
  by_cases equal : a.timestamp = b.timestamp
  · have numbers : a.sequence.newer b.sequence = true ↔
        (window.place b).2 < (window.place a).2 := by
      have inside := second.2
      unfold place at inside ⊢
      rw [← equal] at inside ⊢
      exact Wraparound.newer_iff_offset (Nat.le_of_lt_succ first.2) (Nat.le_of_lt_succ inside)
    rw [numbers]
  · simp [equal]

end Window

/-! ### Detection -/

def Entry.restamp (entry : Entry) (s : Stamp) : Entry :=
  { entry with timestamp := s.timestamp, sequence := s.sequence }

theorem Entry.mid_restamp (s : Stamp) (entry : Entry) : (entry.restamp s).mid = entry.mid := rfl

namespace LocationTable

/-- The source is known by a packet that this one is not newer than. -/
def knows (table : LocationTable) (mid : Mid) (s : Stamp) : Bool :=
  (table.find? mid).any fun entry => !s.newer entry.stamp

theorem knows_of_found {table : LocationTable} {mid : Mid} {entry : Entry}
    (found : table.find? mid = some entry) (s : Stamp) :
    table.knows mid s = !s.newer entry.stamp := by
  unfold knows
  rw [found, Option.any_some]

/-- A packet is known once its own stamp stands in the entry of its source. -/
theorem knows_of_stored {table : LocationTable} {mid : Mid} {entry : Entry} {s : Stamp}
    (found : table.find? mid = some entry) (stamp : entry.stamp = s) :
    table.knows mid s = true := by
  rw [knows_of_found found, stamp, Stamp.newer_self]
  rfl

def restamp (table : LocationTable) (h : Headers) : LocationTable :=
  table.modify h.origin (·.restamp h.stamp)

theorem find?_restamp (table : LocationTable) (h : Headers) (mid : Mid) :
    (table.restamp h).find? mid = if mid = h.origin then
      (table.find? h.origin).map (·.restamp h.stamp) else table.find? mid :=
  find?_modify table (Entry.mid_restamp h.stamp) h.origin mid

/-- A fresh packet leaves its stamp in the entry of its source, if there is one. -/
theorem detect_eq (table : LocationTable) (h : Headers) :
    table.detect h.origin h.stamp.sequence h.stamp.timestamp =
      if table.knows h.origin h.stamp then (.duplicate, table)
      else (.fresh, table.restamp h) := by
  unfold detect
  rw [knows]
  cases found : table.find? h.origin with
  | none =>
    unfold restamp
    rw [modify_of_absent found (·.restamp h.stamp)]
    rfl
  | some entry =>
    have test : (h.stamp.timestamp.newer entry.timestamp ||
        decide (h.stamp.timestamp = entry.timestamp) && h.stamp.sequence.newer entry.sequence) =
        h.stamp.newer entry.stamp := rfl
    rw [Option.any_some]
    simp only [test]
    cases h.stamp.newer entry.stamp <;> rfl

/-- The registry leads detection to the source and the stamp of the headers. -/
theorem detectPacket?_of_registered (table : LocationTable) {b : Bytes}
    (long : Headers.size ≤ b.length)
    (registered : (FixedHeader.inOctets b).kind? = some .geoUnicast) :
    table.detectPacket? b = .ok (some
      (if table.knows (Headers.inOctets b).origin (Headers.inOctets b).stamp then
        (.duplicate, table) else (.fresh, table.restamp (Headers.inOctets b)))) := by
  rw [← detect_eq, detectPacket?, FixedHeader.sourceAddress?_eq long registered,
    FixedHeader.timestamp?_eq long registered]
  simp only [bind, Except.bind, FixedHeader.sequenceNumber?_eq long registered]
  rfl

theorem detectPacket?_eq (table : LocationTable) {b : Bytes}
    (clear : Headers.objection? b = none) :
    table.detectPacket? b = .ok (some
      (if table.knows (Headers.inOctets b).origin (Headers.inOctets b).stamp then
        (.duplicate, table) else (.fresh, table.restamp (Headers.inOctets b)))) := by
  obtain ⟨enough, registered, -⟩ := Headers.of_objection?_none clear
  exact table.detectPacket?_of_registered (Nat.le_trans (Nat.le_add_right ..) enough) registered

end LocationTable
end GeoRouter
