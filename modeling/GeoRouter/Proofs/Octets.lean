import GeoRouter.Bytes

/-!
# Octets inside and outside a string

`octetAt` and `number` read any octet string at any place, and agree with the reads that fault
wherever the place lies inside. The rest of the library speaks of octets through these two, through
`splice`, and through `decode_encode`, which says that a number is read back from its octets.
-/

namespace GeoRouter

namespace BigEndian

theorem length_encode (size n : Nat) : (encode size n).length = size := by
  induction size with
  | zero => rfl
  | succ size ih => rw [encode, List.length_cons, ih]

theorem shiftLeft_octet (n size : Nat) : n <<< (8 * (size + 1)) = (n * 256) <<< (8 * size) := by
  have octet : n <<< 8 = n * 256 := Nat.shiftLeft_eq n 8
  rw [Nat.mul_succ, Nat.add_comm, Nat.shiftLeft_add, octet]

theorem foldl_decode (octets : Bytes) (start : Nat) :
    octets.foldl (fun n octet => n * 256 + octet.toNat) start =
      start <<< (8 * octets.length) + decode octets := by
  induction octets generalizing start with
  | nil => rfl
  | cons octet rest ih =>
    have tail := ih octet.toNat
    rw [decode, List.foldl_cons, List.foldl_cons, Nat.zero_mul, Nat.zero_add, tail, ih,
      List.length_cons, shiftLeft_octet, Nat.shiftLeft_eq, Nat.shiftLeft_eq, Nat.shiftLeft_eq,
      Nat.add_mul, Nat.add_assoc]

theorem decode_cons (octet : UInt8) (rest : Bytes) :
    decode (octet :: rest) = octet.toNat <<< (8 * rest.length) + decode rest := by
  have first := foldl_decode rest octet.toNat
  simpa [decode] using first

theorem decode_lt (octets : Bytes) : decode octets < 1 <<< (8 * octets.length) := by
  induction octets with
  | nil => decide
  | cons octet rest ih =>
    have bound := Nat.mul_le_mul_right (1 <<< (8 * rest.length)) octet.toNat_lt
    rw [decode_cons, List.length_cons, shiftLeft_octet]
    rw [Nat.shiftLeft_eq, Nat.one_mul] at ih bound
    rw [Nat.shiftLeft_eq, Nat.shiftLeft_eq]
    rw [Nat.succ_eq_add_one, Nat.add_mul] at bound
    omega

/-- Octets of the same number are the same if there are equally many of them. -/
theorem decode_injective {a b : Bytes} (width : a.length = b.length)
    (same : decode a = decode b) : a = b := by
  induction a generalizing b with
  | nil => exact (List.length_eq_zero_iff.mp width.symm).symm
  | cons x xs ih =>
    obtain ⟨y, ys, rfl⟩ := List.exists_cons_of_length_eq_add_one width.symm
    have width : xs.length = ys.length := Nat.succ.inj width
    have boundX := decode_lt xs
    have boundY := decode_lt ys
    have shift (n k : Nat) : n <<< k = (1 <<< k) * n := by
      rw [Nat.shiftLeft_eq, Nat.shiftLeft_eq, Nat.one_mul, Nat.mul_comm]
    rw [decode_cons, decode_cons, width, shift x.toNat, shift y.toNat] at same
    rw [width] at boundX
    generalize 1 <<< (8 * ys.length) = weight at same boundX boundY
    -- The rest stays below the weight of the first octet, which can be divided off.
    have positive : 0 < weight := Nat.zero_lt_of_lt boundX
    have first := congrArg (· / weight) same
    have rest := congrArg (· % weight) same
    simp only [Nat.mul_add_div positive, Nat.div_eq_of_lt boundX, Nat.div_eq_of_lt boundY,
      Nat.add_zero] at first
    simp only [Nat.mul_add_mod, Nat.mod_eq_of_lt boundX, Nat.mod_eq_of_lt boundY] at rest
    rw [UInt8.toNat_inj.mp first, ih width rest]

/-- A number is read back from its octets, up to as many of them as there are. -/
theorem decode_encode (size n : Nat) : decode (encode size n) = n % 1 <<< (8 * size) := by
  induction size with
  | zero => exact (Nat.mod_one n).symm
  | succ size ih =>
    rw [encode, decode_cons, length_encode, ih, UInt8.toNat_ofNat', Nat.shiftLeft_eq,
      Nat.shiftLeft_eq, Nat.shiftLeft_eq, Nat.shiftRight_eq_div_pow, Nat.one_mul, Nat.one_mul,
      Nat.mul_succ, Nat.pow_add, Nat.mod_mul, Nat.mul_comm, Nat.add_comm]

end BigEndian

namespace Bytes

def octetAt (b : Bytes) (i : Nat) : UInt8 := b.getD i 0

/-- The big-endian number in at most `size` octets from `start` on. -/
def number (b : Bytes) (start size : Nat) : Nat := BigEndian.decode ((b.drop start).take size)

/-! ### Reads inside the string -/

theorem octet_eq {b : Bytes} {i : Nat} (inside : i < b.length) : b.octet i = .ok (b.octetAt i) := by
  simp [octet, octetAt, List.getElem?_eq_getElem inside]

theorem slice_eq {b : Bytes} {start size : Nat} (inside : start + size ≤ b.length) :
    b.slice start size = .ok ((b.drop start).take size) := by
  unfold slice
  rw [if_pos inside]

theorem suffix_eq {b : Bytes} {start : Nat} (inside : start ≤ b.length) :
    b.suffix start = .ok (b.drop start) := by
  unfold suffix
  rw [if_pos inside]

theorem word_eq {b : Bytes} {start size : Nat} (inside : start + size ≤ b.length) :
    b.word start size = .ok (b.number start size) := by
  unfold word
  rw [slice_eq inside]
  rfl

theorem overwrite_eq {b data : Bytes} {start : Nat} (inside : start + data.length ≤ b.length) :
    b.overwrite start data = .ok (b.splice start data) := by
  unfold overwrite
  rw [if_pos inside]

theorem take_succ_drop {b : Bytes} {start : Nat} (size : Nat) (inside : start < b.length) :
    (b.drop start).take (size + 1) = b.octetAt start :: (b.drop (start + 1)).take size := by
  rw [List.drop_eq_getElem_cons inside, List.take_succ_cons, octetAt,
    List.getD_eq_getElem?_getD, List.getElem?_eq_getElem inside, Option.getD_some]

/-! ### Numbers in parts of a string -/

theorem number_drop (b : Bytes) (skipped start size : Nat) :
    number (b.drop skipped) start size = b.number (skipped + start) size := by
  rw [number, number, List.drop_drop]

theorem number_lt (b : Bytes) (start size : Nat) : b.number start size < 1 <<< (8 * size) := by
  have bound := BigEndian.decode_lt ((b.drop start).take size)
  have width : 8 * ((b.drop start).take size).length ≤ 8 * size :=
    Nat.mul_le_mul_left 8 (List.length_take_le ..)
  rw [Nat.shiftLeft_eq, Nat.one_mul] at bound ⊢
  exact Nat.lt_of_lt_of_le bound (Nat.pow_le_pow_right (by decide) width)

theorem number_append_right {a b : Bytes} {start : Nat} (size : Nat) (behind : a.length ≤ start) :
    number (a ++ b) start size = b.number (start - a.length) size := by
  rw [number, number, List.drop_append, List.drop_eq_nil_of_le behind, List.nil_append]

theorem number_append_left {a b : Bytes} {start size : Nat} (inside : start + size ≤ a.length) :
    number (a ++ b) start size = a.number start size := by
  rw [number, number, List.drop_append_of_le_length (by omega),
    List.take_append_of_le_length (by rw [List.length_drop]; omega)]

theorem number_encode (size n : Nat) (rest : Bytes) :
    number (BigEndian.encode size n ++ rest) 0 size = n % 1 <<< (8 * size) := by
  have whole : (BigEndian.encode size n).take size = BigEndian.encode size n :=
    List.take_of_length_le (Nat.le_of_eq (BigEndian.length_encode size n))
  rw [number_append_left (by rw [BigEndian.length_encode]; omega), number, List.drop_zero, whole,
    BigEndian.decode_encode]

/-! ### Overwriting -/

theorem length_splice {b data : Bytes} {start : Nat} (inside : start + data.length ≤ b.length) :
    (b.splice start data).length = b.length := by
  simp only [splice, List.length_append, List.length_take, List.length_drop]
  omega

theorem length_resize (b : Bytes) (length : Nat) : (b.resize length).length = length := by
  simp only [resize, List.length_append, List.length_take, List.length_replicate]
  omega

theorem splice_self {b : Bytes} {start size : Nat} (inside : start + size ≤ b.length) :
    b.splice start ((b.drop start).take size) = b := by
  have width : ((b.drop start).take size).length = size := by
    rw [List.length_take, List.length_drop]
    omega
  rw [splice, width, List.append_assoc, ← List.drop_drop, List.take_append_drop,
    List.take_append_drop]

theorem splice_zero (b data : Bytes) : b.splice 0 data = data ++ b.drop data.length := by
  unfold splice
  rw [List.take_zero, List.nil_append, Nat.zero_add]

theorem getElem?_splice_outside {b data : Bytes} {start i : Nat}
    (inside : start + data.length ≤ b.length) (outside : i < start ∨ start + data.length ≤ i) :
    (b.splice start data)[i]? = b[i]? := by
  have width : (b.take start).length = start := List.length_take_of_le (by omega)
  unfold splice
  rw [List.append_assoc]
  rcases outside with before | behind
  · rw [List.getElem?_append_left (by omega), List.getElem?_take_of_lt before]
  · rw [List.getElem?_append_right (by omega), List.getElem?_append_right (by omega), width,
      List.getElem?_drop]
    congr 1
    omega

theorem getElem?_splice_inside {b data : Bytes} {start i : Nat}
    (inside : start + data.length ≤ b.length) (within : i < data.length) :
    (b.splice start data)[start + i]? = data[i]? := by
  have width : (b.take start).length = start := List.length_take_of_le (by omega)
  unfold splice
  rw [List.append_assoc, List.getElem?_append_right (by omega), width, Nat.add_sub_cancel_left,
    List.getElem?_append_left within]

/-- Overwriting in front of a place does not change what is behind it. -/
theorem drop_splice {b data : Bytes} {start n : Nat} (inside : start + data.length ≤ b.length)
    (before : start + data.length ≤ n) : (b.splice start data).drop n = b.drop n := by
  apply List.ext_getElem?
  intro i
  rw [List.getElem?_drop, List.getElem?_drop]
  exact getElem?_splice_outside inside (.inr (by omega))

/-- Overwriting behind a place is overwriting what is behind it. -/
theorem drop_splice_behind {b data : Bytes} {n : Nat} (start : Nat) (long : n ≤ b.length) :
    (b.splice (n + start) data).drop n = splice (b.drop n) start data := by
  unfold splice
  rw [List.append_assoc, List.append_assoc, List.drop_append_of_le_length (by
    rw [List.length_take]
    omega), List.drop_drop, Nat.add_assoc, List.drop_take, Nat.add_sub_cancel_left]

theorem splice_append_right (a b data : Bytes) :
    splice (a ++ b) a.length data = a ++ (data ++ b.drop data.length) := by
  rw [splice, List.take_left, List.append_assoc, List.drop_append,
    List.drop_eq_nil_of_le (Nat.le_add_right ..), List.nil_append, Nat.add_sub_cancel_left]

end Bytes
end GeoRouter
