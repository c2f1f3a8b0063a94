import GeoRouter.Proofs.Framing
import Mathlib.Data.List.Forall2
import Mathlib.Data.Nat.Digits.Defs

/-!
# How Ethernet addresses are spelled

A text is taken apart at its colons, and `Component` says without a word on how it is read which
part is an octet: hexadecimal digits of either case behind an optional plus sign, as many as one
likes, of a number that fits. `Reading` then tells an address from the two mistakes, of which a part
that is no octet is reported before a number of parts other than six.
-/

namespace GeoRouter

/-! ### Digits -/

namespace Hex

/-- A character is a digit in lower case or in upper case. -/
def Denotes (c : Char) (n : Nat) : Prop := n < 16 ∧ (c = digit n ∨ c = (digit n).toUpper)

instance (c : Char) (n : Nat) : Decidable (Denotes c n) :=
  inferInstanceAs (Decidable (n < 16 ∧ (c = digit n ∨ c = (digit n).toUpper)))

theorem denotes_of_between {first last c : Char} {least : Nat} (inside : first ≤ c ∧ c ≤ last)
    (all : ∀ k ≤ last.toNat - first.toNat, Denotes (Char.ofNat (first.toNat + k)) (k + least)) :
    Denotes c (c.toNat - first.toNat + least) := by
  have low : first.toNat ≤ c.toNat := inside.1
  have near : c.toNat - first.toNat ≤ last.toNat - first.toNat := Nat.sub_le_sub_right inside.2 _
  have digit := all _ near
  rwa [Nat.add_sub_cancel' low, Char.ofNat_toNat] at digit

theorem value?_eq_some_iff {c : Char} {n : Nat} : value? c = some n ↔ Denotes c n := by
  constructor
  · intro read
    unfold value? at read
    split at read
    · rename_i inside
      have digit : Denotes c (c.toNat - '0'.toNat + 0) := denotes_of_between inside (by decide)
      exact Option.some.inj read ▸ digit
    split at read
    · rename_i inside
      exact Option.some.inj read ▸ denotes_of_between inside (by decide)
    split at read
    · rename_i inside
      exact Option.some.inj read ▸ denotes_of_between inside (by decide)
    · cases read
  · rintro ⟨small, spelled⟩
    have both : ∀ n < 16, value? (digit n) = some n ∧ value? (digit n).toUpper = some n := by decide
    rcases spelled with rfl | rfl
    · exact (both n small).1
    · exact (both n small).2

end Hex

namespace Mac

/-- The number of a digit string, most significant digit first. -/
theorem hexNumber?_eq_some_iff {before n : Nat} {digits : List Char} :
    hexNumber? before digits = some n ↔ ∃ values, List.Forall₂ Hex.Denotes digits values ∧
      Nat.ofDigits 16 (values.reverse ++ [before]) = n := by
  induction digits generalizing before with
  | nil =>
    constructor
    · intro read
      obtain rfl := Option.some.inj read
      exact ⟨[], .nil, Nat.ofDigits_singleton⟩
    · rintro ⟨_, spelled, rfl⟩
      cases spelled
      exact congrArg some Nat.ofDigits_singleton.symm
  | cons c rest ih =>
    have shift (values : List Nat) (digit : Nat) :
        Nat.ofDigits 16 ((digit :: values).reverse ++ [before]) =
          Nat.ofDigits 16 (values.reverse ++ [before * 16 + digit]) := by
      have last : Nat.ofDigits 16 [digit, before] = Nat.ofDigits 16 [before * 16 + digit] := by
        simp only [Nat.ofDigits_cons, Nat.ofDigits_nil]
        omega
      have append := @Nat.ofDigits_append 16 values.reverse
      rw [List.reverse_cons, List.append_assoc, List.singleton_append, append, append, last]
    rw [hexNumber?, Option.bind_eq_some_iff]
    constructor
    · rintro ⟨digit, first, later⟩
      obtain ⟨values, spelled, rfl⟩ := ih.mp later
      exact ⟨digit :: values, .cons (Hex.value?_eq_some_iff.mp first) spelled, shift ..⟩
    · rintro ⟨_, spelled, rfl⟩
      cases spelled with | @cons _ digit _ values first spelled
      exact ⟨digit, Hex.value?_eq_some_iff.mpr first, ih.mpr ⟨values, spelled, (shift ..).symm⟩⟩

theorem components_eq (text : List Char) : components text = text.splitOn ':' := by
  induction text with
  | nil => rfl
  | cons c rest ih =>
    have some := List.splitOn_ne_nil ':' rest
    rw [List.splitOn_cons_eq_if_modifyHead, components, ih]
    cases parts : rest.splitOn ':' with
    | nil => exact absurd parts some
    | cons part parts => simp

/-- At least one digit, of a number that fits an octet. -/
def Numeral (digits : List Char) (octet : UInt8) : Prop :=
  digits ≠ [] ∧ ∃ values, List.Forall₂ Hex.Denotes digits values ∧
    Nat.ofDigits 16 values.reverse = octet.toNat

/-- A numeral, possibly behind a plus sign. -/
inductive Component : List Char → UInt8 → Prop
  | plain {digits : List Char} {octet : UInt8} (numeral : Numeral digits octet) :
    Component digits octet
  | signed {digits : List Char} {octet : UInt8} (numeral : Numeral digits octet) :
    Component ('+' :: digits) octet

theorem hexNumber?_zero_iff {digits : List Char} {n : Nat} : hexNumber? 0 digits = some n ↔
    ∃ values, List.Forall₂ Hex.Denotes digits values ∧ Nat.ofDigits 16 values.reverse = n := by
  have leading (values : List Nat) :
      Nat.ofDigits 16 (values ++ [0]) = Nat.ofDigits 16 values := by
    rw [Nat.ofDigits_append, Nat.ofDigits_singleton, Nat.mul_zero, Nat.add_zero]
  simp only [hexNumber?_eq_some_iff, leading]

theorem numeral_iff {digits : List Char} {octet : UInt8} : Numeral digits octet ↔
    (if digits.isEmpty then none
      else (hexNumber? 0 digits).bind fun n => if n < 256 then some (UInt8.ofNat n) else none) =
      some octet := by
  constructor
  · rintro ⟨some, read⟩
    have number := hexNumber?_zero_iff.mpr read
    rw [if_neg (by simpa using some), number]
    exact (if_pos octet.toNat_lt).trans (congrArg Option.some UInt8.ofNat_toNat)
  · intro read
    split at read
    · cases read
    rename_i some
    obtain ⟨n, number, fits⟩ := Option.bind_eq_some_iff.mp read
    split at fits
    · rename_i small
      obtain rfl := Option.some.inj fits
      refine ⟨by simpa using some, ?_⟩
      rw [UInt8.toNat_ofNat', Nat.mod_eq_of_lt small]
      exact hexNumber?_zero_iff.mp number
    · cases fits

theorem component?_eq_some_iff {part : List Char} {octet : UInt8} :
    component? part = some octet ↔ Component part octet := by
  unfold component?
  split
  · rename_i rest
    rw [← numeral_iff]
    constructor
    · exact .signed
    · intro component
      cases component with
      | signed numeral => exact numeral
      | plain numeral =>
        obtain ⟨-, values, spelled, -⟩ := numeral
        cases spelled with | cons first _
        have sign : Hex.value? '+' = none := by decide
        rw [Hex.value?_eq_some_iff.mpr first] at sign
        cases sign
  · rename_i unsigned
    rw [← numeral_iff]
    constructor
    · exact .plain
    · intro component
      cases component with
      | plain numeral => exact numeral
      | signed numeral => exact absurd rfl (unsigned _)

theorem Component.unique : Relator.RightUnique Component := by
  intro part octet other one two
  have same := (component?_eq_some_iff.mpr one).symm.trans (component?_eq_some_iff.mpr two)
  exact Option.some.inj same

/-- A part of a text that is an octet. -/
def Readable (part : List Char) : Prop := ∃ octet, Component part octet

theorem component?_eq_none_iff {part : List Char} : component? part = none ↔ ¬ Readable part := by
  rw [Option.eq_none_iff_forall_ne_some, Readable, not_exists]
  exact forall_congr' fun octet => not_congr component?_eq_some_iff

theorem readable_of_read {front : List (List Char)} {octets : Bytes}
    (read : List.Forall₂ Component front octets) : ∀ part ∈ front, Readable part := by
  induction read with
  | nil => exact fun part none => absurd none List.not_mem_nil
  | cons first _ ih => exact List.forall_mem_cons.mpr ⟨⟨_, first⟩, ih⟩

/-! ### Components -/

/-- What comes of reading a number of components from the front. -/
inductive Taken (count : Nat) (parts : List (List Char)) :
    Except MacTextError (Bytes × List (List Char)) → Prop
  | refused {part : List Char} (early : part ∈ parts.take count)
    (foreign : ¬ Readable part) : Taken count parts (.error .component)
  | short (few : parts.length < count) (read : ∀ part ∈ parts, Readable part) :
    Taken count parts (.error .separator)
  | enough {octets : Bytes} {rest : List (List Char)} {front : List (List Char)}
    (split : parts = front ++ rest) (length : front.length = count)
    (read : List.Forall₂ Component front octets) : Taken count parts (.ok (octets, rest))

theorem taken (count : Nat) (parts : List (List Char)) :
    Taken count parts (takeComponents count parts) := by
  induction count generalizing parts with
  | zero => exact .enough (List.nil_append parts).symm rfl .nil
  | succ count ih =>
    cases parts with
    | nil => exact .short (Nat.succ_pos count) fun part none => absurd none List.not_mem_nil
    | cons part parts =>
      rw [takeComponents]
      cases first : component? part with
      | none => exact .refused List.mem_cons_self (component?_eq_none_iff.mp first)
      | some octet =>
        have own := component?_eq_some_iff.mp first
        have later := ih parts
        generalize takeComponents count parts = answer at later
        cases later with
        | refused early foreign => exact .refused (List.mem_cons_of_mem part early) foreign
        | short few read =>
          exact .short (Nat.succ_lt_succ few) (List.forall_mem_cons.mpr ⟨⟨octet, own⟩, read⟩)
        | @enough octets rest front split length read =>
          have split : part :: parts = (part :: front) ++ rest := congrArg (part :: ·) split
          exact .enough split (congrArg Nat.succ length) (.cons own read)

/-- What stands between the colons of a text. -/
def parts (text : String) : List (List Char) :=
  (text.split ':').toList.map fun part => part.copy.toList

theorem components_toList (text : String) : components text.toList = parts text := by
  have split := congrArg (List.map String.toList) (@String.toList_split_char text ':')
  rw [List.map_map, List.map_map] at split
  have same : String.toList ∘ String.ofList = id := funext fun _ => String.toList_ofList
  rw [same, List.map_id] at split
  exact (components_eq text.toList).trans split.symm

/-- What comes of reading a text. -/
inductive Reading (text : String) : Except MacTextError Mac → Prop
  | component {part : List Char} (early : part ∈ (parts text).take 6)
    (foreign : ¬ Readable part) : Reading text (.error .component)
  | separator (number : (parts text).length ≠ 6)
    (read : ∀ part ∈ (parts text).take 6, Readable part) :
    Reading text (.error .separator)
  | address {mac : Mac} (read : List.Forall₂ Component (parts text) mac.octets) :
    Reading text (.ok mac)

theorem reading (text : String) : Reading text (ofText text) := by
  have taken := taken 6 (parts text)
  rw [ofText, components_toList]
  generalize takeComponents 6 (parts text) = answer at taken
  cases taken with
  | refused early foreign => exact .component early foreign
  | short few read =>
    exact .separator (Nat.ne_of_lt few) fun part early => read part (List.mem_of_mem_take early)
  | @enough octets rest front split length read =>
    have width : octets.length = 6 := read.length_eq.symm.trans length
    obtain ⟨mac, rfl⟩ : ∃ mac : Mac, octets = mac.octets :=
      match octets, width with
      | [a, b, c, d, e, f], _ => ⟨⟨a, b, c, d, e, f⟩, rfl⟩
    cases rest with
    | nil =>
      rw [List.append_nil] at split
      exact .address (split ▸ read)
    | cons part rest =>
      have first : (parts text).take 6 = front := by rw [split, List.take_left' length]
      refine .separator ?_ (first ▸ readable_of_read read)
      rw [split, List.length_append, length, List.length_cons]
      omega

theorem ofText_eq_ok_iff {text : String} {mac : Mac} :
    ofText text = .ok mac ↔ List.Forall₂ Component (parts text) mac.octets := by
  have reading := reading text
  generalize ofText text = answer at reading
  constructor
  · rintro rfl
    cases reading with | address read => exact read
  · intro read
    cases reading with
    | component early foreign =>
      exact absurd (readable_of_read read _ (List.mem_of_mem_take early)) foreign
    | separator number _ => exact absurd read.length_eq number
    | address known =>
      exact congrArg Except.ok (octets_injective (Component.unique.forall₂ known read))

theorem ofText_eq_component_iff {text : String} :
    ofText text = .error .component ↔ ∃ part ∈ (parts text).take 6, ¬ Readable part := by
  have reading := reading text
  generalize ofText text = answer at reading
  constructor
  · rintro rfl
    cases reading with | component early foreign => exact ⟨_, early, foreign⟩
  · rintro ⟨part, early, foreign⟩
    cases reading with
    | component => rfl
    | separator _ read => exact absurd (read part early) foreign
    | address read =>
      exact absurd (readable_of_read read part (List.mem_of_mem_take early)) foreign

theorem ofText_eq_separator_iff {text : String} : ofText text = .error .separator ↔
    (parts text).length ≠ 6 ∧ ∀ part ∈ (parts text).take 6, Readable part := by
  have reading := reading text
  generalize ofText text = answer at reading
  constructor
  · rintro rfl
    cases reading with | separator number read => exact ⟨number, read⟩
  · rintro ⟨number, read⟩
    cases reading with
    | component early foreign => exact absurd (read _ early) foreign
    | separator => rfl
    | address known => exact absurd known.length_eq number

/-! ### Written addresses -/

theorem digits_octet (octet : UInt8) : Hex.digits 2 octet.toNat =
    [Hex.digit (octet.toNat / 16), Hex.digit (octet.toNat % 16)] := by
  have high : octet.toNat / 16 % 16 = octet.toNat / 16 :=
    Nat.mod_eq_of_lt (Nat.div_lt_of_lt_mul octet.toNat_lt)
  show [Hex.digit (octet.toNat / 16 % 16), Hex.digit (octet.toNat / 1 % 16)] = _
  rw [high, Nat.div_one]

theorem component_written (octet : UInt8) : Component (Hex.digits 2 octet.toNat) octet := by
  have high : octet.toNat / 16 < 16 := Nat.div_lt_of_lt_mul octet.toNat_lt
  have low : octet.toNat % 16 < 16 := Nat.mod_lt _ (by decide)
  rw [digits_octet]
  refine .plain ⟨List.cons_ne_nil _ _, [octet.toNat / 16, octet.toNat % 16],
    .cons ⟨high, .inl rfl⟩ (.cons ⟨low, .inl rfl⟩ .nil), ?_⟩
  show Nat.ofDigits 16 [octet.toNat % 16, octet.toNat / 16] = octet.toNat
  rw [Nat.ofDigits_cons, Nat.ofDigits_singleton]
  exact Nat.mod_add_div octet.toNat 16

theorem colon_not_mem_digits (count n : Nat) : ':' ∉ Hex.digits count n := by
  have apart : ∀ n < 16, ':' ≠ Hex.digit n := by decide
  induction count with
  | zero => exact List.not_mem_nil
  | succ count ih =>
    exact List.not_mem_cons_of_ne_of_not_mem (apart _ (Nat.mod_lt _ (by decide))) ih

theorem parts_text (mac : Mac) :
    parts mac.text = mac.octets.map fun octet => Hex.digits 2 octet.toNat := by
  have written : mac.text.toList =
      [':'].intercalate (mac.octets.map fun octet => Hex.digits 2 octet.toNat) := by
    rw [text, String.toList_intercalate, List.map_map]
    exact congrArg (List.intercalate _) (List.map_congr_left fun _ _ => String.toList_ofList)
  rw [← components_toList, components_eq, written]
  apply List.splitOn_intercalate
  · intro part member
    obtain ⟨octet, -, rfl⟩ := List.mem_map.mp member
    exact colon_not_mem_digits 2 octet.toNat
  · exact List.cons_ne_nil _ _

theorem forall₂_parts_text (mac : Mac) : List.Forall₂ Component (parts mac.text) mac.octets := by
  rw [parts_text, List.forall₂_map_left_iff, List.forall₂_same]
  exact fun octet _ => component_written octet

/-- A text is an address just if it has six parts between its colons, each of them an octet in
hexadecimal digits, and then those octets are the address. Of what else there is, a part among the
first six that is no octet is reported before a number of parts other than six. What is written for
an address is read as that address. -/
theorem text_is_read_by_components :
    (∀ mac, ofText (text mac) = .ok mac) ∧ ∀ spelling,
      (∀ mac, ofText spelling = .ok mac ↔ List.Forall₂ Component (parts spelling) mac.octets) ∧
      (ofText spelling = .error .component ↔
        ∃ part ∈ (parts spelling).take 6, ∀ octet, ¬ Component part octet) ∧
      (ofText spelling = .error .separator ↔ (parts spelling).length ≠ 6 ∧
        ∀ part ∈ (parts spelling).take 6, ∃ octet, Component part octet) := by
  refine ⟨fun mac => ofText_eq_ok_iff.mpr (forall₂_parts_text mac), fun spelling =>
    ⟨fun mac => ofText_eq_ok_iff, ?_, ofText_eq_separator_iff⟩⟩
  simpa only [Readable, not_exists] using ofText_eq_component_iff

/-- Of two mistakes the part that is no octet counts. -/
example : (ofText "1:+00fF:g" = .error .component) ∧ ofText "1:+00fF" = .error .separator := by
  decide +kernel

end Mac
end GeoRouter
