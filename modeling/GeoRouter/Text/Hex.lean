/-!
# Hexadecimal text

Numbers in lower case hexadecimal digits, filled up with zeros to a least number of digits.
-/

namespace GeoRouter.Hex

def digit (n : Nat) : Char :=
  if n < 10 then Char.ofNat ('0'.toNat + n) else Char.ofNat ('a'.toNat + (n - 10))

def value? (c : Char) : Option Nat :=
  if '0' ≤ c ∧ c ≤ '9' then some (c.toNat - '0'.toNat)
  else if 'a' ≤ c ∧ c ≤ 'f' then some (c.toNat - 'a'.toNat + 10)
  else if 'A' ≤ c ∧ c ≤ 'F' then some (c.toNat - 'A'.toNat + 10)
  else none

/-- The lowest `count` digits of a number, most significant first. -/
def digits : (count : Nat) → (n : Nat) → List Char
  | 0, _ => []
  | count + 1, n => digit (n / 16 ^ count % 16) :: digits count n

def text (count n : Nat) : String :=
  String.ofList (digits count n)

def marked (count n : Nat) : String :=
  "0x" ++ text count n

end GeoRouter.Hex
