import GeoRouter.Bytes
import GeoRouter.Text.Hex

/-!
# Ethernet addresses

Six octets, written as hexadecimal components between colons. Reading accepts more than writing
produces: a component may have either case, leading zeros and a plus sign.
-/

namespace GeoRouter

structure Mac where
  a : UInt8
  b : UInt8
  c : UInt8
  d : UInt8
  e : UInt8
  f : UInt8
  deriving DecidableEq

inductive MacTextError where
  /-- A component is not a hexadecimal octet. -/
  | component
  /-- There are fewer or more than six components. -/
  | separator
  deriving DecidableEq

namespace MacTextError

def message : MacTextError → String
  | .component => "invalid ethernet component"
  | .separator => "unexpected number of ethernet address components (should be 6)"

end MacTextError

namespace Mac

def broadcast : Mac := ⟨0xff, 0xff, 0xff, 0xff, 0xff, 0xff⟩

def octets (mac : Mac) : Bytes := [mac.a, mac.b, mac.c, mac.d, mac.e, mac.f]

def ofOctets : Bytes → Except Fault Mac
  | [a, b, c, d, e, f] => .ok ⟨a, b, c, d, e, f⟩
  | _ => .error .lengthMismatch

def read (bytes : Bytes) (start : Nat) : Except Fault Mac := do
  ofOctets (← bytes.slice start 6)

def isBroadcast (mac : Mac) : Bool := mac = broadcast

def isMulticast (mac : Mac) : Bool := mac.a &&& 1 ≠ 0

def text (mac : Mac) : String :=
  ":".intercalate (mac.octets.map fun octet => Hex.text 2 octet.toNat)

def components : List Char → List (List Char)
  | [] => [[]]
  | c :: rest =>
    if c = ':' then [] :: components rest
    else match components rest with
      | [] => [[c]]
      | part :: parts => (c :: part) :: parts

def hexNumber? (before : Nat) : List Char → Option Nat
  | [] => some before
  | c :: rest => (Hex.value? c).bind fun digit => hexNumber? (before * 16 + digit) rest

/-- The octet of a component: at least one digit after an optional plus sign. -/
def component? (part : List Char) : Option UInt8 :=
  let digits := match part with
    | '+' :: rest => rest
    | _ => part
  if digits.isEmpty then none
  else (hexNumber? 0 digits).bind fun n => if n < 256 then some (UInt8.ofNat n) else none

/-- Reads a number of components from the front, and gives back those behind them. -/
def takeComponents :
    (count : Nat) → List (List Char) → Except MacTextError (Bytes × List (List Char))
  | 0, parts => .ok ([], parts)
  | _ + 1, [] => .error .separator
  | count + 1, part :: parts =>
    match component? part with
    | none => .error .component
    | some octet =>
      match takeComponents count parts with
      | .ok (octets, rest) => .ok (octet :: octets, rest)
      | .error reason => .error reason

def ofText (text : String) : Except MacTextError Mac :=
  match takeComponents 6 (components text.toList) with
  | .error reason => .error reason
  | .ok ([a, b, c, d, e, f], []) => .ok ⟨a, b, c, d, e, f⟩
  | .ok _ => .error .separator

end Mac
end GeoRouter
