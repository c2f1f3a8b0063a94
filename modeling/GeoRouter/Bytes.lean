import GeoRouter.Fault

/-!
# Octet strings

Reading and overwriting at a position, and big-endian numbers. Reading or writing outside an octet
string is a fault; `splice` is the overwriting itself, for a place that is known to fit.
-/

namespace GeoRouter

abbrev Bytes := List UInt8

namespace BigEndian

def encode : (size : Nat) → (n : Nat) → Bytes
  | 0, _ => []
  | size + 1, n => UInt8.ofNat (n >>> (8 * size)) :: encode size n

def decode (octets : Bytes) : Nat :=
  octets.foldl (fun n octet => n * 256 + octet.toNat) 0

end BigEndian

namespace Bytes

def octet (b : Bytes) (i : Nat) : Except Fault UInt8 :=
  match b[i]? with
  | some x => .ok x
  | none => .error .outOfBounds

def slice (b : Bytes) (start size : Nat) : Except Fault Bytes :=
  if start + size ≤ b.length then .ok ((b.drop start).take size) else .error .outOfBounds

def suffix (b : Bytes) (start : Nat) : Except Fault Bytes :=
  if start ≤ b.length then .ok (b.drop start) else .error .outOfBounds

/-- The big-endian number in the `size` octets from `start` on. -/
def word (b : Bytes) (start size : Nat) : Except Fault Nat :=
  (b.slice start size).map BigEndian.decode

def splice (b : Bytes) (start : Nat) (data : Bytes) : Bytes :=
  b.take start ++ data ++ b.drop (start + data.length)

def overwrite (b : Bytes) (start : Nat) (data : Bytes) : Except Fault Bytes :=
  if start + data.length ≤ b.length then .ok (b.splice start data) else .error .outOfBounds

/-- The octets cut off at `length`, or filled up to it with zeros. -/
def resize (b : Bytes) (length : Nat) : Bytes :=
  b.take length ++ List.replicate (length - b.length) 0

end Bytes
end GeoRouter
