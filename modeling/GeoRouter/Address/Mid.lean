import GeoRouter.Ethernet.Mac

/-!
# Mobile identifiers

The 48-bit number that tells stations apart. It is the Ethernet address of the station as well.
-/

namespace GeoRouter

structure Mid where
  val : BitVec 48
  deriving DecidableEq

namespace Mid

def ofNat (n : Nat) : Mid := ⟨BitVec.ofNat 48 n⟩

def toNat (mid : Mid) : Nat := mid.val.toNat

def ofMac (mac : Mac) : Mid := ofNat (BigEndian.decode mac.octets)

def mac (mid : Mid) : Mac :=
  ⟨UInt8.ofNat (mid.toNat >>> 40), UInt8.ofNat (mid.toNat >>> 32), UInt8.ofNat (mid.toNat >>> 24),
    UInt8.ofNat (mid.toNat >>> 16), UInt8.ofNat (mid.toNat >>> 8), UInt8.ofNat mid.toNat⟩

/-- The identifier with all bits set, which is that of the Ethernet broadcast. -/
def broadcast : Mid := ⟨BitVec.allOnes 48⟩

def isBroadcast (mid : Mid) : Bool := mid = broadcast

def text (mid : Mid) : String := mid.mac.text

instance : LT Mid := ⟨fun a b => a.toNat < b.toNat⟩
instance : DecidableLT Mid := fun a b => inferInstanceAs (Decidable (a.toNat < b.toNat))
instance : Ord Mid := ⟨fun a b => compare a.toNat b.toNat⟩
instance : Hashable Mid := ⟨fun mid => hash mid.toNat⟩

end Mid
end GeoRouter
