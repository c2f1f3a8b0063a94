import GeoRouter.Address.Mid
import GeoRouter.Address.StationType

/-!
# GeoNetworking addresses

Sixty-four bits, most significant first: whether the address was set by hand, five bits of station
type, ten bits of country code and the identifier of the station. The fields determine the bits
and the bits the fields. As an identity only the identifier counts: `==`, the order and the hash
look at nothing else, while `=` compares all fields.
-/

namespace GeoRouter

structure Address where
  manual : Bool
  station : BitVec 5
  country : BitVec 10
  mid : Mid
  deriving DecidableEq

namespace Address

def size : Nat := 8

/-- Puts an address together, from as many bits of the codes as there is room for. -/
def pack (manual : Bool) (type : StationType) (country : UInt16) (mid : Mid) : Address :=
  ⟨manual, BitVec.ofNat 5 type.code.toNat, BitVec.ofNat 10 country.toNat, mid⟩

def raw (address : Address) : BitVec 64 :=
  BitVec.ofBool address.manual ++ address.station ++ address.country ++ address.mid.val

def ofRaw (bits : BitVec 64) : Address where
  manual := bits.msb
  station := bits.extractLsb' 58 5
  country := bits.extractLsb' 48 10
  mid := ⟨bits.extractLsb' 0 48⟩

def zero : Address := ofRaw 0

def encode (address : Address) : Bytes := BigEndian.encode size address.raw.toNat

def read (b : Bytes) (start : Nat) : Except Fault Address := do
  return ofRaw (BitVec.ofNat 64 (← b.word start size))

def stationType (address : Address) : StationType :=
  .ofCode (UInt8.ofNat address.station.toNat)

def withMid (address : Address) (mid : Mid) : Address := { address with mid }

def mac (address : Address) : Mac := address.mid.mac

instance : BEq Address := ⟨fun a b => a.mid == b.mid⟩
instance : Ord Address := ⟨fun a b => compare a.mid b.mid⟩
instance : Hashable Address := ⟨fun address => hash address.mid⟩

def text (address : Address) : String := s!"{address.mid.text}/{address.country.toNat}"

def describe (address : Address) : String :=
  "Address \x7b manual: " ++ (if address.manual then "true" else "false") ++
    ", station_type: " ++ address.stationType.name ++
    ", country_code: " ++ toString address.country.toNat ++
    ", mid: Mid(" ++ toString address.mid.toNat ++ ") \x7d"

end Address
end GeoRouter
