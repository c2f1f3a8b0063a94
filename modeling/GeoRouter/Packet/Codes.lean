/-!
# Header codes

The nibbles that say what follows a header. A code without a name is kept as it is, so that a
packet can be dropped for what it carries and not for being unreadable.
-/

namespace GeoRouter

inductive BasicNextHeader where
  /-- The same as `common`. -/
  | any
  | common
  | secured
  | unknown (code : UInt8)
  deriving DecidableEq

namespace BasicNextHeader

def ofCode (code : UInt8) : BasicNextHeader :=
  match code.toNat with
  | 0 => .any
  | 1 => .common
  | 2 => .secured
  | _ => .unknown code

def code : BasicNextHeader → UInt8
  | .any => 0
  | .common => 1
  | .secured => 2
  | .unknown code => code

def name : BasicNextHeader → String
  | .any => "Any"
  | .common => "Common"
  | .secured => "Secured"
  | .unknown code => s!"Unknown({code.toNat})"

end BasicNextHeader

inductive Transport where
  /-- The basic transport protocol whose packets name their sender. -/
  | btpA
  /-- The basic transport protocol whose packets do not. -/
  | btpB
  deriving DecidableEq

inductive NextHeader where
  | any
  | btpA
  | btpB
  | ipv6
  | unknown (code : UInt8)
  deriving DecidableEq

namespace NextHeader

def ofCode (code : UInt8) : NextHeader :=
  match code.toNat with
  | 0 => .any
  | 1 => .btpA
  | 2 => .btpB
  | 3 => .ipv6
  | _ => .unknown code

def code : NextHeader → UInt8
  | .any => 0
  | .btpA => 1
  | .btpB => 2
  | .ipv6 => 3
  | .unknown code => code

def name : NextHeader → String
  | .any => "Any"
  | .btpA => "BtpA"
  | .btpB => "BtpB"
  | .ipv6 => "Ipv6"
  | .unknown code => s!"Unknown({code.toNat})"

def transport? : NextHeader → Option Transport
  | .btpA => some .btpA
  | .btpB => some .btpB
  | _ => none

end NextHeader

inductive HeaderType where
  | any
  | beacon
  | geoUnicast
  | geoAnycast
  | geoBroadcast
  | topoBroadcast
  | locationService
  | unknown (code : UInt8)
  deriving DecidableEq

namespace HeaderType

def ofCode (code : UInt8) : HeaderType :=
  match code.toNat with
  | 0 => .any
  | 1 => .beacon
  | 2 => .geoUnicast
  | 3 => .geoAnycast
  | 4 => .geoBroadcast
  | 5 => .topoBroadcast
  | 6 => .locationService
  | _ => .unknown code

def code : HeaderType → UInt8
  | .any => 0
  | .beacon => 1
  | .geoUnicast => 2
  | .geoAnycast => 3
  | .geoBroadcast => 4
  | .topoBroadcast => 5
  | .locationService => 6
  | .unknown code => code

def name : HeaderType → String
  | .any => "Any"
  | .beacon => "Beacon"
  | .geoUnicast => "GeoUnicast"
  | .geoAnycast => "GeoAnycast"
  | .geoBroadcast => "GeoBroadcast"
  | .topoBroadcast => "TopoBroadcast"
  | .locationService => "LocationService"
  | .unknown code => s!"Unknown({code.toNat})"

end HeaderType
end GeoRouter
