import GeoRouter.Packet.Codes
import GeoRouter.Packet.GeoUnicast

/-!
# The registry of extended headers

Which pairs of type and subtype are implemented, and where their headers keep what duplicate
detection needs to know. Every other pair is not recognized.
-/

namespace GeoRouter

inductive ExtendedKind where
  | geoUnicast
  deriving DecidableEq

/-- The size of an extended header and where it keeps some of its fields, if it has them. -/
structure Layout where
  type : HeaderType
  subtype : UInt8
  size : Nat
  source : Option Nat
  sequence : Option Nat
  timestamp : Option Nat
  deriving DecidableEq

namespace ExtendedKind

def name : ExtendedKind → String
  | .geoUnicast => "GeoUnicast"

def layout : ExtendedKind → Layout
  | .geoUnicast => {
      type := .geoUnicast
      subtype := 0
      size := GeoUnicast.size
      source := some GeoUnicast.sourceOffset
      sequence := some GeoUnicast.sequenceOffset
      timestamp := some (GeoUnicast.sourceOffset + ShortPositionVector.timestampOffset) }

def lookup (type subtype : UInt8) : Option ExtendedKind :=
  if type = HeaderType.geoUnicast.code ∧ subtype = 0 then some .geoUnicast else none

def codes (kind : ExtendedKind) : UInt8 × UInt8 := (kind.layout.type.code, kind.layout.subtype)

end ExtendedKind
end GeoRouter
