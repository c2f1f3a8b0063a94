/-!
# Station types

What kind of station an address belongs to. A code without a name is kept as it is.
-/

namespace GeoRouter

inductive StationType where
  | unspecified
  | pedestrian
  | cyclist
  | moped
  | motorcycle
  | passengerCar
  | bus
  | lightTruck
  | heavyTruck
  | trailer
  | specialVehicle
  | tram
  | roadsideUnit
  | unknown (code : UInt8)
  deriving DecidableEq

namespace StationType

def ofCode (code : UInt8) : StationType :=
  match code.toNat with
  | 0 => .unspecified
  | 1 => .pedestrian
  | 2 => .cyclist
  | 3 => .moped
  | 4 => .motorcycle
  | 5 => .passengerCar
  | 6 => .bus
  | 7 => .lightTruck
  | 8 => .heavyTruck
  | 9 => .trailer
  | 10 => .specialVehicle
  | 11 => .tram
  | 15 => .roadsideUnit
  | _ => .unknown code

def code : StationType → UInt8
  | .unspecified => 0
  | .pedestrian => 1
  | .cyclist => 2
  | .moped => 3
  | .motorcycle => 4
  | .passengerCar => 5
  | .bus => 6
  | .lightTruck => 7
  | .heavyTruck => 8
  | .trailer => 9
  | .specialVehicle => 10
  | .tram => 11
  | .roadsideUnit => 15
  | .unknown code => code

def name : StationType → String
  | .unspecified => "Unspecified"
  | .pedestrian => "Pedestrian"
  | .cyclist => "Cyclist"
  | .moped => "Moped"
  | .motorcycle => "Motorcycle"
  | .passengerCar => "PassengerCar"
  | .bus => "Bus"
  | .lightTruck => "LightTruck"
  | .heavyTruck => "HeavyTruck"
  | .trailer => "Trailer"
  | .specialVehicle => "SpecialVehicle"
  | .tram => "Tram"
  | .roadsideUnit => "RoadsideUnit"
  | .unknown code => s!"Unknown({code.toNat})"

end StationType
end GeoRouter
