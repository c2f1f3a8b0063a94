import GeoRouter.Clock.Instant
import GeoRouter.Packet.Headers
import GeoRouter.Storage.Sorted

/-!
# The location table

What the router knows of other stations, by their identifiers: where a station was, whether it was
heard directly, the last packet that was taken from it, and how long all that is to be believed.
-/

namespace GeoRouter

/-- What is known of a station. The address stays as it was when the entry was made. -/
structure Entry where
  address : Address := .zero
  stationType : StationType := .unspecified
  /-- The version of the protocol that the station speaks. -/
  version : UInt8 := protocolVersion
  position : LongPositionVector := {}
  /-- A request for the position of the station is under way. -/
  pending : Bool := false
  /-- The station was heard directly. -/
  neighbour : Bool := false
  /-- The number of the last packet that was taken. -/
  sequence : SequenceNumber := ⟨0⟩
  timestamp : Timestamp := ⟨0⟩
  /-- An estimate of the rate of packets, in octets per second. -/
  rate : UInt32 := 0
  expires : Expiration := .never
  deriving DecidableEq

namespace Entry

def ofAddress (address : Address) : Entry := { address, stationType := address.stationType }

def mid (entry : Entry) : Mid := entry.address.mid

def renew (entry : Entry) (now : Instant) (lifetime : Duration) : Entry :=
  { entry with expires := .on (now.later lifetime) }

def isAlive (entry : Entry) (now : Instant) : Bool := !entry.expires.passed now

instance : Ord Entry := ⟨fun a b => compare a.address b.address⟩

end Entry

inductive LocationError where
  | noSpace
  | entryNotFound
  deriving DecidableEq

namespace LocationError

def name : LocationError → String
  | .noSpace => "NoSpace"
  | .entryNotFound => "EntryNotFound"

end LocationError

/-- What a packet tells about its source. -/
structure Sighting where
  position : LongPositionVector
  neighbour : Bool
  sequence : SequenceNumber
  stationType : StationType
  timestamp : Timestamp
  deriving DecidableEq

namespace Entry

def update (entry : Entry) (seen : Sighting) : Entry :=
  { entry with
    position := seen.position
    neighbour := seen.neighbour
    sequence := seen.sequence
    stationType := seen.stationType
    timestamp := seen.timestamp
    pending := false }

end Entry

/-- Entries in the order of identifiers, and free slots. -/
structure LocationTable where
  store : SortedStore Entry
  deriving DecidableEq

namespace LocationTable

def ofSlots (slots : List Entry) : LocationTable := ⟨.ofList slots⟩

def ofCapacity (capacity : Nat) : LocationTable := ofSlots (List.replicate capacity {})

def entries (table : LocationTable) : List Entry := table.store.items

def size (table : LocationTable) : Nat := table.store.size

def capacity (table : LocationTable) : Nat := table.store.capacity

def index? (table : LocationTable) (mid : Mid) : Option Nat :=
  table.entries.findIdx? fun entry => entry.mid = mid

def find? (table : LocationTable) (mid : Mid) : Option Entry :=
  table.entries.find? fun entry => entry.mid = mid

/-- Changes the entry of a station, whose address has to stay. -/
def modify (table : LocationTable) (mid : Mid) (f : Entry → Entry) : LocationTable :=
  match table.index? mid with
  | some index => ⟨table.store.modify index f⟩
  | none => table

def add (table : LocationTable) (address : Address) : Except LocationError LocationTable :=
  match table.find? address.mid with
  | some _ => .ok table
  | none =>
    match table.store.insert Entry.mid (.ofAddress address) with
    | some (_, store) => .ok ⟨store⟩
    | none => .error .noSpace

def update (table : LocationTable) (mid : Mid) (seen : Sighting) :
    Except LocationError LocationTable :=
  match table.find? mid with
  | some _ => .ok (table.modify mid (·.update seen))
  | none => .error .entryNotFound

/-- Lets the entry of a station live until `lifetime` after `now`. -/
def renew (table : LocationTable) (mid : Mid) (now : Instant) (lifetime : Duration) :
    LocationTable :=
  table.modify mid (·.renew now lifetime)

def remove (table : LocationTable) (mid : Mid) :
    Except LocationError (Entry × LocationTable) :=
  match table.find? mid, (table.index? mid).bind table.store.pop with
  | some entry, some store => .ok (entry, ⟨store⟩)
  | _, _ => .error .entryNotFound

def expire (table : LocationTable) (now : Instant) : Nat × LocationTable :=
  let store := table.store.retain (·.isAlive now)
  (table.size - store.size, ⟨store⟩)

def neighbours (table : LocationTable) : List Entry := table.entries.filter (·.neighbour)

end LocationTable
end GeoRouter
