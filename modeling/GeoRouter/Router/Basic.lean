import GeoRouter.Clock.Timer
import GeoRouter.Router.Counters
import GeoRouter.Router.Duplicate
import GeoRouter.Router.Links
import GeoRouter.Router.Management
import GeoRouter.Router.Settings

/-!
# The state of a router

Everything that a router keeps from one packet to the next, the sweep that takes expired entries out
of the location table at most once a second, and the binding of new links.
-/

namespace GeoRouter

def sweepPeriod : Duration := .ofSeconds 1

structure Router where
  locations : LocationTable
  links : Links
  settings : Settings := {}
  /-- The number of the next packet of the router itself. -/
  sequence : SequenceNumber := .first
  generator : Generator := .ofSeed 0
  management : Management := {}
  counters : Counters := {}
  sweep : Timer := { period := sweepPeriod }
  sweepTicket : Option Ticket := none
  deriving DecidableEq

namespace Router

def localAddress? (r : Router) (mac : Mac) : Option Address :=
  (r.links.find? (.ofMac mac)).map (·.address)

def reseed (r : Router) (seed : BitVec 64) : Router := { r with generator := .ofSeed seed }

def discard (r : Router) (cause : Cause) : Router :=
  { r with counters := r.counters.discard cause }

/-- Whether the table may be swept: it never was, or the period since the last sweep is over. -/
def sweepDue (r : Router) (now : Instant) : Bool :=
  match r.sweepTicket with
  | none => true
  | some ticket => (r.sweep.fire ticket now).1

/-- Takes expired entries out of the table if it may be swept, and counts them. -/
def poll (r : Router) (now : Instant) : Nat × Router :=
  if r.sweepDue now then
    let (sweep, ticket) := r.sweep.arm now
    let (count, locations) := r.locations.expire now
    (count, { r with locations, sweep, sweepTicket := some ticket })
  else (0, r)

/-- Makes an address and binds a device to it. An address that is made but finds no free slot has
been drawn nevertheless. -/
def addLink (r : Router) (device : DeviceId) (configuration : Configuration)
    (type : StationType) (country : UInt16) : Except OperationError Address × Router :=
  let (address, generator) := configuration.address r.generator type country
  let r := { r with generator }
  match address with
  | .error reason => (.error reason, r)
  | .ok address =>
    match r.links.bind device address with
    | .error reason => (.error reason, r)
    | .ok links => (.ok address, { r with links })

end Router
end GeoRouter
