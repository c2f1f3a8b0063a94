import GeoRouter.Address.Basic
import GeoRouter.Error
import GeoRouter.Router.Generator
import GeoRouter.Storage.Sorted

/-!
# Links

The devices of the router and the address that each is bound to, in the order of device numbers.
An address is one of the router's own if a link has its identifier.
-/

namespace GeoRouter

abbrev DeviceId := UInt16

structure Link where
  device : DeviceId := 0
  address : Address := .zero
  deriving DecidableEq

namespace Link

def mid (link : Link) : Mid := link.address.mid

instance : Ord Link := ⟨fun a b => compare a.device b.device⟩

end Link

inductive Configuration where
  /-- The identifier is drawn at random. -/
  | automatic
  /-- The management entity sets the address. -/
  | managed
  /-- A pseudonym is used for a while. -/
  | anonymous
  deriving DecidableEq

namespace Configuration

/-- Makes an address. Only drawing one is implemented, and only that uses the generator. -/
def address (configuration : Configuration) (g : Generator) (type : StationType)
    (country : UInt16) : Except OperationError Address × Generator :=
  match configuration with
  | .automatic =>
    let (mid, g) := Mid.draw g
    (.ok (.pack false type country mid), g)
  | _ => (.error .illegal, g)

end Configuration

/-- The links in the order of their devices, and free slots. -/
structure Links where
  store : SortedStore Link
  deriving DecidableEq

namespace Links

def ofSlots (slots : List Link) : Links := ⟨.ofList slots⟩

def ofCapacity (capacity : Nat) : Links := ofSlots (List.replicate capacity {})

def toList (links : Links) : List Link := links.store.items

def size (links : Links) : Nat := links.store.size

def isEmpty (links : Links) : Bool := links.size = 0

def address? (links : Links) (device : DeviceId) : Option Address :=
  (links.toList.find? fun link => link.device = device).map (·.address)

def find? (links : Links) (mid : Mid) : Option Link :=
  links.toList.find? fun link => link.mid = mid

def owns (links : Links) (mid : Mid) : Bool := (links.find? mid).isSome

def bind (links : Links) (device : DeviceId) (address : Address) : Except OperationError Links :=
  match links.toList.findIdx? fun link => link.device = device with
  | some index => .ok ⟨links.store.modify index fun link => { link with address }⟩
  | none =>
    match links.store.insert Link.device ⟨device, address⟩ with
    | some (_, store) => .ok ⟨store⟩
    | none => .error .exhausted

/-- Gives the first link with an identifier a fresh one, and tells the new address. -/
def replaceMid (links : Links) (mid fresh : Mid) : Option (Address × Links) :=
  match links.toList.findIdx? (fun link => link.mid = mid), links.find? mid with
  | some index, some link =>
    let address := link.address.withMid fresh
    some (address, ⟨links.store.modify index fun link => { link with address }⟩)
  | _, _ => none

end Links
end GeoRouter
