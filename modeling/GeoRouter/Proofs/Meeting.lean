import GeoRouter.Proofs.Collision
import GeoRouter.Proofs.Order
import GeoRouter.Proofs.Reception
import GeoRouter.Relay.Line

/-!
# What stations of a line know of each other

The stations of a line come into being without a failure, each from its place in the line alone, and
so do their meetings, since no station meets more of the others than its table has room for. What a
station knows of others is said by `Stands`, which every meeting preserves, and `Ready` adds what
the station needs to hand a packet on.
-/

namespace GeoRouter.Relay

namespace Options

def mid (o : Options) (index : Nat) : Mid :=
  (Mid.draw (.ofSeed (o.seed + BitVec.ofNat 64 index))).1

def address (o : Options) (index : Nat) : Address := .pack false .roadsideUnit 0 (o.mid index)

def configured (o : Options) : Settings :=
  { defaultHopLimit := o.hopLimit.toUInt8, defaultPacketLifetime := o.lifetime }

/-- A station that has not met any other. -/
def lone (o : Options) (now index : Nat) : Station where
  router := {
    locations := .ofCapacity knownStations
    links := ⟨⟨[{ address := o.address index }], []⟩⟩
    settings := o.configured
    generator := (Mid.draw (.ofSeed (o.seed + BitVec.ofNat 64 index))).2
    management := { time := some now, position := some (o.position index) } }
  address := o.address index
  position := o.position index

theorem mid_address (o : Options) (index : Nat) : (o.address index).mid = o.mid index := by
  unfold address
  generalize o.mid index = mid
  rfl

theorem settings?_eq {o : Options} (hops : o.hopLimit.toNat ≤ 255)
    (lifetime : o.lifetime ≤ .ofSeconds 600) : o.settings? = .ok o.configured := by
  have narrow : o.hopLimit.toNat < UInt8.size := Nat.lt_succ_of_le hops
  have limits : ({} : Settings).set? .defaultHopLimit (.number o.hopLimit) =
      (Value.octet? o.hopLimit).map fun hops => { defaultHopLimit := hops } := rfl
  have lasts (s : Settings) : s.set? .defaultPacketLifetime (.duration o.lifetime) =
      if s.maxPacketLifetime < o.lifetime then none
      else some { s with defaultPacketLifetime := o.lifetime } := rfl
  have short : ¬ (({} : Settings).maxPacketLifetime < o.lifetime) := Nat.not_lt.mpr lifetime
  rw [Value.octet?, if_pos narrow] at limits
  unfold settings? Settings.set
  simp only [limits, Option.map_some, bind, Except.bind, lasts]
  rw [if_neg short]
  rfl

theorem station_eq (o : Options) (now index : Nat) :
    o.station o.configured now index = .ok (o.lone now index) := by
  unfold station lone address mid
  generalize o.seed + BitVec.ofNat 64 index = seed
  rfl

end Options

/-! ### The row of stations -/

theorem mapM_eq_map {α β ε : Type} {f : α → Except ε β} {g : α → β} {list : List α}
    (each : ∀ a ∈ list, f a = .ok (g a)) : list.mapM f = .ok (list.map g) := by
  induction list with
  | nil => rfl
  | cons a rest ih =>
    obtain ⟨first, others⟩ := List.forall_mem_cons.mp each
    rw [List.mapM_cons, first, ih others]
    rfl

namespace Options

def row (o : Options) (now : Nat) : List Station := (List.range o.count).map (o.lone now)

theorem line_eq (o : Options) (now : Nat) : o.line o.configured now = .ok (o.row now) :=
  mapM_eq_map fun index _ => o.station_eq now index

theorem length_row (o : Options) (now : Nat) : (o.row now).length = o.count := by
  rw [row, List.length_map, List.length_range]

theorem getElem?_row (o : Options) (now : Nat) (index : Nat) :
    (o.row now)[index]? = if index < o.count then some (o.lone now index) else none := by
  rw [row, List.getElem?_map]
  split
  · rename_i inside
    rw [List.getElem?_range inside]
    rfl
  · rename_i beyond
    rw [List.getElem?_eq_none (by simpa using beyond)]
    rfl

theorem getLast?_row (o : Options) (now : Nat) :
    (o.row now).getLast? = some (o.lone now (o.count - 1)) := by
  have several : 2 ≤ o.count := Nat.le_max_right ..
  rw [List.getLast?_eq_getElem?, length_row, getElem?_row, if_pos (by omega)]

end Options

/-! ### Meeting -/

namespace Station

/-- The headers of a packet that tells of a station what others are told when they meet it. -/
def greeting (station : Station) (now : Nat) (neighbour : Bool) : Headers where
  lifetime := ⟨0⟩
  remainingHops := if neighbour then 1 else 0
  next := .btpB
  trafficClass := {}
  mobile := false
  payloadLength := 0
  maxHops := 1
  extended := {
    sequence := ⟨0⟩
    source := station.position.vector station.address (.ofUnixMillis now)
    destination := {} }

theorem sighting_greeting (station : Station) (now : Nat) (neighbour : Bool) :
    Router.sighting (station.greeting now neighbour) = station.sighting now neighbour := by
  cases neighbour <;> rfl

theorem direct_greeting (station : Station) (now : Nat) (neighbour : Bool) :
    (station.greeting now neighbour).remainingHops = (station.greeting now neighbour).maxHops ↔
      neighbour = true := by
  cases neighbour <;> simp [greeting]

def met (station : Station) (now : Nat) (neighbour : Bool) (other : Station) : Station :=
  { station with
    router.locations := station.router.learned ⟨0⟩ (other.greeting now neighbour) }

theorem size_met_le (station : Station) (now : Nat) (neighbour : Bool) (other : Station) :
    (station.met now neighbour other).router.locations.size ≤ station.router.locations.size + 1 :=
  Router.size_learned_le ..

/-- Meeting a station is learning it from a packet. -/
theorem meet_eq {station other : Station} {now : Nat} {neighbour : Bool}
    (room : station.router.locations.HasRoom other.address.mid) :
    station.meet now neighbour other = .ok (station.met now neighbour other) := by
  have learn : station.router.learn ⟨0⟩ (other.greeting now neighbour) =
      .ok (station.met now neighbour other).router := by
    rw [Router.learn_eq]
    exact if_pos room
  unfold Router.learn at learn
  rw [sighting_greeting] at learn
  have source : (other.greeting now neighbour).extended.source.address = other.address := rfl
  rw [source] at learn
  dsimp only at learn
  unfold meet
  cases added : station.router.locations.add other.address with
  | error reason =>
    rw [added] at learn
    cases learn
  | ok table =>
    rw [added] at learn
    simp only [Except.bind, bind] at learn ⊢
    cases updated : table.update other.address.mid (other.sighting now neighbour) with
    | error reason =>
      rw [updated] at learn
      cases learn
    | ok table =>
      rw [updated] at learn
      have same := Except.ok.inj learn
      simp only [pure, Except.pure]
      exact congrArg (fun router => Except.ok { station with router }) same

end Station

/-! ### What the stations know -/

namespace Options

/-- A table tells of stations of the line, and where those are. Its neighbours are no farther along
the line than the next one. -/
def Mapped (o : Options) (index : Nat) (table : LocationTable) : Prop :=
  ∀ entry ∈ table.entries, ∃ k, k < o.count ∧ (entry.neighbour = true → k ≤ index + 1) ∧
    entry.mid = o.mid k ∧ entry.position.point = (o.position k).point

theorem Mapped.learned {o : Options} {index k : Nat} {r : Router} {h : Headers}
    (mapped : o.Mapped index r.locations) (now : Instant) (inside : k < o.count)
    (near : h.remainingHops = h.maxHops → k ≤ index + 1) (origin : h.origin = o.mid k)
    (source : h.extended.source.point = (o.position k).point) :
    o.Mapped index (r.learned now h) := by
  intro entry member
  by_cases room : r.locations.HasRoom h.origin
  · obtain ⟨-, placed⟩ := Router.learned_places now room
    rcases placed.mem member with rfl | old
    · exact ⟨k, inside, fun heard => near (of_decide_eq_true heard),
        (Router.mid_lesson ..).trans origin, source⟩
    · exact mapped entry old
  · rw [Router.learned_of_crowded now room] at member
    exact mapped entry member

/-- A station at its place in the line, which knows others of the line from the time of `now` and
has not sent or received anything. -/
structure Stands (o : Options) (now index : Nat) (station : Station) : Prop where
  address : station.address = o.address index
  links : station.router.links = ⟨⟨[{ address := o.address index }], []⟩⟩
  settings : station.router.settings = o.configured
  management :
    station.router.management = { time := some now, position := some (o.position index) }
  sequence : station.router.sequence = .first
  capacity : station.router.locations.capacity = knownStations
  mapped : o.Mapped index station.router.locations
  heard : ∀ entry ∈ station.router.locations.entries,
    entry.stamp = ⟨.ofUnixMillis now, ⟨0⟩⟩ ∧ entry.isAlive ⟨0⟩ = true

theorem stands_lone (o : Options) (now index : Nat) : o.Stands now index (o.lone now index) where
  address := rfl
  links := rfl
  settings := rfl
  management := rfl
  sequence := rfl
  capacity := rfl
  mapped _ member := absurd member List.not_mem_nil
  heard _ member := absurd member List.not_mem_nil

section Standing

variable {o : Options} {now index : Nat} {station : Station}

theorem Stands.met {other : Station} {neighbour : Bool} {k : Nat}
    (stands : o.Stands now index station) (inside : k < o.count)
    (near : neighbour = true → k ≤ index + 1) (named : other.address.mid = o.mid k)
    (placed : other.position.point = (o.position k).point) :
    o.Stands now index (station.met now neighbour other) where
  address := stands.address
  links := stands.links
  settings := stands.settings
  management := stands.management
  sequence := stands.sequence
  capacity := (Router.capacity_learned ..).trans stands.capacity
  mapped := stands.mapped.learned ⟨0⟩ inside (near ∘ (other.direct_greeting now neighbour).mp) named
    placed
  heard := by
    intro entry member
    by_cases room : station.router.locations.HasRoom (other.greeting now neighbour).origin
    · obtain ⟨-, placed⟩ := Router.learned_places ⟨0⟩ room
      rcases placed.mem member with rfl | old
      · have lives : (station.router.lesson ⟨0⟩ (other.greeting now neighbour)).expires =
            .on (Instant.later ⟨0⟩ o.configured.entryLifetime) := by
          rw [← stands.settings]
          rfl
        have long : o.configured.entryLifetime = .ofSeconds 20 := rfl
        refine ⟨rfl, ?_⟩
        rw [Entry.isAlive, lives, long]
        decide
      · exact stands.heard entry old
    · have same := Router.learned_of_crowded ⟨0⟩ room
      rw [Station.met, same] at member
      exact stands.heard entry member

theorem Stands.room (stands : o.Stands now index station)
    (few : station.router.locations.size < knownStations) (mid : Mid) :
    station.router.locations.HasRoom mid := by
  refine .inr fun full => ?_
  rw [LocationTable.Full, stands.capacity] at full
  exact Nat.ne_of_lt few full

/-- A station that was met is found, as a neighbour if it is one. -/
theorem Stands.find?_met (stands : o.Stands now index station)
    (few : station.router.locations.size < knownStations) (neighbour : Bool) (other : Station) :
    ∃ entry, (station.met now neighbour other).router.locations.find? other.address.mid =
      some entry ∧ entry.position.point = other.position.point ∧ entry.neighbour = neighbour := by
  refine ⟨_, (Router.find?_learned (stands.room few _) _).trans (if_pos rfl), rfl, ?_⟩
  cases neighbour <;> rfl

theorem Stands.owns_iff (stands : o.Stands now index station) (mid : Mid) :
    station.router.links.owns mid = true ↔ o.mid index = mid := by
  rw [stands.links, Links.owns_iff]
  simp [Links.toList, Link.mid, mid_address]

theorem Stands.mac (stands : o.Stands now index station) :
    station.adapter.address = (o.mid index).mac := by
  rw [← o.mid_address, ← stands.address]
  rfl

/-- What was heard just now is not swept out. -/
theorem Stands.locations_poll (stands : o.Stands now index station) :
    (station.router.poll ⟨0⟩).2.locations = station.router.locations := by
  have kept := LocationTable.expire_of_alive fun entry member => (stands.heard entry member).2
  unfold Router.poll
  split
  · exact kept
  · rfl

theorem Stands.poll (stands : o.Stands now index station) :
    o.Stands now index { station with router := (station.router.poll ⟨0⟩).2 } := by
  have locations := stands.locations_poll
  obtain ⟨_, sweep, sweepTicket, frame⟩ := station.router.poll_frame ⟨0⟩
  constructor
  · exact stands.address
  · rw [frame]
    exact stands.links
  · rw [frame]
    exact stands.settings
  · rw [frame]
    exact stands.management
  · rw [frame]
    exact stands.sequence
  · rw [locations]
    exact stands.capacity
  · rw [locations]
    exact stands.mapped
  · rw [locations]
    exact stands.heard

/-- The first packet of a station is newer than what was heard at a meeting of the same time. -/
theorem Stands.fresh (stands : o.Stands now index station) (mid : Mid) :
    station.router.locations.knows mid ⟨.ofUnixMillis now, .first⟩ = false := by
  cases found : station.router.locations.find? mid with
  | none =>
    unfold LocationTable.knows
    rw [found]
    rfl
  | some entry =>
    obtain ⟨stamp, -⟩ := stands.heard entry (List.mem_of_find?_eq_some found)
    have later : SequenceNumber.newer .first ⟨0⟩ = true := by decide
    rw [LocationTable.knows_of_found found, stamp, Stamp.newer, later]
    simp

/-- A station that knows the next one as its neighbour and has slots for others. -/
structure Ready (o : Options) (now index : Nat) (station : Station) : Prop
    extends Stands o now index station where
  few : station.router.locations.size < knownStations
  next : index + 1 < o.count →
    ∃ entry, station.router.locations.find? (o.mid (index + 1)) = some entry ∧
      entry.neighbour = true

theorem Ready.poll (ready : o.Ready now index station) :
    o.Ready now index { station with router := (station.router.poll ⟨0⟩).2 } := by
  have stands := ready.toStands.poll
  have locations := ready.locations_poll
  refine ⟨stands, ?_, ?_⟩
  · rw [locations]
    exact ready.few
  · rw [locations]
    exact ready.next

end Standing

/-! ### Meeting the neighbours -/

/-- A station that has met the one before it, if there is one. -/
def halfway (o : Options) (now index : Nat) : Station :=
  if index = 0 then o.lone now index
  else (o.lone now index).met now true (o.lone now (index - 1))

/-- A station that has met those next to it. -/
def acquainted (o : Options) (now index : Nat) : Station :=
  if index + 1 < o.count then (o.halfway now index).met now true (o.lone now (index + 1))
  else o.halfway now index

theorem stands_halfway (o : Options) (now : Nat) {index : Nat} (inside : index < o.count) :
    o.Stands now index (o.halfway now index) ∧ (o.halfway now index).router.locations.size ≤ 1 := by
  have alone := o.stands_lone now index
  unfold halfway
  split
  · exact ⟨alone, Nat.zero_le _⟩
  · have before : index - 1 < o.count := by omega
    exact ⟨alone.met before (fun _ => by omega) (o.mid_address _) rfl, Station.size_met_le ..⟩

theorem ready_acquainted (o : Options) (now : Nat) {index : Nat} (inside : index < o.count) :
    o.Ready now index (o.acquainted now index) := by
  obtain ⟨stands, few⟩ := o.stands_halfway now inside
  unfold acquainted
  split
  · rename_i further
    have room : (o.halfway now index).router.locations.size < knownStations :=
      Nat.lt_of_le_of_lt few (by decide)
    have grown := (o.halfway now index).size_met_le now true (o.lone now (index + 1))
    refine ⟨stands.met further (fun _ => Nat.le_refl _) (o.mid_address _) rfl,
      Nat.lt_of_le_of_lt (Nat.le_trans grown (Nat.succ_le_succ few)) (by decide), fun _ => ?_⟩
    obtain ⟨entry, found, -, heard⟩ := stands.find?_met room true (o.lone now (index + 1))
    rw [← o.mid_address]
    exact ⟨entry, found, heard⟩
  · rename_i last
    exact ⟨stands, Nat.lt_of_le_of_lt few (by decide), fun further => absurd further last⟩

theorem meets_before (o : Options) (now : Nat) {index : Nat} (inside : index < o.count) :
    (if index = 0 then none else (o.row now)[index - 1]?).toList.foldlM (Station.meet · now true)
      (o.lone now index) = .ok (o.halfway now index) := by
  have room := (o.stands_lone now index).room (Nat.zero_lt_succ _)
    (o.lone now (index - 1)).address.mid
  unfold halfway
  split
  · rfl
  · rw [getElem?_row, if_pos (by omega), Option.toList_some, List.foldlM_cons,
      Station.meet_eq room]
    rfl

theorem meets_behind (o : Options) (now : Nat) {index : Nat} (inside : index < o.count) :
    (o.row now)[index + 1]?.toList.foldlM (Station.meet · now true) (o.halfway now index) =
      .ok (o.acquainted now index) := by
  obtain ⟨stands, few⟩ := o.stands_halfway now inside
  have room := stands.room (Nat.lt_of_le_of_lt few (by decide))
    (o.lone now (index + 1)).address.mid
  unfold acquainted
  rw [getElem?_row]
  split
  · rw [Option.toList_some, List.foldlM_cons, Station.meet_eq room]
    rfl
  · rfl

theorem meetNeighbours_eq (o : Options) (now : Nat) :
    meetNeighbours now (o.row now) = .ok ((List.range o.count).map (o.acquainted now)) := by
  have places : (o.row now).zipIdx =
      (List.range o.count).map fun index => (o.lone now index, index) := by
    apply List.ext_getElem
    · simp [row]
    · intro i _ _
      simp [row]
  unfold meetNeighbours
  rw [places, List.mapM_map]
  refine mapM_eq_map fun index member => ?_
  have inside := List.mem_range.mp member
  simp only [List.foldlM_append, Function.comp_apply, o.meets_before now inside]
  exact o.meets_behind now inside

end Options
end GeoRouter.Relay
