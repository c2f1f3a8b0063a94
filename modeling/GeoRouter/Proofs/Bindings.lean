import GeoRouter.Storage.Backing
import GeoRouter.Proofs.DeviceOrder

/-!
# Links as a map

A router has one address for a device: the one that the device was last bound to, with the
identifiers that it was given since. `Bindings.Answers` says call by call what a map from devices to
addresses answers that has room for a fixed number of them, without a word on places in a list. The
links are in the order of their devices, so that a device may be sought by halving, while an identifier
is sought by a look at all links, of which the lowest device with the identifier comes first.
-/

namespace GeoRouter

/-! ### Calls -/

inductive LinkCall where
  | bind (device : DeviceId) (address : Address)
  | add (device : DeviceId) (configuration : Configuration) (type : StationType)
    (country : UInt16)
  | replace (mid fresh : Mid)

inductive LinkAnswer where
  | bound
  | address (address : Address)
  | refused (reason : OperationError)
  /-- No link has the identifier that is to be replaced. -/
  | unused

/-- Only an address that is made draws an identifier. -/
def LinkCall.draws (g : Generator) : LinkCall → Generator
  | .add _ .automatic _ _ => g.advance
  | _ => g

namespace Router

def linkCall (r : Router) : LinkCall → LinkAnswer × Router
  | .bind device address =>
    match r.links.bind device address with
    | .ok links => (.bound, { r with links })
    | .error reason => (.refused reason, r)
  | .add device configuration type country =>
    match r.addLink device configuration type country with
    | (.ok address, after) => (.address address, after)
    | (.error reason, after) => (.refused reason, after)
  | .replace mid fresh =>
    match r.links.replaceMid mid fresh with
    | some (address, links) => (.address address, { r with links })
    | none => (.unused, r)

def linkCalls (r : Router) : List LinkCall → List LinkAnswer × Router
  | [] => ([], r)
  | call :: rest =>
    let (answer, after) := r.linkCall call
    let (answers, last) := after.linkCalls rest
    (answer :: answers, last)

end Router

/-! ### The map -/

/-- The bits that do not tell a station from others: whether the address was set by hand, the type
and the country. -/
def Address.upper (address : Address) : BitVec 16 := address.raw.extractLsb' 48 16

theorem Address.upper_eq (address : Address) : address.upper =
    BitVec.ofBool address.manual ++ address.station ++ address.country :=
  BitVec.extractLsb'_append_eq_left

theorem Address.raw_withMid (address : Address) (fresh : Mid) :
    (address.withMid fresh).raw = address.upper ++ fresh.val := by
  rw [upper_eq]
  rfl

theorem Address.upper_withMid (address : Address) (fresh : Mid) :
    (address.withMid fresh).upper = address.upper := by
  rw [upper_eq, upper_eq]
  rfl

/-- The address that each device is bound to, as far as it is. -/
abbrev Bindings := DeviceId → Option Address

namespace Bindings

noncomputable def count (known : Bindings) : Nat := {device | (known device).isSome}.ncard

/-- The lowest device with an identifier, and its address. -/
structure Lowest (known : Bindings) (mid : Mid) (device : DeviceId) (address : Address) : Prop where
  bound : known device = some address
  own : address.mid = mid
  first : ∀ other < device, ∀ theirs, known other = some theirs → theirs.mid ≠ mid

/-- A device is bound, unless it is a new one and there is no room. -/
def Binds (room : Nat) (known : Bindings) (device : DeviceId) (address : Address)
    (granted answer : LinkAnswer) (after : Bindings) : Prop :=
  if known device = none ∧ known.count = room then
    answer = .refused .exhausted ∧ after = known
  else answer = granted ∧ after = Function.update known device (some address)

/-- What a map with room for `room` devices answers to a call for which `drawn` is the identifier
that would be drawn, and what it knows afterwards. -/
def Answers (room : Nat) (known : Bindings) (drawn : Mid) :
    LinkCall → LinkAnswer → Bindings → Prop
  | .bind device address, answer, after => known.Binds room device address .bound answer after
  | .add device configuration type country, answer, after =>
    if configuration = .automatic then
      let address : Address := .pack false type country drawn
      known.Binds room device address (.address address) answer after
    else answer = .refused .illegal ∧ after = known
  | .replace mid fresh, answer, after =>
    (∃ device address renewed, known.Lowest mid device address ∧
      renewed.raw = address.upper ++ fresh.val ∧
      answer = .address renewed ∧ after = Function.update known device (some renewed)) ∨
    (∀ device address, known device = some address → address.mid ≠ mid) ∧
      answer = .unused ∧ after = known

inductive Runs (room : Nat) :
    Bindings → Generator → List LinkCall → List LinkAnswer → Bindings → Prop where
  | done {known : Bindings} {g : Generator} : Runs room known g [] [] known
  | next {known middle after : Bindings} {g : Generator} {call : LinkCall} {answer : LinkAnswer}
    {calls : List LinkCall} {answers : List LinkAnswer}
    (first : known.Answers room (Mid.draw g).1 call answer middle)
    (rest : Runs room middle (call.draws g) calls answers after) :
    Runs room known g (call :: calls) (answer :: answers) after

theorem Lowest.unique {known : Bindings} {mid : Mid} {device other : DeviceId}
    {address theirs : Address} (one : known.Lowest mid device address)
    (two : known.Lowest mid other theirs) : device = other ∧ address = theirs := by
  obtain rfl : device = other := by
    apply Std.Trichotomous.trichotomous (r := (· < ·))
    · exact fun below => two.first device below address one.bound one.own
    · exact fun below => one.first other below theirs two.bound two.own
  exact ⟨rfl, Option.some.inj (one.bound.symm.trans two.bound)⟩

end Bindings

/-! ### Links in order -/

/-- One device has a new address, and the others are bound as before. -/
theorem Link.Bound.mem_iff {device : DeviceId} {address : Address} {before after : List Link}
    (bound : Link.Bound device address before after)
    (sorted : SortedStore.Sorted Link.device before) (link : Link) :
    link ∈ after ↔ link = ⟨device, address⟩ ∨ link.device ≠ device ∧ link ∈ before := by
  have kept := bound.sorted sorted
  cases bound with
  | again own =>
    have apart := sorted.apart
    rw [own] at apart
    grind
  | anew below above =>
    have apart := kept.apart
    grind

namespace Links

def index (links : Links) (device : DeviceId) : Option Nat :=
  match SortedStore.halve Link.device device links.toList 0 links.size with
  | .found index => some index
  | .vacant _ => none

/-- The address of a device, sought by halving the links. -/
def lookup (links : Links) (device : DeviceId) : Option Address :=
  ((links.index device).bind fun index => links.toList[index]?).map (·.address)

section Ordered

variable {links : Links} (ordered : links.Ordered)
include ordered

theorem Ordered.index_eq (device : DeviceId) :
    links.index device = links.toList.findIdx? fun link => link.device = device :=
  (SortedStore.Sorted.findIdx?_eq_halve ordered device).symm

theorem Ordered.lookup_eq (device : DeviceId) : links.lookup device = links.address? device := by
  rw [lookup, ordered.index_eq, address?, List.find?_eq_bind_findIdx?_getElem?]

theorem Ordered.address?_eq_some_iff {device : DeviceId} {address : Address} :
    links.address? device = some address ↔ ⟨device, address⟩ ∈ links.toList := by
  rw [address?, Option.map_eq_some_iff]
  constructor
  · rintro ⟨link, found, rfl⟩
    obtain ⟨member, rfl⟩ := (SortedStore.Sorted.find?_eq_some_iff ordered).mp found
    exact member
  · intro member
    exact ⟨_, SortedStore.Sorted.find?_of_mem ordered member, rfl⟩

theorem Ordered.count_eq : Bindings.count links.address? = links.size := by
  have devices : {device | (links.address? device).isSome} =
      {device | ∃ link ∈ links.toList, link.device = device} := by
    ext device
    simp only [Set.mem_ofPred_eq, Option.isSome_iff_exists, ordered.address?_eq_some_iff]
    constructor
    · rintro ⟨address, member⟩
      exact ⟨_, member, rfl⟩
    · rintro ⟨link, member, rfl⟩
      exact ⟨link.address, member⟩
  rw [Bindings.count, devices, SortedStore.Sorted.ncard_keys ordered]
  rfl

theorem Ordered.address?_bound {after : Links} {device : DeviceId} {address : Address}
    (bound : Link.Bound device address links.toList after.toList) :
    after.address? = Function.update links.address? device (some address) := by
  have kept := ordered.bound bound
  funext other
  ext theirs
  rw [kept.address?_eq_some_iff, bound.mem_iff ordered, Function.update_apply]
  split
  · rename_i same
    simp [same, eq_comm]
  · rename_i apart
    simp [apart, ordered.address?_eq_some_iff]

/-- The first link with an identifier is that of the lowest device. -/
theorem Ordered.lowest_of_first {earlier later : List Link} {link : Link} {mid : Mid}
    (split : links.toList = earlier ++ link :: later) (own : link.mid = mid)
    (first : ∀ other ∈ earlier, other.mid ≠ mid) :
    Bindings.Lowest links.address? mid link.device link.address := by
  refine ⟨ordered.address?_eq_some_iff.mpr ?_, own, ?_⟩
  · simp [split]
  · intro other below theirs bound
    rw [ordered.address?_eq_some_iff, split] at bound
    unfold Links.Ordered at ordered
    rw [split] at ordered
    obtain ⟨-, behind, -⟩ := List.pairwise_append.mp ordered
    obtain ⟨above, -⟩ := List.pairwise_cons.mp behind
    rcases List.mem_append.mp bound with early | late
    · exact first _ early
    · rcases List.mem_cons.mp late with same | late
      · exact absurd (congrArg Link.device same ▸ below) (UInt16.lt_irrefl _)
      · exact absurd (UInt16.lt_trans below (above _ late)) (UInt16.lt_irrefl _)

theorem Ordered.lowest_of_renewed {after : List Link} {mid fresh : Mid} {link : Link}
    (renewed : Link.Renewed mid fresh link links.toList after) :
    Bindings.Lowest links.address? mid link.device link.address := by
  generalize list : links.toList = before at renewed
  cases renewed with
  | first own apart => exact ordered.lowest_of_first list own apart

theorem Ordered.find?_eq_some_iff {mid : Mid} {link : Link} :
    links.find? mid = some link ↔
      Bindings.Lowest links.address? mid link.device link.address := by
  have lowest : ∀ {other}, links.find? mid = some other →
      Bindings.Lowest links.address? mid other.device other.address := by
    intro other found
    obtain ⟨own, earlier, later, split, first⟩ := List.find?_eq_some_iff_append.mp found
    exact ordered.lowest_of_first split (of_decide_eq_true own) fun link early => by
      simpa using first link early
  refine ⟨lowest, fun least => ?_⟩
  have owned : links.owns mid = true :=
    owns_iff.mpr ⟨link, ordered.address?_eq_some_iff.mp least.bound, least.own⟩
  obtain ⟨other, found⟩ := Option.isSome_iff_exists.mp owned
  obtain ⟨device, address⟩ := least.unique (lowest found)
  rw [found, show link = other from congr (congrArg Link.mk device) address]

theorem Ordered.owns_iff {mid : Mid} :
    links.owns mid = true ↔ ∃ device address, links.address? device = some address ∧
      address.mid = mid := by
  simp only [ordered.address?_eq_some_iff]
  rw [Links.owns_iff]
  constructor
  · rintro ⟨link, member, own⟩
    exact ⟨link.device, link.address, member, own⟩
  · rintro ⟨device, address, member, own⟩
    exact ⟨_, member, own⟩

omit ordered in
theorem address?_eq_none_iff {device : DeviceId} :
    links.address? device = none ↔
      links.toList.findIdx? (fun link => link.device = device) = none := by
  simp [address?]

/-! ### Single calls -/

theorem Ordered.bind_answers (device : DeviceId) (address : Address) (granted : LinkAnswer) :
    (∃ after, links.bind device address = .ok after ∧ after.Ordered ∧
      after.store.capacity = links.store.capacity ∧
      Bindings.Binds links.store.capacity links.address? device address granted granted
        after.address?) ∨
    links.bind device address = .error .exhausted ∧
      Bindings.Binds links.store.capacity links.address? device address granted
        (.refused .exhausted) links.address? := by
  cases place : links.toList.findIdx? fun link => link.device = device with
  | some index =>
    have known : links.address? device ≠ none := by
      rw [Ne, address?_eq_none_iff, place]
      exact nofun
    obtain ⟨after, done, bound, room⟩ := bind_of_known place address
    refine .inl ⟨after, done, ordered.bound bound, room, ?_⟩
    rw [Bindings.Binds, if_neg fun full => known full.1]
    exact ⟨rfl, ordered.address?_bound bound⟩
  | none =>
    have unknown := address?_eq_none_iff.mpr place
    have full : Bindings.count links.address? = links.store.capacity ↔ links.store.free = [] := by
      rw [ordered.count_eq]
      exact SortedStore.size_eq_capacity_iff
    cases free : links.store.free with
    | nil =>
      refine .inr ⟨bind_of_full place free address, ?_⟩
      rw [Bindings.Binds, if_pos ⟨unknown, full.mpr free⟩]
      exact ⟨rfl, rfl⟩
    | cons slot rest =>
      obtain ⟨after, done, bound, room⟩ := bind_of_free place free address
      refine .inl ⟨after, done, ordered.bound bound, room, ?_⟩
      rw [Bindings.Binds, if_neg fun short => by simp [full.mp short.2] at free]
      exact ⟨rfl, ordered.address?_bound bound⟩

end Ordered
end Links

namespace Router

theorem addLink_automatic (r : Router) (device : DeviceId) (type : StationType)
    (country : UInt16) : r.addLink device .automatic type country =
      match r.links.bind device (.pack false type country (Mid.draw r.generator).1) with
      | .error reason => (.error reason, { r with generator := r.generator.advance })
      | .ok links => (.ok (.pack false type country (Mid.draw r.generator).1),
        { r with generator := r.generator.advance, links }) := rfl

theorem addLink_of_other (r : Router) (device : DeviceId) {configuration : Configuration}
    (other : configuration ≠ .automatic) (type : StationType) (country : UInt16) :
    r.addLink device configuration type country = (.error .illegal, r) := by
  cases configuration with
  | automatic => exact absurd rfl other
  | managed | anonymous => rfl

theorem addLink_refused {r after : Router} {device : DeviceId} {configuration : Configuration}
    {type : StationType} {country : UInt16} {reason : OperationError}
    (refused : r.addLink device configuration type country = (.error reason, after)) :
    after.links = r.links := by
  by_cases automatic : configuration = .automatic
  · subst automatic
    rw [addLink_automatic] at refused
    generalize Address.pack false type country (Mid.draw r.generator).1 = address at refused
    cases bound : r.links.bind device address with
    | error cause =>
      rw [bound] at refused
      obtain ⟨-, rfl⟩ := Prod.mk.inj refused
      rfl
    | ok links =>
      rw [bound] at refused
      cases refused
  · rw [addLink_of_other r device automatic] at refused
    obtain ⟨-, rfl⟩ := Prod.mk.inj refused
    rfl

theorem links_of_refused {r : Router} {call : LinkCall} {reason : OperationError}
    (refused : (r.linkCall call).1 = .refused reason) : (r.linkCall call).2.links = r.links := by
  cases call with
  | bind device address =>
    cases bound : r.links.bind device address with
    | error cause => simp only [linkCall, bound]
    | ok links => simp [linkCall, bound] at refused
  | add device configuration type country =>
    cases added : r.addLink device configuration type country with | mk outcome after
    cases outcome with
    | error cause =>
      simp only [linkCall, added]
      exact addLink_refused added
    | ok address => simp [linkCall, added] at refused
  | replace mid fresh =>
    cases replaced : r.links.replaceMid mid fresh with
    | none => simp only [linkCall, replaced]
    | some change => simp [linkCall, replaced] at refused

/-- The lowest device with an identifier gives it up, and keeps the other bits of its address. -/
theorem replace_answers {r : Router} (ordered : r.links.Ordered) (mid fresh : Mid) :
    (r.linkCall (.replace mid fresh)).2.links.Ordered ∧
      (r.linkCall (.replace mid fresh)).2.links.store.capacity = r.links.store.capacity ∧
      (r.linkCall (.replace mid fresh)).2.generator = r.generator ∧
      ∀ room drawn, Bindings.Answers room r.links.address? drawn (.replace mid fresh)
        (r.linkCall (.replace mid fresh)).1 (r.linkCall (.replace mid fresh)).2.links.address? := by
  cases owned : r.links.owns mid with
  | true =>
    obtain ⟨link, after, renewed, replaced⟩ := Links.replaceMid_of_owned owned fresh
    simp only [linkCall, replaced]
    refine ⟨ordered.bound renewed.bound, Links.capacity_replaceMid replaced, trivial, ?_⟩
    intro room drawn
    refine .inl ⟨link.device, link.address, _, ordered.lowest_of_renewed renewed,
      link.address.raw_withMid fresh, rfl, ordered.address?_bound renewed.bound⟩
  | false =>
    have unused := Links.replaceMid_of_foreign owned fresh
    simp only [linkCall, unused]
    refine ⟨ordered, trivial, trivial, fun room drawn => .inr ⟨?_, rfl, rfl⟩⟩
    intro device address bound own
    rw [ordered.owns_iff.mpr ⟨device, address, bound, own⟩] at owned
    cases owned

theorem linkCall_answers {r : Router} (ordered : r.links.Ordered) (call : LinkCall) :
    (r.linkCall call).2.links.Ordered ∧
      (r.linkCall call).2.links.store.capacity = r.links.store.capacity ∧
      (r.linkCall call).2.generator = call.draws r.generator ∧
      Bindings.Answers r.links.store.capacity r.links.address? (Mid.draw r.generator).1 call
        (r.linkCall call).1 (r.linkCall call).2.links.address? := by
  cases call with
  | bind device address =>
    rcases ordered.bind_answers device address .bound with
      ⟨after, bound, kept, room, binds⟩ | ⟨refused, binds⟩
    · simp only [linkCall, bound]
      exact ⟨kept, room, rfl, binds⟩
    · simp only [linkCall, refused]
      exact ⟨ordered, trivial, rfl, binds⟩
  | add device configuration type country =>
    by_cases automatic : configuration = .automatic
    · subst automatic
      have added := r.addLink_automatic device type country
      generalize (Mid.draw r.generator).1 = drawn at added ⊢
      rcases ordered.bind_answers device (.pack false type country drawn)
        (.address (.pack false type country drawn)) with
        ⟨after, bound, kept, room, binds⟩ | ⟨refused, binds⟩
      · rw [bound] at added
        simp only [linkCall, added, Bindings.Answers, if_true]
        exact ⟨kept, room, rfl, binds⟩
      · rw [refused] at added
        simp only [linkCall, added, Bindings.Answers, if_true]
        exact ⟨ordered, trivial, rfl, binds⟩
    · simp only [linkCall, addLink_of_other r device automatic, Bindings.Answers, if_neg automatic]
      refine ⟨ordered, trivial, ?_, trivial, trivial⟩
      cases configuration with
      | automatic => exact absurd rfl automatic
      | managed | anonymous => rfl
  | replace mid fresh =>
    obtain ⟨kept, room, same, answers⟩ := replace_answers ordered mid fresh
    exact ⟨kept, room, same, answers _ _⟩

theorem linkCalls_runs {r : Router} (ordered : r.links.Ordered) (calls : List LinkCall) :
    (r.linkCalls calls).2.links.Ordered ∧
      (r.linkCalls calls).2.links.store.capacity = r.links.store.capacity ∧
      Bindings.Runs r.links.store.capacity r.links.address? r.generator calls
        (r.linkCalls calls).1 (r.linkCalls calls).2.links.address? := by
  induction calls generalizing r with
  | nil => exact ⟨ordered, rfl, .done⟩
  | cons call rest ih =>
    obtain ⟨kept, room, generator, answers⟩ := linkCall_answers ordered call
    obtain ⟨last, same, runs⟩ := ih kept
    rw [room] at same runs
    rw [generator] at runs
    exact ⟨last, same, .next answers runs⟩

/-- Links in storage of any kind, with anything left in its slots, are a map of addresses: they are in
the order of their devices, never more than there are slots, and answer every run of calls as the
empty map with room for that many devices does. An address is found by halving, an identifier by
a look at all of them, and a refused call leaves the links as they are. -/
theorem links_as_map (r : Router) (backing : Backing Link) (calls : List LinkCall) :
    let (answers, last) := { r with links := .ofSlots backing.toList }.linkCalls calls
    last.links.Ordered ∧ Bindings.count last.links.address? = last.links.size ∧
      last.links.size ≤ last.links.store.capacity ∧
      last.links.store.capacity = backing.toList.length ∧
      Bindings.Runs backing.toList.length (fun _ => none) r.generator calls answers
        last.links.address? ∧
      (∀ device address, ⟨device, address⟩ ∈ last.links.toList ↔
        last.links.address? device = some address) ∧
      (∀ device, last.links.index device =
        last.links.toList.findIdx? fun link => link.device = device) ∧
      (∀ device, last.links.lookup device = last.links.address? device) ∧
      (∀ mid device address, last.links.find? mid = some ⟨device, address⟩ ↔
        Bindings.Lowest last.links.address? mid device address) ∧
      (∀ mid, last.links.owns mid = true ↔
        ∃ device address, last.links.address? device = some address ∧ address.mid = mid) ∧
      ∀ call reason, (last.linkCall call).1 = .refused reason →
        (last.linkCall call).2.links = last.links := by
  have empty : Links.Ordered (.ofSlots backing.toList) := List.Pairwise.nil
  obtain ⟨ordered, room, runs⟩ :=
    linkCalls_runs (r := { r with links := .ofSlots backing.toList }) empty calls
  have slots : (Links.ofSlots backing.toList).store.capacity = backing.toList.length :=
    Nat.zero_add _
  rw [slots] at room runs
  refine ⟨ordered, ordered.count_eq, Nat.le_add_right .., room, runs, ?_, ordered.index_eq,
    ordered.lookup_eq, ?_, ?_, ?_⟩
  · exact fun device address => ordered.address?_eq_some_iff.symm
  · exact fun mid device address => ordered.find?_eq_some_iff
  · exact fun mid => ordered.owns_iff
  · exact fun call reason refused => links_of_refused refused

end Router
end GeoRouter
