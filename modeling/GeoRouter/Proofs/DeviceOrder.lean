import GeoRouter.Proofs.Order
import GeoRouter.Proofs.Residence

/-!
# Links in the order of their devices

A device is bound at its place in the order, or where it was bound before, and a link that gives up
its identifier keeps its device. So the links of a host whose links are in order are so after every
turn, and the first of them belongs to the lowest device.
-/

namespace GeoRouter

instance : IsStrictTotalOrder DeviceId (· < ·) where
  trichotomous _ _ notBelow notAbove :=
    UInt16.le_antisymm (UInt16.not_lt.mp notAbove) (UInt16.not_lt.mp notBelow)
  irrefl _ := UInt16.lt_irrefl _
  trans _ _ _ := UInt16.lt_trans

/-- A device has a new address: in its place if it was bound before, and else where it belongs in
the order. -/
inductive Link.Bound (device : DeviceId) (address : Address) : List Link → List Link → Prop where
  | again {earlier later : List Link} {old : Link} (own : old.device = device) :
    Bound device address (earlier ++ old :: later) (earlier ++ ⟨device, address⟩ :: later)
  | anew {earlier later : List Link} (below : ∀ other ∈ earlier, other.device < device)
    (above : ∀ other ∈ later.head?, device < other.device) :
    Bound device address (earlier ++ later) (earlier ++ ⟨device, address⟩ :: later)

namespace Link

theorem Bound.sorted {device : DeviceId} {address : Address} {before after : List Link}
    (bound : Bound device address before after) (sorted : SortedStore.Sorted Link.device before) :
    SortedStore.Sorted Link.device after := by
  cases bound with
  | again own =>
    apply sorted.of_keys
    rw [List.map_append, List.map_append, List.map_cons, List.map_cons, own]
  | anew below above => exact sorted.place below above

/-- To give up an identifier is to be bound to another address. -/
theorem Renewed.bound {mid fresh : Mid} {link : Link} {before after : List Link}
    (renewed : Renewed mid fresh link before after) :
    Bound link.device (link.address.withMid fresh) before after := by
  cases renewed with
  | first own apart => exact .again rfl

end Link

namespace Links

/-- The devices are strictly increasing. -/
def Ordered (links : Links) : Prop := SortedStore.Sorted Link.device links.toList

theorem ordered_ofSlots (slots : List Link) : (ofSlots slots).Ordered := List.Pairwise.nil

theorem Ordered.bound {links after : Links} {device : DeviceId} {address : Address}
    (ordered : links.Ordered) (bound : Link.Bound device address links.toList after.toList) :
    after.Ordered :=
  bound.sorted ordered

theorem bind_of_known {links : Links} {device : DeviceId} {index : Nat}
    (known : links.toList.findIdx? (fun link => link.device = device) = some index)
    (address : Address) : ∃ after, links.bind device address = .ok after ∧
      Link.Bound device address links.toList after.toList ∧
      after.store.capacity = links.store.capacity := by
  refine ⟨⟨links.store.modify index fun link => { link with address }⟩, ?_, ?_, ?_⟩
  · rw [Links.bind, known]
  · obtain ⟨earlier, old, later, split, own, -, -, changed⟩ := SortedStore.modify_of_first known
    obtain rfl := of_decide_eq_true own
    show Link.Bound old.device address links.toList (links.toList.modify index _)
    rw [changed, split]
    exact .again rfl
  · simp only [SortedStore.capacity, SortedStore.modify, List.length_modify]

theorem bind_of_free {links : Links} {device : DeviceId} {slot : Link} {rest : List Link}
    (absent : links.toList.findIdx? (fun link => link.device = device) = none)
    (free : links.store.free = slot :: rest) (address : Address) :
    ∃ after, links.bind device address = .ok after ∧
      Link.Bound device address links.toList after.toList ∧
      after.store.capacity = links.store.capacity := by
  obtain ⟨below, above⟩ := SortedStore.rank_between Link.device device links.toList
  have inserted := SortedStore.insert_of_free Link.device ⟨device, address⟩ slot free
  refine ⟨_, by rw [Links.bind, absent, inserted], ?_, SortedStore.capacity_insert _ _ inserted⟩
  conv =>
    arg 3
    rw [← List.take_append_drop (SortedStore.rank Link.device device links.toList) links.toList]
  refine .anew below fun other here => ?_
  have member : other ∈ links.toList := List.mem_of_mem_drop (List.mem_of_head? here)
  rw [List.findIdx?_eq_none_iff] at absent
  have apart : other.device ≠ device := of_decide_eq_false (absent other member)
  exact UInt16.lt_of_le_of_ne (UInt16.not_lt.mp (above other here)) apart.symm

theorem bind_of_full {links : Links} {device : DeviceId}
    (absent : links.toList.findIdx? (fun link => link.device = device) = none)
    (full : links.store.free = []) (address : Address) :
    links.bind device address = .error .exhausted := by
  rw [Links.bind, absent, SortedStore.insert_of_full _ _ full]

theorem bound_of_bind {links after : Links} {device : DeviceId} {address : Address}
    (bound : links.bind device address = .ok after) :
    Link.Bound device address links.toList after.toList ∧
      after.store.capacity = links.store.capacity := by
  cases place : links.toList.findIdx? fun link => link.device = device with
  | some index =>
    obtain ⟨other, again, kept⟩ := bind_of_known place address
    obtain rfl := Except.ok.inj (again.symm.trans bound)
    exact kept
  | none =>
    cases free : links.store.free with
    | nil =>
      rw [bind_of_full place free] at bound
      cases bound
    | cons slot rest =>
      obtain ⟨other, anew, kept⟩ := bind_of_free place free address
      obtain rfl := Except.ok.inj (anew.symm.trans bound)
      exact kept

end Links

namespace Router

theorem ordered_resolveCollision {r : Router} (ordered : r.links.Ordered) (mac : Mac)
    (source : Mid) : (r.resolveCollision mac source).1.links.Ordered := by
  cases owned : r.links.owns source with
  | false =>
    rw [resolveCollision_of_foreign owned]
    exact ordered
  | true =>
    obtain ⟨link, links, renewed, resolved⟩ := resolveCollision_of_owned owned mac
    rw [resolved]
    exact ordered.bound renewed.bound

theorem ordered_addLink {r : Router} (ordered : r.links.Ordered) (device : DeviceId)
    (configuration : Configuration) (type : StationType) (country : UInt16) :
    (r.addLink device configuration type country).2.links.Ordered := by
  unfold addLink
  cases configuration.address r.generator type country with | mk address generator
  cases address with
  | error reason => exact ordered
  | ok address =>
    dsimp only
    cases bound : r.links.bind device address with
    | error reason => exact ordered
    | ok links => exact ordered.bound (Links.bound_of_bind bound).1

end Router

section Turns

variable {D : Type} [LT D] [LE D] [DecidableLT D] [DecidableLE D] (distance : Point → Point → D)

theorem Router.ordered_reception {place : Workplace} (ordered : place.router.links.Ordered) :
    (reception distance place).place.router.links.Ordered := by
  rcases links_reception distance place with ⟨links, -⟩ | ⟨r, source, same, links, -⟩
  · rw [links]
    exact ordered
  · rw [links]
    apply ordered_resolveCollision
    rw [same]
    exact ordered

namespace Host

theorem ordered_step {host after : Host} {event : Event} {report : Report}
    (ordered : host.router.links.Ordered)
    (stepped : host.step distance event = .ok (report, after))
    (inside : ∀ handle buffer, event ≠ .receive handle buffer) : after.router.links.Ordered := by
  cases binds : event.binds with
  | false =>
    obtain ⟨links, -⟩ := step_stays distance stepped inside binds
    rw [links]
    exact ordered
  | true =>
    cases event with
    | addLink device configuration type country =>
      have kept := Router.ordered_addLink ordered device configuration type country
      rw [step] at stepped
      obtain ⟨-, rfl⟩ := Prod.mk.inj (Except.ok.inj stepped)
      exact kept
    | _ => cases binds

theorem ordered_turn {host : Host} (ordered : host.router.links.Ordered) (turn : Turn) :
    ∃ episode, host.turn distance turn = .ok episode ∧ episode.after.router.links.Ordered := by
  cases turn with
  | receive handle buffer handler =>
    obtain ⟨queued, after, sequence, went, frame⟩ := host.turn_receive distance rfl handler
    have there : (host.workplace handle buffer).router.links.Ordered := ordered
    refine ⟨_, went, ?_⟩
    rw [frame]
    exact Router.ordered_reception distance there
  | offer handle buffer sender =>
    obtain ⟨queued, after, sequence, went, frame⟩ := host.turn_offer distance handle buffer sender
    refine ⟨_, went, ?_⟩
    rw [frame]
    exact ordered
  | other event inside =>
    obtain ⟨report, after, stepped, went⟩ := host.turn_other distance event inside
    exact ⟨_, went, ordered_step distance ordered stepped inside⟩

/-- Whatever is received, sent and bound, the links stay in the order of their devices. -/
theorem links_stay_ordered {host : Host} (ordered : host.router.links.Ordered)
    (turns : List Turn) : ∃ history last, host.turns distance turns = .ok (history, last) ∧
      last.router.links.Ordered := by
  induction turns generalizing host with
  | nil => exact ⟨[], host, rfl, ordered⟩
  | cons turn rest ih =>
    obtain ⟨episode, went, kept⟩ := ordered_turn distance ordered turn
    obtain ⟨history, last, further, ends⟩ := ih kept
    refine ⟨episode :: history, last, ?_, ends⟩
    simp only [turns, bind, Except.bind, went, further]
    rfl

end Host
end Turns
end GeoRouter
