import GeoRouter.Proofs.Bindings
import GeoRouter.Proofs.Teaching

/-!
# How a station comes to another identifier

A station has its addresses from its devices, and keeps them whatever it hears, sends and waits for.
Only a fresh packet that is for this station and bears an identifier of this station takes one away:
the lowest device with it has what is drawn next, whether there is room for the source or not. What
goes along with that, the generator and the count of addresses given up, moves by one step then and
not at all otherwise.
-/

namespace GeoRouter

/-- What a station goes by, and what the next identifier is drawn from. -/
structure Naming where
  links : Links
  generator : Generator
  regenerated : Nat

namespace Router

def naming (r : Router) : Naming := ⟨r.links, r.generator, r.counters.regenerated⟩

end Router

/-- The devices with the bits of their addresses that no collision concerns. -/
def Links.outline (links : Links) : List (DeviceId × BitVec 16) :=
  links.toList.map fun link => (link.device, link.address.upper)

/-- The lowest device with an identifier has the one that was drawn, which is for a single station
and locally administered and otherwise random. -/
structure Naming.Renewed (mid : Mid) (before after : Naming) : Prop where
  address : ∃ device address, Bindings.Lowest before.links.address? mid device address ∧
    after.links.address? = Function.update before.links.address? device
      (some (address.withMid (Mid.draw before.generator).1))
  localBit : (Mid.draw before.generator).1.val.getLsbD 41 = true
  groupBit : (Mid.draw before.generator).1.val.getLsbD 40 = false
  otherBits : ∀ i < 48, i ≠ 40 → i ≠ 41 → (Mid.draw before.generator).1.val.getLsbD i =
    ((before.generator.b * 5).rotateLeft 7 * 9).getLsbD i
  generator : after.generator =
    let ⟨a, b, c, d⟩ := before.generator
    ⟨a ^^^ (d ^^^ b), b ^^^ (c ^^^ a), c ^^^ a ^^^ (b <<< 17), (d ^^^ b).rotateLeft 45⟩
  regenerated : after.regenerated = before.regenerated + 1

namespace Workplace

/-- A fresh packet has come that is for this station and bears an identifier of this station. -/
structure Collides (place : Workplace) : Prop where
  admitted : Admitted place.adapter.address place.buffer.bytes
  clear : Headers.objection? (place.buffer.bytes.drop FrameHeader.size) = none
  fresh : (place.router.poll place.adapter.time).2.locations.knows
    place.buffer.packet.headers.origin place.buffer.packet.headers.stamp = false
  target : place.router.links.owns place.buffer.packet.headers.target = true
  source : place.router.links.owns place.buffer.packet.headers.origin = true

/-- How a fresh packet for this station ends. -/
def localOutcome (place : Workplace) : Outcome :=
  let h := place.buffer.packet.headers
  if (place.router.poll place.adapter.time).2.locations.HasRoom h.origin then
    if h.next.transport?.isSome then .delivered place.buffer.packet else .discarded .noTransport
  else .discarded .locationTableFull

end Workplace

/-- Whether a turn neither binds a device nor seeds the generator. -/
def Turn.routine : Turn → Bool
  | .other (.addLink ..) _ | .other (.reseed _) _ => false
  | _ => true

/-- A collision renews an identifier, however the packet ends, and nothing else touches what the
station goes by. -/
def Episode.Names (episode : Episode) : Prop :=
  let before := episode.before.router.naming
  let after := episode.after.router.naming
  match episode.turn with
  | .receive handle buffer _ =>
    let place := episode.before.workplace handle buffer
    (place.Collides → before.Renewed place.buffer.packet.headers.origin after ∧
      episode.outcome = place.localOutcome) ∧
    (¬ place.Collides → after = before)
  | _ => after = before

/-! ### One collision -/

namespace Mid

theorem draw_local (g : Generator) : (draw g).1.val.getLsbD 41 = true := by
  simp [draw, ofRandom, localBit]

theorem draw_single (g : Generator) : (draw g).1.val.getLsbD 40 = false := by
  simp [draw, ofRandom, localBit, groupBit]

theorem draw_random (g : Generator) {i : Nat} (inside : i < 48) (single : i ≠ 40)
    (unmarked : i ≠ 41) : (draw g).1.val.getLsbD i = g.output.getLsbD i := by
  have group : groupBit = BitVec.twoPow 64 40 := rfl
  have mark : localBit = BitVec.twoPow 64 41 := rfl
  simp [draw, ofRandom, group, mark, inside, single.symm, unmarked.symm]

end Mid

theorem Link.Renewed.outline {mid fresh : Mid} {link : Link} {before after : Links}
    (renewed : Link.Renewed mid fresh link before.toList after.toList) :
    after.outline = before.outline := by
  unfold Links.outline
  generalize before.toList = old at renewed
  generalize after.toList = new at renewed ⊢
  cases renewed with
  | first own apart =>
    rw [List.map_append, List.map_append, List.map_cons, List.map_cons, Address.upper_withMid]

namespace Naming

/-- What a station goes by when it has given an identifier up. -/
def yielded (n : Naming) (mid : Mid) : Naming :=
  match n.links.replaceMid mid (Mid.draw n.generator).1 with
  | some (_, links) => ⟨links, n.generator.advance, n.regenerated + 1⟩
  | none => n

theorem yielded_of_foreign {n : Naming} {mid : Mid} (foreign : n.links.owns mid = false) :
    n.yielded mid = n := by
  rw [yielded, Links.replaceMid_of_foreign foreign]

theorem yielded_of_owned {n : Naming} {mid : Mid} (owned : n.links.owns mid = true) :
    ∃ link links, Link.Renewed mid (Mid.draw n.generator).1 link n.links.toList links.toList ∧
      n.yielded mid = ⟨links, n.generator.advance, n.regenerated + 1⟩ := by
  obtain ⟨link, links, renewed, replaced⟩ :=
    Links.replaceMid_of_owned owned (Mid.draw n.generator).1
  refine ⟨link, links, renewed, ?_⟩
  rw [yielded, replaced]

theorem outline_yielded (n : Naming) (mid : Mid) :
    (n.yielded mid).links.outline = n.links.outline := by
  cases owned : n.links.owns mid with
  | false => rw [yielded_of_foreign owned]
  | true =>
    obtain ⟨link, links, renewed, yielded⟩ := yielded_of_owned owned
    rw [yielded]
    exact renewed.outline

/-- Of two stations with an identifier this one gives way, at its lowest device. -/
theorem renewed_yielded {n : Naming} (ordered : n.links.Ordered) {mid : Mid}
    (owned : n.links.owns mid = true) : n.Renewed mid (n.yielded mid) := by
  obtain ⟨link, links, renewed, yielded⟩ := yielded_of_owned owned
  rw [yielded]
  exact {
    address := ⟨link.device, link.address, ordered.lowest_of_renewed renewed,
      ordered.address?_bound renewed.bound⟩
    localBit := Mid.draw_local n.generator
    groupBit := Mid.draw_single n.generator
    otherBits := fun _ inside single unmarked => Mid.draw_random n.generator inside single unmarked
    generator := rfl
    regenerated := rfl }

end Naming

/-! ### One frame -/

namespace Router

theorem naming_resolveCollision (r : Router) (mac : Mac) (source : Mid) :
    (r.resolveCollision mac source).1.naming = r.naming.yielded source := by
  cases owned : r.links.owns source with
  | false => rw [resolveCollision_of_foreign owned, Naming.yielded_of_foreign owned]
  | true =>
    obtain ⟨link, links, -, replaced⟩ :=
      Links.replaceMid_of_owned owned (Mid.draw r.generator).1
    simp only [resolveCollision, owned, if_true, replaced, naming, Naming.yielded]
    rfl

theorem naming_poll (r : Router) (now : Instant) : (r.poll now).2.naming = r.naming := by
  obtain ⟨locations, sweep, sweepTicket, frame⟩ := r.poll_frame now
  rw [frame]
  rfl

theorem naming_concluded (r : Router) (adapter : Adapter) (packet : FramedPacket)
    (verdict : Verdict) : (r.concluded adapter packet verdict).place.router.naming = r.naming := by
  rw [concluded_frame]
  cases (r.concluded adapter packet verdict).outcome <;> rfl

section Reception

variable {D : Type} [LT D] [LE D] [DecidableLT D] [DecidableLE D] (distance : Point → Point → D)

theorem naming_processed (r : Router) (adapter : Adapter) (packet : FramedPacket) :
    (r.processed distance adapter packet).place.router.naming =
      if r.links.owns packet.headers.target then r.naming.yielded packet.headers.origin
      else r.naming := by
  obtain ⟨locations, resolved⟩ :=
    r.decide_resolves distance adapter.address adapter.time packet.headers
  rw [processed, naming_concluded, resolved]
  split
  · exact naming_resolveCollision r adapter.address packet.headers.origin
  · rfl

theorem outcome_processed {r : Router} {packet : FramedPacket}
    (target : r.links.owns packet.headers.target = true) (adapter : Adapter) :
    (r.processed distance adapter packet).outcome =
      if r.locations.HasRoom packet.headers.origin then
        if packet.headers.next.transport?.isSome then .delivered packet
        else .discarded .noTransport
      else .discarded .locationTableFull := by
  rw [processed, decide_eq, if_pos target, decideLocal_eq]
  dsimp only
  split
  · split <;> rfl
  · rfl

/-- A fresh packet for this station has it give up the identifier that the packet bears. -/
theorem naming_of_fresh {place : Workplace}
    (admitted : Admitted place.adapter.address place.buffer.bytes)
    (clear : Headers.objection? (place.buffer.bytes.drop FrameHeader.size) = none)
    (fresh : (place.router.poll place.adapter.time).2.locations.knows
      place.buffer.packet.headers.origin place.buffer.packet.headers.stamp = false) :
    (reception distance place).place.router.naming =
      if place.router.links.owns place.buffer.packet.headers.target then
        place.router.naming.yielded place.buffer.packet.headers.origin
      else place.router.naming := by
  have same := place.router.naming_poll place.adapter.time
  generalize sweep : (place.router.poll place.adapter.time).2 = swept at fresh same
  have links : swept.links = place.router.links := congrArg Naming.links same
  rw [reception_of_fresh distance admitted clear sweep fresh, naming_processed, ← same, ← links]
  rfl

theorem naming_of_quiet (place : Workplace) (quiet : ¬ place.Collides) :
    (reception distance place).place.router.naming = place.router.naming := by
  have same := place.router.naming_poll place.adapter.time
  have course := reception_course distance place
  generalize received : reception distance place = after at course ⊢
  cases course with
  | ignored => rfl
  | unreadable => exact same
  | duplicate sweep =>
    rw [sweep] at same
    exact same
  | fresh sweep admitted clear fresh =>
    rw [← sweep] at fresh
    rw [← received, naming_of_fresh distance admitted clear fresh]
    split
    · rename_i target
      refine Naming.yielded_of_foreign (Bool.eq_false_iff.mpr fun source => quiet ?_)
      exact ⟨admitted, clear, fresh, target, source⟩
    · rfl

theorem naming_of_collision (place : Workplace) (collides : place.Collides) :
    (reception distance place).place.router.naming =
      place.router.naming.yielded place.buffer.packet.headers.origin := by
  rw [naming_of_fresh distance collides.admitted collides.clear collides.fresh,
    if_pos collides.target]

theorem outcome_of_collision (place : Workplace) (collides : place.Collides) :
    (reception distance place).outcome = place.localOutcome := by
  obtain ⟨admitted, clear, fresh, target, -⟩ := collides
  have same := place.router.naming_poll place.adapter.time
  unfold Workplace.localOutcome
  generalize sweep : (place.router.poll place.adapter.time).2 = swept at fresh same ⊢
  have links : swept.links = place.router.links := congrArg Naming.links same
  rw [← links] at target
  rw [reception_of_fresh distance admitted clear sweep fresh, outcome_processed distance
    (r := { swept with locations := swept.locations.restamp place.buffer.packet.headers }) target]
  simp only [LocationTable.hasRoom_restamp]

theorem outline_reception (place : Workplace) :
    (reception distance place).place.router.links.outline = place.router.links.outline := by
  by_cases collides : place.Collides
  · have yielded := naming_of_collision distance place collides
    exact (congrArg (·.links.outline) yielded).trans (Naming.outline_yielded ..)
  · exact congrArg (·.links.outline) (naming_of_quiet distance place collides)

end Reception
end Router

/-! ### Turns -/

section Turns

variable {D : Type} [LT D] [LE D] [DecidableLT D] [DecidableLE D] (distance : Point → Point → D)

namespace Host

theorem naming_step {host after : Host} {event : Event} {report : Report}
    (stepped : host.step distance event = .ok (report, after))
    {inside : ∀ handle buffer, event ≠ .receive handle buffer}
    (routine : (Turn.other event inside).routine = true) :
    after.router.naming = host.router.naming := by
  cases event with
  | receive handle buffer => exact absurd rfl (inside handle buffer)
  | addLink | reseed => cases routine
  | originate handle request payload buffer =>
    obtain ⟨answer, place, sequence, sent, frame⟩ := host.router.originate_frame distance
      { request with payload := payload.length } ⟨host.address, handle⟩ payload buffer rfl
    rw [step, sent] at stepped
    obtain ⟨-, rfl⟩ := Prod.mk.inj (Except.ok.inj stepped)
    show place.router.naming = host.router.naming
    rw [frame]
    rfl
  | poll now =>
    obtain ⟨-, rfl⟩ := Prod.mk.inj (Except.ok.inj stepped)
    exact host.router.naming_poll now
  | add | remove | configure =>
    rw [step] at stepped
    split at stepped
    all_goals
      obtain ⟨-, rfl⟩ := Prod.mk.inj (Except.ok.inj stepped)
      rfl
  | manage =>
    obtain ⟨-, rfl⟩ := Prod.mk.inj (Except.ok.inj stepped)
    rfl

theorem turn_names {host : Host} (ordered : host.router.links.Ordered) {turn : Turn}
    (routine : turn.routine = true) : ∃ episode, host.turn distance turn = .ok episode ∧
      episode.after.router.links.Ordered ∧
      episode.after.router.links.outline = host.router.links.outline ∧ episode.Names := by
  obtain ⟨episode, went, kept⟩ := ordered_turn distance ordered turn
  refine ⟨episode, went, kept, ?_⟩
  cases turn with
  | receive handle buffer handler =>
    have outline := Router.outline_reception distance (host.workplace handle buffer)
    have quiet := Router.naming_of_quiet distance (host.workplace handle buffer)
    have yielded := Router.naming_of_collision distance (host.workplace handle buffer)
    have outcome := Router.outcome_of_collision distance (host.workplace handle buffer)
    generalize received : Router.reception distance (host.workplace handle buffer) = reception
      at outline quiet yielded outcome
    obtain ⟨queued, after, sequence, turned, frame⟩ := turn_receive distance received handler
    obtain rfl := Except.ok.inj (turned.symm.trans went)
    have same : after.router.naming = reception.place.router.naming := by
      rw [frame]
      rfl
    refine ⟨(congrArg (·.links.outline) same).trans outline, ?_, ?_⟩
    · intro collides
      dsimp only
      rw [same, yielded collides]
      exact ⟨Naming.renewed_yielded ordered collides.source, outcome collides⟩
    · intro none
      exact same.trans (quiet none)
  | offer handle buffer sender =>
    obtain ⟨queued, after, sequence, turned, frame⟩ := host.turn_offer distance handle buffer sender
    obtain rfl := Except.ok.inj (turned.symm.trans went)
    have same : after.router.naming = host.router.naming := by
      rw [frame]
      rfl
    exact ⟨congrArg (·.links.outline) same, same⟩
  | other event inside =>
    obtain ⟨report, after, stepped, turned⟩ := host.turn_other distance event inside
    obtain rfl := Except.ok.inj (turned.symm.trans went)
    have same := naming_step distance stepped routine
    exact ⟨congrArg (·.links.outline) same, same⟩

/-- In every run of receptions, packets of the station and sweeps a station keeps its devices and,
but for the identifiers, their addresses. It gives an identifier up for a fresh packet for it that
bears one of its identifiers, whether that is delivered or not: then the lowest device with that
has what is drawn next. -/
theorem collisions_alone_renew {host : Host} (ordered : host.router.links.Ordered)
    (turns : List Turn) (routine : ∀ turn ∈ turns, turn.routine = true) :
    ∃ history last, host.turns distance turns = .ok (history, last) ∧
      last.router.links.outline = host.router.links.outline ∧
      ∀ episode ∈ history,
        episode.after.router.links.outline = host.router.links.outline ∧ episode.Names := by
  induction turns generalizing host with
  | nil => exact ⟨[], host, rfl, rfl, List.forall_mem_nil _⟩
  | cons turn rest ih =>
    obtain ⟨first, others⟩ := List.forall_mem_cons.mp routine
    obtain ⟨episode, went, kept, outline, names⟩ := turn_names distance ordered first
    obtain ⟨history, last, further, ends, later⟩ := ih kept others
    rw [outline] at ends later
    refine ⟨episode :: history, last, ?_, ends, ?_⟩
    · simp only [turns, bind, Except.bind, went, further]
      rfl
    · exact List.forall_mem_cons.mpr ⟨⟨outline, names⟩, later⟩

end Host
end Turns

/-- A station without a table hears its own identifier, which both of its devices have: the lower one
takes another, although the packet is discarded. Then a sweep is due, and changes neither. -/
theorem Host.collisions_alone_renew_of_crowded :
    let own : Mac := ⟨2, 0, 0, 0, 0, 1⟩
    let address : Address := Address.zero.withMid (.ofMac own)
    let host : Host := ⟨{
      locations := .ofCapacity 0
      links := ⟨⟨[⟨3, address⟩, ⟨5, address⟩], []⟩⟩ }, own⟩
    let turns := [
      Turn.receive (.ofTime ⟨0⟩) (emptyFrame own (.ofMac own) ⟨⟨7⟩, ⟨1⟩⟩) fun _ => .done,
      .other (.poll ⟨5000000⟩) nofun]
    host.router.links.Ordered ∧ (∀ turn ∈ turns, turn.routine = true) ∧
    ∃ history last, host.turns (fun _ _ => (0 : Nat)) turns = .ok (history, last) ∧
      history.map (·.outcome) = [.discarded .locationTableFull, .ignored] ∧
      history.map (·.after.router.counters.regenerated) = [1, 1] ∧
      last.router.links.address? 3 = some (address.withMid (Mid.draw host.router.generator).1) ∧
      last.router.links.address? 5 = some address ∧
      last.router.links.outline = host.router.links.outline ∧
      ∀ episode ∈ history,
        episode.after.router.links.outline = host.router.links.outline ∧ episode.Names := by
  intro own address host turns
  have ordered : host.router.links.Ordered := by
    show List.Pairwise _ _
    decide
  have routine : ∀ turn ∈ turns, turn.routine = true := by simp [turns, Turn.routine]
  obtain ⟨history, last, went, outline, names⟩ :=
    collisions_alone_renew (fun _ _ => (0 : Nat)) ordered turns routine
  have told : (host.turns (fun _ _ => (0 : Nat)) turns).toOption.map (fun answer =>
      (answer.1.map (·.outcome), answer.1.map (·.after.router.counters.regenerated),
        answer.2.router.links.address? 3, answer.2.router.links.address? 5)) =
      some ([.discarded .locationTableFull, .ignored], [1, 1],
        some (address.withMid (Mid.draw host.router.generator).1), some address) := by
    decide +kernel
  rw [went] at told
  obtain ⟨outcomes, told⟩ := Prod.mk.inj (Option.some.inj told)
  obtain ⟨regenerated, told⟩ := Prod.mk.inj told
  obtain ⟨lower, higher⟩ := Prod.mk.inj told
  exact ⟨ordered, routine, history, last, went, outcomes, regenerated, lower, higher, outline, names⟩

end GeoRouter
