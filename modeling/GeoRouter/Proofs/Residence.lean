import GeoRouter.Proofs.AtMostOnce
import GeoRouter.Proofs.Collision
import GeoRouter.Proofs.Consumption

/-!
# The Ethernet address of a station

A station lives at the address of one of its links. A collision may take that address away, and then
the adapter moves with the link; nothing else concerns the two but the binding of a device. So a
station that lives at one of its links does so after every turn, and every packet that it lays out
goes out from that link in both headers.
-/

namespace GeoRouter

def Links.HasMac (links : Links) (mac : Mac) : Prop :=
  ∃ link ∈ links.toList, link.address.mac = mac

def Workplace.Resident (place : Workplace) : Prop :=
  place.router.links.HasMac place.adapter.address

def Host.Resident (host : Host) : Prop := host.router.links.HasMac host.address

theorem Host.Resident.workplace {host : Host} (resident : host.Resident) (handle : Handle)
    (buffer : Buffer) : (host.workplace handle buffer).Resident := resident

/-- The frame names a MAC as its Ethernet source, and the identifier of that as the source of its
packet. -/
structure SentFrom (mac : Mac) (b : Bytes) : Prop where
  frame : (b.drop 6).take 6 = mac.octets
  packet : ∃ address, FixedHeader.sourceAddress? (b.drop FrameHeader.size) = .ok (some address) ∧
    address.mid = Mid.ofMac mac

def Attempt.SentFrom (mac : Mac) (attempt : Attempt) : Prop :=
  ∀ packet, attempt.answer = .ok packet → GeoRouter.SentFrom mac attempt.after.buffer.bytes

def Event.binds : Event → Bool
  | .addLink .. => true
  | _ => false

/-- Whether a device is bound in the turn. -/
def Turn.binds : Turn → Bool
  | .other event _ => event.binds
  | _ => false

/-! ### The link of the adapter -/

namespace Links

theorem HasMac.owns {links : Links} {mac : Mac} (has : links.HasMac mac) :
    links.owns (.ofMac mac) = true := by
  obtain ⟨link, member, rfl⟩ := has
  exact owns_iff.mpr ⟨link, member, (Mid.ofMac_mac link.mid).symm⟩

theorem HasMac.renewed {links after : Links} {mac : Mac} {mid fresh : Mid} {link : Link}
    (has : links.HasMac mac) (renewed : Link.Renewed mid fresh link links.toList after.toList) :
    after.HasMac (if mac = mid.mac then fresh.mac else mac) := by
  obtain ⟨own, member, rfl⟩ := has
  unfold HasMac
  generalize links.toList = before at renewed member
  generalize after.toList = changed at renewed ⊢
  cases renewed with
  | first given =>
    split
    · exact ⟨_, List.mem_append_right _ (List.mem_cons_self ..), rfl⟩
    · rename_i other
      rcases List.mem_append.mp member with front | back
      · exact ⟨own, List.mem_append_left _ front, rfl⟩
      · rcases List.mem_cons.mp back with rfl | back
        · exact absurd (congrArg Mid.mac given) other
        · exact ⟨own, List.mem_append_right _ (List.mem_cons_of_mem _ back), rfl⟩

end Links

namespace Router

theorem hasMac_resolveCollision {r : Router} {mac : Mac} (has : r.links.HasMac mac) (source : Mid) :
    (r.resolveCollision mac source).1.links.HasMac (r.resolveCollision mac source).2 := by
  cases owned : r.links.owns source with
  | false =>
    rw [resolveCollision_of_foreign owned]
    exact has
  | true =>
    obtain ⟨link, links, renewed, resolved⟩ := resolveCollision_of_owned owned mac
    rw [resolved]
    exact has.renewed renewed

theorem mid_of_sourceAddress? {r : Router} {mac : Mac} {address : Address}
    (has : r.links.HasMac mac) (found : r.sourceAddress? mac = some address) :
    address.mid = Mid.ofMac mac := by
  obtain ⟨link, own⟩ := Option.isSome_iff_exists.mp has.owns
  rw [sourceAddress?, own] at found
  obtain rfl := Option.some.inj found
  have same : link.mid = Mid.ofMac mac := by simpa using List.find?_some own
  exact same

theorem address_send (r : Router) (adapter : Adapter) :
    (r.send adapter).2.1.address = adapter.address := by
  unfold send
  rw [Adapter.queue_eq]
  by_cases refused : adapter.handle.queueing = .refused
  · simp only [if_pos refused]
  · simp only [if_neg refused]

theorem links_send (r : Router) (adapter : Adapter) : (r.send adapter).2.2.links = r.links := by
  rw [send_frame]

section Decision

variable {D : Type} [LT D] [LE D] [DecidableLT D] [DecidableLE D] (distance : Point → Point → D)

theorem address_concluded (r : Router) (adapter : Adapter) (packet : FramedPacket)
    (verdict : Verdict) :
    (r.concluded adapter packet verdict).place.adapter.address = adapter.address := by
  cases verdict with
  | deliver | drop cause => rfl
  | forward nextHop =>
    simp only [concluded, passedOn]
    split <;> rfl

theorem links_processed (r : Router) (adapter : Adapter) (packet : FramedPacket) :
    let place := (r.processed distance adapter packet).place
    place.router.links = r.links ∧ place.adapter.address = adapter.address ∨
    ∃ source : Mid, place.router.links = (r.resolveCollision adapter.address source).1.links ∧
      place.adapter.address = (r.resolveCollision adapter.address source).2 := by
  intro place
  obtain ⟨counters, frame⟩ := processed_frame distance r adapter packet
  have address : place.adapter.address =
    (r.decide distance adapter.address adapter.time packet.headers).2.2 := address_concluded ..
  rw [address, frame]
  have decided := r.links_decide distance adapter.address adapter.time packet.headers
  split at decided
  · obtain ⟨links, moved⟩ := Prod.mk.inj decided
    exact .inr ⟨_, links, moved⟩
  · obtain ⟨links, stayed⟩ := Prod.mk.inj decided
    exact .inl ⟨links, stayed⟩

/-- A frame leaves the links and the address of the adapter as they were, or does to them what a
collision does. -/
theorem links_reception (place : Workplace) :
    let after := (reception distance place).place
    after.router.links = place.router.links ∧ after.adapter.address = place.adapter.address ∨
    ∃ (r : Router) (source : Mid), r.links = place.router.links ∧
      after.router.links = (r.resolveCollision place.adapter.address source).1.links ∧
      after.adapter.address = (r.resolveCollision place.adapter.address source).2 := by
  have swept := place.router.links_poll place.adapter.time
  have course := reception_course distance place
  dsimp only
  generalize reception distance place = after at course ⊢
  cases course with
  | ignored => exact .inl ⟨rfl, rfl⟩
  | unreadable => exact .inl ⟨swept, rfl⟩
  | duplicate sweep =>
    subst sweep
    exact .inl ⟨swept, rfl⟩
  | fresh sweep =>
    subst sweep
    rcases links_processed distance
      { (place.router.poll place.adapter.time).2 with
        locations := (place.router.poll place.adapter.time).2.locations.restamp
          place.buffer.packet.headers } place.adapter place.buffer.packet with
      ⟨links, stayed⟩ | ⟨source, links, moved⟩
    · exact .inl ⟨links.trans swept, stayed⟩
    · refine .inr ⟨_, source, ?_, links, moved⟩
      exact swept

theorem reception_resident {place : Workplace} (resident : place.Resident) :
    (reception distance place).place.Resident := by
  unfold Workplace.Resident
  rcases links_reception distance place with
    ⟨links, address⟩ | ⟨r, source, same, links, address⟩
  · rw [links, address]
    exact resident
  · rw [links, address]
    apply hasMac_resolveCollision
    rw [same]
    exact resident

end Decision
end Router

/-! ### Frames of the station -/

theorem Headers.sentFrom (h : Headers) (tail : Bytes) {mac : Mac}
    (own : h.extended.source.address.mid = Mid.ofMac mac) :
    SentFrom mac (h.framing.encode ++ (h.encode ++ tail)) where
  frame := by
    have source : h.extended.source.address.mac = mac :=
      (congrArg Mid.mac own).trans (Mid.mac_ofMac mac)
    rw [← source]
    rfl
  packet := by
    have long : size ≤ (h.encode ++ tail).length := by
      rw [List.length_append, length_encode]
      exact Nat.le_add_right ..
    refine ⟨h.extended.source.address, ?_, own⟩
    rw [List.drop_left' (by rfl), FixedHeader.sourceAddress?_eq long (h.registered_encode tail),
      inOctets_encode]
    rfl

/-- What went through without a fault went through step by step. -/
theorem bind_ok {α β : Type} {x : Except Fault α} {f : α → Except Fault β} {b : β}
    (went : x >>= f = .ok b) : ∃ a, x = .ok a ∧ f a = .ok b := by
  cases x with
  | error fault => cases went
  | ok a => exact ⟨a, rfl, went⟩

section Turns

variable {D : Type} [LT D] [LE D] [DecidableLT D] [DecidableLE D] (distance : Point → Point → D)

/-- An attempt concerns neither the links nor the adapter, and goes out from the link of that. -/
theorem Workplace.attempt_resident {place : Workplace} {request : Request} {attempt : Attempt}
    (resident : place.Resident) (attempted : place.attempt distance request = .ok attempt) :
    attempt.after.router.links = place.router.links ∧ attempt.after.adapter = place.adapter ∧
      attempt.SentFrom place.adapter.address := by
  unfold Workplace.attempt at attempted
  rw [Router.prepare_eq] at attempted
  cases made : place.router.headersFor distance request place.adapter.address with
  | error reason =>
    rw [made] at attempted
    obtain rfl := Except.ok.inj attempted
    refine ⟨rfl, rfl, fun packet laid => ?_⟩
    cases laid
  | ok h =>
    by_cases room : place.buffer.canTake h.frameLength
    · simp only [made, if_pos room] at attempted
      obtain rfl := Except.ok.inj attempted
      refine ⟨rfl, rfl, fun packet laid => ?_⟩
      obtain ⟨own, position, found, -⟩ := (Router.makes_of_headersFor distance made).source
      exact h.sentFrom _ (Router.mid_of_sourceAddress? resident found)
    · simp only [made, if_neg room] at attempted
      obtain rfl := Except.ok.inj attempted
      refine ⟨rfl, rfl, fun packet laid => ?_⟩
      cases laid

theorem Conduct.trace_resident (conduct : Conduct) {place after : Workplace}
    {attempts : List Attempt} (resident : place.Resident)
    (traced : conduct.trace distance place = .ok (attempts, after)) :
    after.router.links = place.router.links ∧ after.adapter.address = place.adapter.address ∧
      ∀ attempt ∈ attempts, attempt.SentFrom place.adapter.address := by
  -- Each step hands the next one another workplace, with the same links and the same address.
  induction conduct generalizing place attempts with
  | done =>
    obtain ⟨rfl, rfl⟩ := Prod.mk.inj (Except.ok.inj traced)
    refine ⟨rfl, rfl, fun attempt none => ?_⟩
    cases none
  | write buffer next ih =>
    have filled : Workplace.Resident { place with buffer } := resident
    obtain ⟨kept, stayed, sent⟩ := ih filled traced
    exact ⟨kept, stayed, sent⟩
  | prepare request next ih =>
    rw [trace] at traced
    obtain ⟨attempt, attempted, traced⟩ := bind_ok traced
    obtain ⟨⟨later, last⟩, further, traced⟩ := bind_ok traced
    obtain ⟨rfl, rfl⟩ := Prod.mk.inj (Except.ok.inj traced)
    obtain ⟨links, adapter, sent⟩ := Workplace.attempt_resident distance resident attempted
    have stays : attempt.after.Resident := by
      unfold Workplace.Resident
      rw [links, adapter]
      exact resident
    obtain ⟨kept, stayed, others⟩ := ih attempt.answer stays further
    rw [links] at kept
    rw [adapter] at stayed others
    refine ⟨kept, stayed, fun one member => ?_⟩
    rcases List.mem_cons.mp member with rfl | member
    · exact sent
    · exact others one member
  | send next ih =>
    have links := place.router.links_send place.adapter
    have address := place.router.address_send place.adapter
    cases sent : place.router.send place.adapter with | mk answer rest
    rw [sent] at links address
    dsimp only at links address
    have stays : Workplace.Resident { place with adapter := rest.1, router := rest.2 } := by
      unfold Workplace.Resident
      rw [links, address]
      exact resident
    simp only [trace, sent] at traced
    obtain ⟨kept, stayed, others⟩ := ih answer stays traced
    dsimp only at kept stayed others
    rw [links] at kept
    rw [address] at stayed others
    exact ⟨kept, stayed, others⟩

namespace Host

theorem traceAttended_resident (handler : FramedPacket → Conduct) {reception : Reception}
    {attempts : List Attempt} {after : Workplace} (resident : reception.place.Resident)
    (traced : traceAttended distance handler reception = .ok (attempts, after)) :
    (ofWorkplace after).Resident ∧
      ∀ attempt ∈ attempts, attempt.SentFrom after.adapter.address := by
  unfold traceAttended at traced
  unfold Resident ofWorkplace
  cases outcome : reception.outcome with
  | delivered packet =>
    rw [outcome] at traced
    obtain ⟨links, address, sent⟩ := (handler packet).trace_resident distance resident traced
    rw [links, address]
    exact ⟨resident, sent⟩
  | ignored | forwarded | discarded =>
    rw [outcome] at traced
    obtain ⟨rfl, rfl⟩ := Prod.mk.inj (Except.ok.inj traced)
    refine ⟨resident, fun attempt none => ?_⟩
    cases none

/-- A payload that is sent concerns neither the links nor the adapter. -/
theorem originate_resident {r : Router} {request : Request} {adapter : Adapter} {payload : Bytes}
    {buffer : Buffer} {answer : Except OperationError Unit} {place : Workplace}
    (size : request.payload = payload.length)
    (sent : r.originate distance adapter request payload buffer = .ok (answer, place)) :
    place.router.links = r.links ∧ place.adapter.address = adapter.address := by
  rw [Router.originate_eq distance r request adapter payload buffer size] at sent
  have answered := Except.ok.inj sent
  split at answered
  · obtain ⟨-, rfl⟩ := Prod.mk.inj answered
    exact ⟨rfl, rfl⟩
  rename_i h made
  split at answered
  · obtain ⟨-, rfl⟩ := Prod.mk.inj answered
    constructor
    · exact Router.links_send { r with sequence := r.sequence.next } adapter
    · exact Router.address_send { r with sequence := r.sequence.next } adapter
  · obtain ⟨-, rfl⟩ := Prod.mk.inj answered
    exact ⟨rfl, rfl⟩

/-- Nothing but a frame or a binding concerns the links or the adapter. -/
theorem step_stays {host after : Host} {event : Event} {report : Report}
    (stepped : host.step distance event = .ok (report, after))
    (inside : ∀ handle buffer, event ≠ .receive handle buffer) (unbound : event.binds = false) :
    after.router.links = host.router.links ∧ after.address = host.address := by
  cases event with
  | receive handle buffer => exact absurd rfl (inside handle buffer)
  | addLink => cases unbound
  | originate handle request payload buffer =>
    obtain ⟨answer, place, -, sent, -⟩ := host.router.originate_frame distance
      { request with payload := payload.length } ⟨host.address, handle⟩ payload buffer rfl
    rw [step, sent] at stepped
    obtain ⟨-, rfl⟩ := Prod.mk.inj (Except.ok.inj stepped)
    exact originate_resident distance rfl sent
  | poll now =>
    obtain ⟨-, rfl⟩ := Prod.mk.inj (Except.ok.inj stepped)
    exact ⟨host.router.links_poll now, rfl⟩
  | add | remove | configure =>
    rw [step] at stepped
    split at stepped
    all_goals
      obtain ⟨-, rfl⟩ := Prod.mk.inj (Except.ok.inj stepped)
      exact ⟨rfl, rfl⟩
  | manage management =>
    obtain ⟨-, rfl⟩ := Prod.mk.inj (Except.ok.inj stepped)
    exact ⟨rfl, rfl⟩
  | reseed seed =>
    obtain ⟨generator, frame⟩ := host.router.reseed_frame seed
    rw [step, frame] at stepped
    obtain ⟨-, rfl⟩ := Prod.mk.inj (Except.ok.inj stepped)
    exact ⟨rfl, rfl⟩

/-- A station lives at one of its links after a turn as before, and its packets go out from there. -/
theorem traceTurn_resident {host after : Host} {turn : Turn} {attempts : List Attempt}
    (resident : host.Resident) (unbound : turn.binds = false)
    (traced : host.traceTurn distance turn = .ok (attempts, after)) :
    after.Resident ∧ ∀ attempt ∈ attempts, attempt.SentFrom after.address := by
  cases turn with
  | receive handle buffer handler =>
    rw [traceTurn] at traced
    obtain ⟨reception, received, traced⟩ := bind_ok traced
    obtain ⟨⟨one, place⟩, attended, traced⟩ := bind_ok traced
    obtain ⟨rfl, rfl⟩ := Prod.mk.inj (Except.ok.inj traced)
    rw [Router.receive_eq] at received
    obtain rfl := Except.ok.inj received
    have lives := Router.reception_resident distance (resident.workplace handle buffer)
    exact traceAttended_resident distance handler lives attended
  | offer handle buffer sender =>
    rw [traceTurn] at traced
    obtain ⟨⟨one, place⟩, performed, traced⟩ := bind_ok traced
    obtain ⟨rfl, rfl⟩ := Prod.mk.inj (Except.ok.inj traced)
    have lives := resident.workplace handle buffer
    obtain ⟨links, address, sent⟩ := sender.trace_resident distance lives performed
    unfold Resident ofWorkplace
    rw [links, address]
    exact ⟨lives, sent⟩
  | other event inside =>
    rw [traceTurn] at traced
    obtain ⟨⟨report, next⟩, stepped, traced⟩ := bind_ok traced
    obtain ⟨links, address⟩ := step_stays distance stepped inside unbound
    have lives : next.Resident := by
      unfold Resident
      rw [links, address]
      exact resident
    cases event with
    | originate handle request payload buffer =>
      obtain ⟨attempt, attempted, traced⟩ := bind_ok traced
      obtain ⟨rfl, rfl⟩ := Prod.mk.inj (Except.ok.inj traced)
      obtain ⟨-, -, sent⟩ :=
        Workplace.attempt_resident distance (resident.workplace handle buffer) attempted
      refine ⟨lives, fun one member => ?_⟩
      obtain rfl := List.mem_singleton.mp member
      rw [address]
      exact sent
    | _ =>
      obtain ⟨rfl, rfl⟩ := Prod.mk.inj (Except.ok.inj traced)
      refine ⟨lives, fun attempt none => ?_⟩
      cases none

theorem turn_told {host : Host} {turn : Turn} {episode : Episode}
    (went : host.turn distance turn = .ok episode) :
    episode.before = host ∧ episode.turn = turn := by
  cases turn with
  | receive handle buffer handler =>
    obtain ⟨queued, after, sequence, turned, -⟩ := host.turn_receive distance rfl handler
    obtain rfl := Except.ok.inj (turned.symm.trans went)
    exact ⟨rfl, rfl⟩
  | offer handle buffer sender =>
    obtain ⟨queued, after, sequence, turned, -⟩ := host.turn_offer distance handle buffer sender
    obtain rfl := Except.ok.inj (turned.symm.trans went)
    exact ⟨rfl, rfl⟩
  | other event inside =>
    obtain ⟨report, after, -, turned⟩ := host.turn_other distance event inside
    obtain rfl := Except.ok.inj (turned.symm.trans went)
    exact ⟨rfl, rfl⟩

end Host

/-- After the turn the station lives at one of its links, and from there went out what it laid out
in the turn, and the payload that it sent. -/
structure Episode.Resides (episode : Episode) : Prop where
  resident : episode.after.Resident
  laid : ∃ attempts,
    episode.before.traceTurn distance episode.turn = .ok (attempts, episode.after) ∧
      ∀ attempt ∈ attempts, attempt.SentFrom episode.after.address
  sent : ∀ event inside buffer, episode.turn = .other event inside →
    episode.before.step distance event = .ok (.originated (.ok ()) buffer, episode.after) →
    SentFrom episode.after.address buffer.bytes

namespace Host

theorem sent_resident {host after : Host} {event : Event} {buffer : Buffer}
    (resident : host.Resident)
    (stepped : host.step distance event = .ok (.originated (.ok ()) buffer, after)) :
    SentFrom after.address buffer.bytes := by
  cases event with
  | originate handle request payload space =>
    obtain ⟨answer, place, -, sent, -⟩ := host.router.originate_frame distance
      { request with payload := payload.length } ⟨host.address, handle⟩ payload space rfl
    obtain ⟨-, address⟩ := originate_resident distance rfl sent
    rw [step, sent] at stepped
    obtain ⟨report, rfl⟩ := Prod.mk.inj (Except.ok.inj stepped)
    obtain ⟨rfl, rfl⟩ := Report.originated.inj report
    obtain ⟨h, makes, octets⟩ := Router.originate_ok distance rfl sent
    obtain ⟨own, position, found, -⟩ := makes.source
    show SentFrom place.adapter.address place.buffer.bytes
    rw [address, octets]
    exact h.sentFrom payload (Router.mid_of_sourceAddress? resident found)
  | receive handle buffer =>
    rw [step_receive] at stepped
    cases stepped
  | add | remove | configure =>
    rw [step] at stepped
    split at stepped <;> cases stepped
  | _ => cases stepped

theorem turn_resides {host : Host} (resident : host.Resident) {turn : Turn}
    (unbound : turn.binds = false) :
    ∃ episode, host.turn distance turn = .ok episode ∧ episode.Resides distance := by
  obtain ⟨episode, attempts, went, traced, -⟩ := host.turn_consumes distance turn
  obtain ⟨before, same⟩ := turn_told distance went
  obtain ⟨lives, laid⟩ := traceTurn_resident distance resident unbound traced
  refine ⟨episode, went, lives, ⟨attempts, ?_, laid⟩, ?_⟩
  · rw [before, same]
    exact traced
  · intro event inside buffer other stepped
    rw [before] at stepped
    exact sent_resident distance resident stepped

/-- A station that lives at one of its links does so after every turn of every run in which no
device is bound: whoever sends with its addresses, and whatever it sends itself. All its packets
have the Ethernet address of the station as the source of the frame, and name the same address as
their own source. -/
theorem station_lives_at_a_link {host : Host} (resident : host.Resident) (turns : List Turn)
    (unbound : ∀ turn ∈ turns, turn.binds = false) :
    ∃ history last, host.turns distance turns = .ok (history, last) ∧ last.Resident ∧
      ∀ episode ∈ history, episode.Resides distance := by
  induction turns generalizing host with
  | nil =>
    refine ⟨[], host, rfl, resident, fun episode none => ?_⟩
    cases none
  | cons turn rest ih =>
    obtain ⟨first, others⟩ := List.forall_mem_cons.mp unbound
    obtain ⟨episode, went, resides⟩ := turn_resides distance resident first
    obtain ⟨history, last, further, lives, later⟩ := ih resides.resident others
    refine ⟨episode :: history, last, ?_, lives, ?_⟩
    · simp only [turns, bind, Except.bind, went, further]
      rfl
    · intro one member
      rcases List.mem_cons.mp member with rfl | member
      · exact resides
      · exact later one member

end Host
end Turns

/-- A packet with the address of the station as its source is answered, and then a payload is sent:
the station has moved, and both go out from where it lives now. -/
theorem Host.station_lives_at_a_link_of_collision :
    let own : Mac := ⟨2, 0, 0, 0, 0, 1⟩
    let link : Link := { address := Address.zero.withMid (.ofMac own) }
    let host : Host := ⟨{
      locations := .ofCapacity 1
      links := ⟨⟨[link], []⟩⟩
      management := { time := some 0, position := some ⟨0, 0, 0, 0, false⟩ } }, own⟩
    let request : Request := { destination := link.address, next := .btpA, payload := 0 }
    let turns := [
      Turn.receive (.ofTime ⟨0⟩) (emptyFrame own (.ofMac own) ⟨⟨7⟩, ⟨1⟩⟩) fun _ =>
        .prepare request fun _ => .send fun _ => .done,
      .other (.originate (.ofTime ⟨0⟩) request [] (.ofAllocated [])) nofun]
    host.Resident ∧ (∀ turn ∈ turns, turn.binds = false) ∧
    ∃ history last, host.turns (fun _ _ => (0 : Nat)) turns = .ok (history, last) ∧
      last.Resident ∧ last.address ≠ own ∧ history.map (·.queued) = [1, 1] ∧
      ∀ episode ∈ history, episode.Resides fun _ _ => (0 : Nat) := by
  intro own link host request turns
  have resident : host.Resident := ⟨link, List.mem_singleton_self link, by decide⟩
  have unbound : ∀ turn ∈ turns, turn.binds = false := by simp [turns, Turn.binds, Event.binds]
  obtain ⟨history, last, went, lives, resides⟩ :=
    station_lives_at_a_link (fun _ _ => (0 : Nat)) resident turns unbound
  have told : (host.turns (fun _ _ => (0 : Nat)) turns).toOption.map
      (fun answer => (answer.1.map (·.queued), decide (answer.2.address = own))) =
        some ([1, 1], false) := by
    decide +kernel
  rw [went] at told
  obtain ⟨queued, moved⟩ := Prod.mk.inj (Option.some.inj told)
  exact ⟨resident, unbound, history, last, went, lives, of_decide_eq_false moved, queued, resides⟩

end GeoRouter
