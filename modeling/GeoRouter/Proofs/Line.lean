import Mathlib.Data.Nat.Basic
import GeoRouter.Proofs.Delivery
import GeoRouter.Proofs.Greedy
import GeoRouter.Proofs.HopBudget
import GeoRouter.Proofs.Meeting

/-!
# How far a packet comes along a line

The stations of the relay have identifiers of their own and come closer and closer to the last one.
Each of them then chooses the next one, so that the packet goes from station to station until it has
arrived or its hops are used up. `Errand` says what stays the same of it on its way, and `course`
what becomes of it.
-/

namespace GeoRouter.Relay

namespace Options

/-- No two stations have one identifier. -/
def Distinct (o : Options) : Prop := ∀ j < o.count, ∀ i < j, o.mid i ≠ o.mid j

instance (o : Options) : Decidable o.Distinct := inferInstanceAs (Decidable (∀ _, _))

def remaining {D : Type} (o : Options) (distance : Point → Point → D) (index : Nat) : D :=
  distance (o.position index).point (o.position (o.count - 1)).point

/-- Each station is closer to the last one than those before it. -/
def Approaches {D : Type} [LT D] (o : Options) (distance : Point → Point → D) : Prop :=
  ∀ j < o.count, ∀ i < j, o.remaining distance j < o.remaining distance i

instance {D : Type} [LT D] [DecidableLT D] (o : Options) (distance : Point → Point → D) :
    Decidable (o.Approaches distance) := inferInstanceAs (Decidable (∀ _, _))

theorem Distinct.inj {o : Options} (distinct : o.Distinct) {i j : Nat} (left : i < o.count)
    (right : j < o.count) (same : o.mid i = o.mid j) : i = j := by
  rcases Nat.lt_trichotomy i j with before | rfl | behind
  · exact absurd same (distinct j right i before)
  · rfl
  · exact absurd same.symm (distinct i left j behind)

section Choice

variable {D : Type} [LinearOrder D] {distance : Point → Point → D}

theorem Mapped.nextHop {o : Options} {index : Nat} {table : LocationTable} {entry : Entry}
    (mapped : o.Mapped index table) (distinct : o.Distinct) (approaches : o.Approaches distance)
    (inside : index + 1 < o.count) (found : table.find? (o.mid (index + 1)) = some entry)
    (heard : entry.neighbour = true) (tc : TrafficClass) :
    table.nextHop distance (o.position index).point (o.position (o.count - 1)).point tc =
      .neighbour (o.mid (index + 1)) := by
  have known : entry ∈ table.entries := List.mem_of_find?_eq_some found
  have own : entry.mid = o.mid (index + 1) := LocationTable.mid_of_find? found
  have member : entry ∈ table.neighbours := List.mem_filter.mpr ⟨known, heard⟩
  have place : entry.position.point = (o.position (index + 1)).point := by
    obtain ⟨k, line, -, name, place⟩ := mapped entry known
    obtain rfl := distinct.inj line inside (name.symm.trans own)
    exact place
  rw [← own]
  apply LocationTable.nextHop_of_closest member
  · rw [place]
    exact approaches (index + 1) inside index (Nat.lt_succ_self _)
  · intro other neighbour apart
    obtain ⟨known, direct⟩ := List.mem_filter.mp neighbour
    obtain ⟨k, line, near, name, spot⟩ := mapped other known
    have before : k < index + 1 := by
      refine Nat.lt_of_le_of_ne (near direct) ?_
      rintro rfl
      exact apart (name.trans own.symm)
    rw [place, spot]
    exact approaches (index + 1) inside k before

end Choice
end Options

/-- The headers of the packet that the first station has for the last one. -/
structure Errand (o : Options) (now : Nat) (h : Headers) : Prop where
  origin : h.origin = o.mid 0
  target : h.target = o.mid (o.count - 1)
  stamp : h.stamp = ⟨.ofUnixMillis now, .first⟩
  source : h.extended.source.point = (o.position 0).point
  destination : h.extended.destination.point = (o.position (o.count - 1)).point
  next : h.next = .btpB

theorem Errand.spent {o : Options} {now : Nat} {h : Headers} (errand : Errand o now h)
    (hops : UInt8) : Errand o now { h with remainingHops := hops } :=
  ⟨errand.origin, errand.target, errand.stamp, errand.source, errand.destination, errand.next⟩

theorem Errand.transmitted {o : Options} {now : Nat} {h : Headers} (errand : Errand o now h) :
    Errand o now h.transmitted where
  origin := errand.origin
  target := errand.target
  stamp := errand.stamp
  source := errand.source
  destination := errand.destination
  next := congrArg (fun next : NextHeader => NextHeader.ofCode (next.code % 16)) errand.next

namespace Station

def place (station : Station) (buffer : Buffer) : Workplace :=
  ⟨station.router, station.adapter, buffer⟩

end Station

namespace Options

section Arrival

variable {D : Type} [LinearOrder D] {distance : Point → Point → D}
variable {o : Options} {now index : Nat} {station : Station} {h : Headers} {payload : Bytes}
  {buffer : Buffer}

theorem Ready.takes (ready : o.Ready now index station)
    (errand : Errand o now buffer.packet.headers) :
    let swept := (station.router.poll ⟨0⟩).2.locations
    swept.knows buffer.packet.headers.origin buffer.packet.headers.stamp = false ∧
      swept.HasRoom buffer.packet.headers.origin := by
  rw [errand.stamp]
  exact ⟨ready.poll.fresh _, ready.poll.room ready.poll.few _⟩

variable (distance) in
theorem Ready.delivers (ready : o.Ready now (o.count - 1) station) (errand : Errand o now h)
    (carries : Carries buffer.bytes h payload)
    (admitted : Admitted (o.mid (o.count - 1)).mac buffer.bytes) :
    ∃ packet, (Router.reception distance (station.place buffer)).outcome = .delivered packet ∧
      packet.payload = .ok payload := by
  rw [← ready.mac] at admitted
  obtain ⟨clear, rfl⟩ := Headers.parse_ok_iff.mp carries.parsed
  obtain ⟨fresh, room⟩ := ready.takes errand
  have owned := (ready.owns_iff buffer.packet.headers.target).mpr errand.target.symm
  have transport : buffer.packet.headers.next.transport?.isSome := by
    have next : buffer.packet.headers.next = .btpB := errand.next
    rw [next]
    rfl
  obtain ⟨delivered, -⟩ := Router.reception_of_local distance (station.place buffer) admitted clear
    owned transport rfl fresh room
  exact ⟨_, delivered, carries.of_delivered distance delivered⟩

/-- A station sends the packet to the next one, also once it has learned the first one from it. -/
theorem Ready.chooses (ready : o.Ready now index station) (distinct : o.Distinct)
    (approaches : o.Approaches distance) (further : index + 1 < o.count)
    (errand : Errand o now h) :
    ({ station.router with locations := station.router.learned ⟨0⟩ h } : Router).route distance h =
      if h.remainingHops ≤ 1 then .drop .hopLimit else .forward (o.mid (index + 1)).mac := by
  obtain ⟨entry, found, heard⟩ := ready.next further
  have mapped := ready.mapped.learned ⟨0⟩ (Nat.zero_lt_of_lt further) (fun _ => Nat.zero_le _)
    errand.origin errand.source
  have known : (station.router.learned ⟨0⟩ h).find? (o.mid (index + 1)) = some entry := by
    have other : o.mid (index + 1) ≠ h.origin := by
      rw [errand.origin]
      exact (distinct (index + 1) further 0 (Nat.succ_pos _)).symm
    rw [Router.find?_learned (ready.room ready.few _), if_neg other, found]
  have chosen := mapped.nextHop distinct approaches further known heard h.trafficClass
  rw [← errand.destination] at chosen
  have position : station.router.management.position = some (o.position index) := by
    rw [ready.management]
  have greedy : station.router.settings.forwarding = .greedy := by
    rw [ready.settings]
    rfl
  exact Router.route_of_neighbour distance position greedy chosen

theorem Ready.hands_on (ready : o.Ready now index station) (distinct : o.Distinct)
    (approaches : o.Approaches distance) (later : 0 < index) (further : index + 1 < o.count)
    (errand : Errand o now h) (carries : Carries buffer.bytes h payload)
    (admitted : Admitted (o.mid index).mac buffer.bytes) :
    (Router.reception distance (station.place buffer)).outcome =
      if h.remainingHops ≤ 1 then .discarded .hopLimit
      else .forwarded (o.mid (index + 1)).mac := by
  rw [← ready.mac] at admitted
  obtain ⟨clear, rfl⟩ := Headers.parse_ok_iff.mp carries.parsed
  obtain ⟨fresh, room⟩ := ready.takes errand
  have away : station.router.links.owns buffer.packet.headers.target = false := by
    have target : buffer.packet.headers.target = o.mid (o.count - 1) := errand.target
    rw [Bool.eq_false_iff, ne_eq, ready.owns_iff, target]
    exact distinct (o.count - 1) (by omega) index (by omega)
  have foreign : station.router.links.owns buffer.packet.headers.origin = false := by
    have origin : buffer.packet.headers.origin = o.mid 0 := errand.origin
    rw [Bool.eq_false_iff, ne_eq, ready.owns_iff, origin]
    exact (distinct index (by omega) 0 later).symm
  have reception := Router.reception_of_transit distance (station.place buffer) admitted clear away
    foreign rfl fresh room
  have chosen : Router.route distance _ buffer.packet.headers = _ :=
    ready.poll.chooses distinct approaches further errand
  rw [reception.trans (congrArg _ chosen)]
  by_cases spent : buffer.packet.headers.remainingHops ≤ 1
  · rw [if_pos spent]
    exact (if_pos spent).symm
  · -- The handle of a frame that came in does not refuse to queue it.
    rw [if_neg spent]
    exact (if_neg spent).symm

end Arrival

/-! ### Along the line -/

section Course

variable {D : Type} [LinearOrder D] {distance : Point → Point → D}
variable {o : Options} {now : Nat} {payload : Bytes}

/-- Stations that stand side by side send the packet on, each to the next one. -/
def passing (o : Options) (first count : Nat) : List Event :=
  (List.range' first count).map fun index => .forwarded index (o.mid (index + 1)).mac

/-- What becomes of a packet from a station on that has `left` others behind it. -/
def ending (o : Options) (payload : Bytes) (hops index left : Nat) : List Event :=
  if left = 0 ∨ left < hops then
    o.passing index left ++ [.received payload, .delivered (index + left)]
  else o.passing index (hops - 1) ++ [.dropped (index + (hops - 1)) (some .hopLimit)]

theorem passing_succ (o : Options) (first count : Nat) : o.passing first (count + 1) =
    .forwarded first (o.mid (first + 1)).mac :: o.passing (first + 1) count := by
  rw [passing, List.range'_succ]
  rfl

theorem ending_succ (o : Options) (payload : Bytes) {hops : Nat} (spare : 1 < hops)
    (index left : Nat) : o.ending payload hops index (left + 1) =
      .forwarded index (o.mid (index + 1)).mac :: o.ending payload (hops - 1) (index + 1) left := by
  obtain ⟨more, rfl⟩ : ∃ more, hops = more + 2 := ⟨hops - 2, by omega⟩
  have reached : (left + 1 = 0 ∨ left + 1 < more + 2) ↔ (left = 0 ∨ left < more + 1) := by omega
  have ahead (count : Nat) : index + (count + 1) = index + 1 + count := by omega
  simp only [ending, reached, Nat.add_one_sub_one]
  split
  · rw [passing_succ, List.cons_append, ahead left]
  · rw [passing_succ, List.cons_append, ahead more]

/-- From any station but the first the packet goes to the last, or as far as its hops allow. -/
theorem handOn_eq (distinct : o.Distinct) (approaches : o.Approaches distance) (left : Nat) :
    ∀ {index : Nat} {h : Headers} {buffer : Buffer}, 0 < index → index + left + 1 = o.count →
      Errand o now h → Carries buffer.bytes h payload → Admitted (o.mid index).mac buffer.bytes →
      handOn distance buffer index ((List.range' index (left + 1)).map (o.acquainted now)) =
        .ok (o.ending payload h.remainingHops.toNat index left) := by
  -- The index, the buffer and the headers in it change from station to station.
  induction left with
  | zero =>
    intro index h buffer later last errand carries admitted
    obtain rfl : index = o.count - 1 := by omega
    have ready := o.ready_acquainted now (Nat.sub_lt (by omega) Nat.one_pos : o.count - 1 < _)
    obtain ⟨packet, delivered, whole⟩ := ready.delivers distance errand carries admitted
    rw [Station.place] at delivered
    rw [List.range'_one, List.map_singleton, handOn, Router.receive_eq]
    simp only [bind, Except.bind, delivered, whole]
    rfl
  | succ left ih =>
    intro index h buffer later further errand carries admitted
    have ready := o.ready_acquainted now (by omega : index < o.count)
    have outcome := ready.hands_on distinct approaches later (by omega) errand carries admitted
    rw [List.range'_succ, List.map_cons, handOn, Router.receive_eq]
    by_cases spent : h.remainingHops ≤ 1
    · have few : h.remainingHops.toNat ≤ 1 := UInt8.le_iff_toNat_le.mp spent
      rw [if_pos spent, Station.place] at outcome
      simp only [bind, Except.bind, outcome]
      rw [ending, if_neg (by omega), Nat.sub_eq_zero_of_le few]
      rfl
    · rw [if_neg spent] at outcome
      obtain ⟨spare, carries⟩ := carries.of_forwarded distance outcome
      have sent := (Router.reception_forwards distance outcome).buffer
      have more := UInt8.lt_iff_toNat_lt.mp spare
      have less : (h.remainingHops - 1).toNat = h.remainingHops.toNat - 1 :=
        UInt8.toNat_sub_of_le _ _ (UInt8.le_of_lt spare)
      have admitted : Admitted (o.mid (index + 1)).mac
          (Router.reception distance
            ((o.acquainted now index).place buffer)).place.buffer.bytes := by
        rw [sent]
        exact Buffer.admitted_sentOn ..
      have rest := ih (Nat.succ_pos index) (by omega) (errand.spent _) carries admitted
      rw [ending_succ o payload more, ← less]
      simp only [Station.place] at outcome rest
      simp only [bind, Except.bind, outcome, rest]
      rfl

end Course

/-! ### The first station -/

section Start

variable {D : Type} [LinearOrder D] (distance : Point → Point → D)
variable {o : Options} {now index : Nat} {station : Station} {payload : Bytes}

theorem Stands.sourceAddress? (stands : o.Stands now index station) (mac : Mac) :
    station.router.sourceAddress? mac = some (o.address index) := by
  unfold Router.sourceAddress?
  rw [stands.links]
  split
  · rename_i link found
    rw [List.mem_singleton.mp (List.mem_of_find?_eq_some found)]
  · rfl

theorem Stands.request_eq (stands : o.Stands now index station) (destination : Address)
    (length : Nat) : station.router.request destination .btpB length =
      { destination, next := .btpB, payload := length } := by
  rw [Router.request, stands.settings]
  rfl

theorem Stands.makes (stands : o.Stands now 0 station) {entry : Entry}
    (found : station.router.locations.find? (o.mid (o.count - 1)) = some entry)
    (place : entry.position.point = (o.position (o.count - 1)).point)
    (short : payload.length ≤ 1398) :
    ∃ h, station.router.headersFor distance
        (station.router.request (o.address (o.count - 1)) .btpB payload.length)
        station.adapter.address = .ok h ∧
      Errand o now h ∧ h.remainingHops = o.hopLimit.toUInt8 := by
  have clock : station.router.management.timestamp = some (.ofUnixMillis now) := by
    rw [stands.management]
    rfl
  have position : station.router.management.position = some (o.position 0) := by
    rw [stands.management]
  have taken : ¬ o.configured.maxPayload.toNat < payload.length := Nat.not_lt.mpr short
  have narrow : ¬ UInt16.size ≤ payload.length :=
    Nat.not_le.mpr (Nat.lt_of_le_of_lt short (by decide))
  have spacious : ¬ o.configured.maxHeaders.toNat < Headers.size :=
    (by decide : ¬ 88 < Headers.size)
  have target : (o.address (o.count - 1)).mid = o.mid (o.count - 1) := o.mid_address _
  rw [← target] at found
  rw [stands.request_eq]
  have extended : station.router.unicastHeader distance
      { destination := o.address (o.count - 1), next := .btpB, payload := payload.length }
      station.adapter.address = .ok _ :=
    Router.unicastHeader_eq distance (stands.sourceAddress? _) clock position found
      (LocationTable.nextHop_ne_buffer _ distance _ _ rfl)
  rw [Router.headersFor_eq, extended, stands.settings, if_neg taken, if_neg narrow]
  refine ⟨_, if_neg spacious, ?_, rfl⟩
  exact {
    origin := o.mid_address 0
    target := (LocationTable.mid_of_find? found).trans target
    stamp := congrArg (Stamp.mk (.ofUnixMillis now)) stands.sequence
    source := rfl
    destination := place
    next := rfl }

/-- The packet stands in the buffer of the first station, and every station takes it. -/
theorem Stands.sends (stands : o.Stands now 0 station) {entry : Entry}
    (found : station.router.locations.find? (o.mid (o.count - 1)) = some entry)
    (place : entry.position.point = (o.position (o.count - 1)).point)
    (short : payload.length ≤ 1398) (buffer : Buffer) (free : buffer.resizing = .free) :
    ∃ place h, station.router.originate distance station.adapter
        (station.router.request (o.address (o.count - 1)) .btpB payload.length) payload buffer =
          .ok (.ok (), place) ∧
      Errand o now h ∧ h.remainingHops = o.hopLimit.toUInt8 ∧
      Carries place.buffer.bytes h payload ∧ ∀ own, Admitted own place.buffer.bytes := by
  obtain ⟨h, made, errand, hops⟩ := stands.makes distance found place short
  have makes := Router.makes_of_headersFor distance made
  have takes : buffer.canTake h.frameLength = true := by
    unfold Buffer.canTake
    rw [free]
  have originated := Router.originate_eq distance station.router
    (station.router.request (o.address (o.count - 1)) .btpB payload.length) station.adapter payload
    buffer rfl
  simp only [made, if_pos takes] at originated
  let laid := (Packet.laid buffer h.framing h payload).buffer
  have bytes : laid.bytes = h.framing.encode ++ (h.encode ++ payload) := rfl
  obtain ⟨admitted, clear, headers, readable⟩ := makes.read rfl bytes
  have carries := Carries.of_payload clear readable
  rw [headers] at carries
  exact ⟨_, _, originated, errand.transmitted, hops, carries, admitted⟩

/-- What the stations report of a packet that goes as far as its hops allow. -/
def course (o : Options) (payload : Bytes) : List Event :=
  let last := o.count - 1
  let hops := o.hopLimit.toNat
  .sent (o.address last) ::
    if o.count = 2 ∨ last ≤ hops then
      o.passing 1 (last - 1) ++ [.received payload, .delivered last]
    else o.passing 1 (max 1 hops - 1) ++ [.dropped (max 1 hops) (some .hopLimit)]

theorem course_eq (o : Options) (payload : Bytes) : o.course payload =
    .sent (o.address (o.count - 1)) ::
      o.ending payload o.hopLimit.toNat 1 (o.count - 2) := by
  have several : 2 ≤ o.count := Nat.le_max_right ..
  have reached : (o.count = 2 ∨ o.count - 1 ≤ o.hopLimit.toNat) ↔
      (o.count - 2 = 0 ∨ o.count - 2 < o.hopLimit.toNat) := by omega
  have last : 1 + (o.count - 2) = o.count - 1 := by omega
  have spent : max 1 o.hopLimit.toNat - 1 = o.hopLimit.toNat - 1 := by omega
  have stop : 1 + (o.hopLimit.toNat - 1) = max 1 o.hopLimit.toNat := by omega
  simp only [course, ending, reached, last, spent, stop]
  rfl

theorem sendAlong_eq (stands : o.Stands now 0 station) (distinct : o.Distinct)
    (approaches : o.Approaches distance) {entry : Entry}
    (found : station.router.locations.find? (o.mid (o.count - 1)) = some entry)
    (place : entry.position.point = (o.position (o.count - 1)).point)
    (short : payload.length ≤ 1398) (hops : o.hopLimit.toNat ≤ 255) :
    sendAlong distance station ((List.range' 1 (o.count - 1)).map (o.acquainted now))
      (o.address (o.count - 1)) payload = .ok (o.course payload) := by
  have several : 2 ≤ o.count := Nat.le_max_right ..
  obtain ⟨place, h, sent, errand, limit, carries, admitted⟩ := stands.sends distance found place
    short (.ofAllocated (List.replicate bufferLength 0)) rfl
  have others : o.count - 1 = o.count - 2 + 1 := by omega
  have whole : h.remainingHops.toNat = o.hopLimit.toNat := by
    rw [limit]
    exact Nat.mod_eq_of_lt (Nat.lt_succ_of_le hops)
  have rest := handOn_eq distinct approaches (o.count - 2) Nat.one_pos (by omega) errand carries
    (admitted (o.mid 1).mac)
  rw [whole, ← others] at rest
  unfold sendAlong
  rw [course_eq, sent]
  simp only [bind, Except.bind, rest]
  rfl

end Start
end Options

section Run

variable {D : Type} [LinearOrder D] {distance : Point → Point → D}

/-- The neighbours meet, the first station meets the last, and the packet goes its way. -/
theorem run?_eq {o : Options} (now : Nat) {payload : Bytes} (hops : o.hopLimit.toNat ≤ 255)
    (short : payload.length ≤ 1398) (distinct : o.Distinct) (approaches : o.Approaches distance) :
    run? distance (o.row now) now payload = some (o.course payload) := by
  have several : 2 ≤ o.count := Nat.le_max_right ..
  have row : (List.range o.count).map (o.acquainted now) =
      o.acquainted now 0 :: (List.range' 1 (o.count - 1)).map (o.acquainted now) := by
    obtain ⟨others, more⟩ : ∃ others, o.count = others + 1 := ⟨o.count - 1, by omega⟩
    rw [more, List.range_eq_range', List.range'_succ, List.map_cons]
    rfl
  have ready := o.ready_acquainted now (by omega : 0 < o.count)
  obtain ⟨last, lone⟩ : ∃ last, last = o.lone now (o.count - 1) := ⟨_, rfl⟩
  have address : last.address = o.address (o.count - 1) := by rw [lone, Options.lone]
  have named : last.address.mid = o.mid (o.count - 1) := by rw [address, o.mid_address]
  have placed : last.position = o.position (o.count - 1) := by rw [lone, Options.lone]
  have near : decide (o.count = 2) = true → o.count - 1 ≤ 0 + 1 := by
    intro pair
    exact Nat.le_of_eq (congrArg (· - 1) (of_decide_eq_true pair))
  obtain ⟨entry, found, place, -⟩ := ready.find?_met ready.few (decide (o.count = 2)) last
  have first := ready.met (Nat.sub_lt (by omega) Nat.one_pos) near named
    (congrArg LocalPosition.point placed)
  rw [named] at found
  rw [placed] at place
  have sent := Options.sendAlong_eq distance first distinct approaches found place short hops
  unfold run?
  rw [o.getLast?_row, o.meetNeighbours_eq, o.length_row, row, ← lone]
  simp only [bind, Option.bind, Except.toOption, Station.meet_eq (ready.room ready.few _), address,
    sent]

/-- Along a line of stations that have identifiers of their own and come closer and closer to the
last one, each station sends the packet of the first one on to the next, until the last one
delivers its payload or a station finds that it has no hop to spare. -/
theorem line_carries_packet {o : Options} (now : Nat) {payload : Bytes}
    (hops : o.hopLimit.toNat ≤ 255) (lifetime : o.lifetime ≤ .ofSeconds 600)
    (short : payload.length ≤ 1398) (distinct : o.Distinct) (approaches : o.Approaches distance) :
    ∃ settings line, o.settings? = .ok settings ∧ o.line settings now = .ok line ∧
      run? distance line now payload = some (o.course payload) :=
  ⟨o.configured, _, Options.settings?_eq hops lifetime, o.line_eq now,
    run?_eq now hops short distinct approaches⟩

end Run

/-- Two hops are one too few for four stations, and three are enough. -/
theorem line_carries_packet_with_three_hops :
    let distance : Point → Point → Nat := fun a b => (a.latitude.toInt - b.latitude.toInt).natAbs
    let options (hops : UInt32) : Options := { hopLimit := hops }
    (∃ settings line, (options 2).settings? = .ok settings ∧
      (options 2).line settings 1700000000000 = .ok line ∧
      run? distance line 1700000000000 [7] = some [.sent ((options 2).address 3),
        .forwarded 1 ((options 2).mid 2).mac, .dropped 2 (some .hopLimit)]) ∧
    ∃ settings line, (options 3).settings? = .ok settings ∧
      (options 3).line settings 1700000000000 = .ok line ∧
      run? distance line 1700000000000 [7] = some [.sent ((options 3).address 3),
        .forwarded 1 ((options 3).mid 2).mac, .forwarded 2 ((options 3).mid 3).mac,
        .received [7], .delivered 3] := by
  intro distance options
  constructor
  · exact line_carries_packet 1700000000000 (by decide) (by decide) (by decide) (by decide +kernel)
      (by decide +kernel)
  · exact line_carries_packet 1700000000000 (by decide) (by decide) (by decide) (by decide +kernel)
      (by decide +kernel)

end GeoRouter.Relay
