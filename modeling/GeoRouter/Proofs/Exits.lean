import GeoRouter.Proofs.Reception

/-!
# The exits of reception

A frame that is for the router ends in just one of about fifteen ways. `exits` lists them in order,
each with the condition under which it is taken if none before it is. All conditions are put to the
router as the sweep leaves it; only the next hop is chosen from the table with the source entered.
-/

namespace GeoRouter

inductive Ending where
  | discarded (cause : Cause)
  /-- The octets that a transport was called with, once. -/
  | delivered (payload : Bytes)
  | forwarded (nextHop : Mac)
  deriving DecidableEq

def Outcome.ending? : Outcome → Option Ending
  | .ignored => none
  | .delivered packet => packet.payload.toOption.map .delivered
  | .forwarded nextHop => some (.forwarded nextHop)
  | .discarded cause => some (.discarded cause)

/-- The handle of a buffer at the end: only a packet that goes on was queued. -/
def Handle.after (handle : Handle) : Ending → Handle
  | .forwarded _ => { handle with queueing := .queued }
  | .delivered _ | .discarded _ => handle

/-- The counters at the end. A discarded packet is remembered by its cause. -/
def Counters.after (counters : Counters) : Ending → Counters
  | .discarded cause => { counters with
      duplicates := counters.duplicates + if cause = .duplicate then 1 else 0
      discarded := counters.discarded + 1
      lastCause := some cause }
  | .delivered _ => { counters with delivered := counters.delivered + 1 }
  | .forwarded _ => { counters with forwarded := counters.forwarded + 1 }

/-- A way out of reception and when it is open. -/
structure Exit where
  applies : Bool
  ending : Ending

def firstEnding? (exits : List Exit) : Option Ending :=
  (exits.find? (·.applies)).map (·.ending)

section Lists

variable {applies : Bool} {ending : Ending} {rest : List Exit}

theorem firstEnding?_open (opened : applies = true) :
    firstEnding? (⟨applies, ending⟩ :: rest) = some ending := by
  simp [firstEnding?, opened]

theorem firstEnding?_shut (shut : applies = false) :
    firstEnding? (⟨applies, ending⟩ :: rest) = firstEnding? rest := by
  simp [firstEnding?, shut]

end Lists

namespace Router

section Exits

variable {D : Type} [LT D] [LE D] [DecidableLT D] [DecidableLE D] (distance : Point → Point → D)

/-- The source has no entry, and there is no slot for one. -/
def crowdedOut (swept : Router) (h : Headers) : Bool :=
  (swept.locations.find? h.origin).isNone && swept.locations.size = swept.locations.capacity

def localExits (swept : Router) (octets : Bytes) (h : Headers) : List Exit :=
  [⟨swept.crowdedOut h, .discarded .locationTableFull⟩,
    ⟨h.next ≠ .btpA && h.next ≠ .btpB, .discarded .noTransport⟩,
    ⟨true, .delivered ((octets.drop Headers.size).take h.payloadLength.toNat)⟩]

/-- The exits of a packet that a next hop is sought for, from the position `own`. -/
def routeExits (swept : Router) (handle : Handle) (h : Headers) (own : LocalPosition) :
    List Exit :=
  let nextHop := (swept.learned handle.time h).nextHop distance own.point
    h.extended.destination.point h.trafficClass
  [⟨swept.settings.forwarding ≠ .greedy, .discarded .noRoute⟩,
    ⟨nextHop = .buffer, .discarded .noRoute⟩,
    ⟨handle.queueing = .refused, .discarded .queue⟩,
    ⟨true, .forwarded nextHop.mac⟩]

def transitExits (swept : Router) (handle : Handle) (h : Headers) : List Exit :=
  ⟨swept.links.owns h.origin, .discarded .ownPacket⟩ ::
    ⟨swept.crowdedOut h, .discarded .locationTableFull⟩ ::
    ⟨h.remainingHops ≤ 1, .discarded .hopLimit⟩ ::
    match swept.management.position with
    | none => [⟨true, .discarded .noPosition⟩]
    | some own => swept.routeExits distance handle h own

/-- All exits behind the filter, by what the parser answered. -/
def exits (swept : Router) (handle : Handle) (octets : Bytes) :
    Except WireError Headers → List Exit
  | .error reason => [⟨true, .discarded (.ofWire reason)⟩]
  | .ok h =>
    ⟨swept.locations.knows h.origin h.stamp, .discarded .duplicate⟩ ::
      if swept.links.owns h.target then swept.localExits octets h
      else swept.transitExits distance handle h

/-! ### From verdicts to exits -/

theorem crowdedOut_iff {swept : Router} {h : Headers} :
    swept.crowdedOut h = true ↔ ¬ swept.locations.HasRoom h.origin := by
  simp [crowdedOut, LocationTable.HasRoom, LocationTable.Full]

/-- The end that a verdict comes to in the buffer at hand. -/
def verdictEnding (handle : Handle) (octets : Bytes) (h : Headers) : Verdict → Ending
  | .deliver => .delivered ((octets.drop Headers.size).take h.payloadLength.toNat)
  | .forward nextHop =>
    if handle.queueing = .refused then .discarded .queue else .forwarded nextHop
  | .drop cause => .discarded cause

theorem ending?_concluded (r : Router) (adapter : Adapter) {buffer : Buffer}
    (clear : Headers.objection? (buffer.bytes.drop FrameHeader.size) = none)
    (verdict : Verdict) :
    (r.concluded adapter buffer.packet verdict).outcome.ending? = some (verdictEnding
      adapter.handle (buffer.bytes.drop FrameHeader.size) buffer.packet.headers verdict) := by
  cases verdict with
  | deliver => simp only [concluded, Outcome.ending?, Packet.payload_eq clear]; rfl
  | drop cause => rfl
  | forward nextHop =>
    simp only [concluded, passedOn, verdictEnding]
    split <;> rfl

theorem handle_concluded (r : Router) (adapter : Adapter) (buffer : Buffer) (octets : Bytes)
    (verdict : Verdict) :
    (r.concluded adapter buffer.packet verdict).place.adapter.handle = adapter.handle.after
      (verdictEnding adapter.handle octets buffer.packet.headers verdict) := by
  cases verdict with
  | deliver => rfl
  | drop cause => rfl
  | forward nextHop =>
    simp only [concluded, passedOn, verdictEnding]
    split <;> rfl

theorem firstEnding?_local (swept : Router) (handle : Handle) (mac : Mac) (octets : Bytes)
    (h : Headers) : firstEnding? (swept.localExits octets h) = some (verdictEnding handle octets h
      (decideLocal { swept with locations := swept.locations.restamp h } mac handle.time h).1) := by
  rw [decideLocal_eq, localExits]
  simp only [LocationTable.hasRoom_restamp]
  by_cases room : swept.locations.HasRoom h.origin
  · rw [firstEnding?_shut (Bool.eq_false_iff.mpr (mt crowdedOut_iff.mp (not_not_intro room))),
      if_pos room]
    cases next : h.next <;> rfl
  · rw [firstEnding?_open (crowdedOut_iff.mpr room), if_neg room]
    rfl

theorem firstEnding?_route (swept : Router) (handle : Handle) (octets : Bytes) (h : Headers)
    (own : LocalPosition) (position : swept.management.position = some own)
    (hops : ¬ h.remainingHops ≤ 1) :
    firstEnding? (swept.routeExits distance handle h own) = some (verdictEnding handle octets h
      (route distance { swept with locations := swept.learned handle.time h } h)) := by
  unfold routeExits
  rw [route, if_neg hops]
  simp only [position]
  by_cases greedy : swept.settings.forwarding = .greedy
  · rw [firstEnding?_shut (by simp [greedy]), if_neg (not_not_intro greedy)]
    cases (swept.learned handle.time h).nextHop distance own.point
      h.extended.destination.point h.trafficClass with
    | buffer => rfl
    | broadcast | neighbour mid =>
      cases queueing : handle.queueing <;>
        simp [firstEnding?, verdictEnding, queueing, NextHop.mac]
  · rw [firstEnding?_open (by simp [greedy]), if_pos greedy]
    rfl

theorem firstEnding?_transit (swept : Router) (handle : Handle) (octets : Bytes) (h : Headers) :
    firstEnding? (swept.transitExits distance handle h) = some (verdictEnding handle octets h
      (decideTransit distance { swept with locations := swept.locations.restamp h }
        handle.time h).1) := by
  rw [decideTransit_eq, transitExits]
  simp only [LocationTable.hasRoom_restamp]
  cases owned : swept.links.owns h.origin with
  | true => rfl
  | false =>
    rw [firstEnding?_shut rfl]
    by_cases room : swept.locations.HasRoom h.origin
    · rw [firstEnding?_shut (Bool.eq_false_iff.mpr (mt crowdedOut_iff.mp (not_not_intro room))),
        if_pos room, learned_restamp room]
      by_cases hops : h.remainingHops ≤ 1
      · rw [firstEnding?_open (by simp [hops]), route, if_pos hops]
        rfl
      · rw [firstEnding?_shut (by simp [hops])]
        cases position : swept.management.position with
        | none =>
          unfold route
          rw [if_neg hops]
          simp only [position]
          rfl
        | some own =>
          exact firstEnding?_route distance swept handle octets h own position hops
    · rw [firstEnding?_open (crowdedOut_iff.mpr room), if_neg room]
      rfl

theorem firstEnding?_fresh (swept : Router) (handle : Handle) (mac : Mac) (octets : Bytes)
    {h : Headers} (fresh : swept.locations.knows h.origin h.stamp = false) :
    firstEnding? (swept.exits distance handle octets (.ok h)) = some (verdictEnding handle octets h
      (decide distance { swept with locations := swept.locations.restamp h } mac
        handle.time h).1) := by
  simp only [decide_eq, exits, firstEnding?_shut fresh]
  split
  · exact firstEnding?_local swept handle mac octets h
  · exact firstEnding?_transit distance swept handle octets h

/-- What is booked for an outcome is what its ending leaves of the counters. -/
theorem book_of_ending {outcome : Outcome} {ending : Ending}
    (ends : outcome.ending? = some ending) (counters : Counters) :
    counters.book outcome = counters.after ending := by
  cases outcome with
  | ignored => cases ends
  | delivered packet =>
    obtain ⟨payload, -, rfl⟩ := Option.map_eq_some_iff.mp ends
    rfl
  | forwarded nextHop | discarded cause =>
    obtain rfl := Option.some.inj ends
    rfl

theorem ending_reception {place : Workplace}
    (admitted : Admitted place.adapter.address place.buffer.bytes) :
    ∃ answer ending, Headers.parse (place.buffer.bytes.drop FrameHeader.size) = .ok answer ∧
      (reception distance place).outcome.ending? = some ending ∧
      firstEnding? ((place.router.poll place.adapter.time).2.exits distance place.adapter.handle
        (place.buffer.bytes.drop FrameHeader.size) answer) = some ending ∧
      (reception distance place).place.adapter.handle = place.adapter.handle.after ending := by
  rw [reception, if_pos admitted, Headers.parse_eq]
  cases objection : Headers.objection? (place.buffer.bytes.drop FrameHeader.size) with
  | some reason =>
    rw [answered_of_objection distance _ _ objection]
    exact ⟨_, _, rfl, rfl, firstEnding?_open rfl, rfl⟩
  | none =>
    cases known : (place.router.poll place.adapter.time).2.locations.knows
      place.buffer.packet.headers.origin place.buffer.packet.headers.stamp with
    | true =>
      rw [answered_of_known distance _ _ objection known]
      exact ⟨_, _, rfl, rfl, firstEnding?_open known, rfl⟩
    | false =>
      rw [answered_of_fresh distance _ _ objection known]
      exact ⟨_, _, rfl, ending?_concluded _ _ objection _,
        firstEnding?_fresh distance _ _ _ _ known, handle_concluded _ _ _ _ _⟩

/-- Reception leaves a frame alone that is not for the router, and takes the first exit that is
open for any other. That is counted once, next to the addresses that are given up. -/
theorem receive_takes_first_exit (place : Workplace) :
    let octets := place.buffer.bytes.drop FrameHeader.size
    let swept := (place.router.poll place.adapter.time).2
    if Admitted place.adapter.address place.buffer.bytes then
      ∃ answer reception ending, Headers.parse octets = .ok answer ∧
        receive distance place = .ok reception ∧ reception.outcome.ending? = some ending ∧
        firstEnding? (swept.exits distance place.adapter.handle octets answer) = some ending ∧
        reception.place.adapter.handle = place.adapter.handle.after ending ∧
        ∃ regenerated, place.router.counters.regenerated ≤ regenerated ∧
          reception.place.router.counters =
            { place.router.counters with regenerated }.after ending
    else receive distance place = .ok ⟨place, .ignored⟩ := by
  intro octets swept
  rw [receive_eq]
  split
  · rename_i admitted
    obtain ⟨answer, ending, parsed, ends, first, handle⟩ := ending_reception distance admitted
    obtain ⟨regenerated, grown, counted⟩ := counters_reception distance place
    exact ⟨answer, _, ending, parsed, rfl, ends, first, handle, regenerated, grown,
      counted.trans (book_of_ending ends _)⟩
  · rename_i other
    rw [reception, if_neg other]

end Exits
end Router
end GeoRouter
