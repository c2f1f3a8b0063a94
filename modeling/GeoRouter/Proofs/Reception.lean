import GeoRouter.Router.Receive
import GeoRouter.Proofs.Framing
import GeoRouter.Proofs.Language
import GeoRouter.Proofs.Decision

/-!
# Reception as a total function

`Router.receive` reads octets behind checks that stand elsewhere and takes a hop behind a test in
another branch. `receive_eq` puts all of them together once: whatever is in the buffer, reception
answers, and its answer is `reception`, which is built from total parts alone. What is proved of
receiving is proved of that function.
-/

namespace GeoRouter

namespace Packet

theorem parse_eq {frame : Frame Buffer} (long : FrameHeader.size ≤ frame.inner.bytes.length) :
    parse frame = .ok (match Headers.objection? (frame.inner.bytes.drop FrameHeader.size) with
      | some reason => .error reason
      | none => .ok ⟨frame, Headers.inOctets (frame.inner.bytes.drop FrameHeader.size)⟩) :=
  parse_of_view (Frame.view_eq frame long)

end Packet

theorem Headers.long_of_clear {b : Bytes} (clear : objection? (b.drop FrameHeader.size) = none) :
    FrameHeader.size + size ≤ b.length := by
  have enough := (of_objection?_none clear).1
  rw [List.length_drop] at enough
  rw [size, FixedHeader.size, GeoUnicast.size] at enough ⊢
  omega

/-- The counters once a frame has come to its end. -/
def Counters.book (counters : Counters) : Outcome → Counters
  | .ignored => counters
  | .delivered _ => { counters with delivered := counters.delivered + 1 }
  | .forwarded _ => { counters with forwarded := counters.forwarded + 1 }
  | .discarded cause => counters.discard cause

/-! ### Sending on -/

namespace Buffer

def takeHop (buffer : Buffer) (hops : UInt8) : Buffer :=
  { buffer with bytes := buffer.bytes.splice (FrameHeader.size + 3) [hops - 1] }

def packet (buffer : Buffer) : FramedPacket :=
  ⟨⟨buffer, FrameHeader.inOctets buffer.bytes⟩,
    Headers.inOctets (buffer.bytes.drop FrameHeader.size)⟩

theorem length_takeHop {buffer : Buffer} (long : FrameHeader.size + 4 ≤ buffer.bytes.length)
    (hops : UInt8) : (buffer.takeHop hops).bytes.length = buffer.bytes.length :=
  Bytes.length_splice long

end Buffer

/-- The payload of a packet without objection lies inside the frame. -/
theorem Packet.payload_eq {buffer : Buffer}
    (clear : Headers.objection? (buffer.bytes.drop FrameHeader.size) = none) :
    buffer.packet.payload = .ok (((buffer.bytes.drop FrameHeader.size).drop Headers.size).take
      buffer.packet.headers.payloadLength.toNat) := by
  have long : FrameHeader.size ≤ buffer.bytes.length :=
    Nat.le_trans (Nat.le_add_right ..) (Headers.long_of_clear clear)
  exact payload_of_view (Frame.view_eq buffer.packet.inner long) clear

theorem Packet.setRemainingHops_eq {packet : FramedPacket}
    (long : FrameHeader.size + 4 ≤ packet.buffer.bytes.length) (hops : UInt8) :
    ∃ frame headers, packet.setRemainingHops (hops - 1) = .ok ⟨frame, headers⟩ ∧
      frame.inner = packet.buffer.takeHop hops := by
  refine ⟨⟨packet.buffer.takeHop hops, packet.inner.header⟩,
    { packet.headers with remainingHops := hops - 1 }, ?_, rfl⟩
  unfold setRemainingHops
  rw [Frame.overwrite_eq packet.inner long]
  rfl

theorem Adapter.queue_eq (adapter : Adapter) :
    adapter.queue = if adapter.handle.queueing = .refused then (.error .illegal, adapter)
      else (.ok (), { adapter with handle.queueing := .queued }) := by
  obtain ⟨address, queueing, time⟩ := adapter
  cases queueing <;> rfl

namespace Router

def dropped (r : Router) (adapter : Adapter) (buffer : Buffer) (cause : Cause) : Reception :=
  ⟨⟨r.discard cause, adapter, buffer⟩, .discarded cause⟩

/-- A frame whose packet goes on, unless its handle refuses to queue it. -/
def passedOn (r : Router) (adapter : Adapter) (buffer : Buffer) (hops : UInt8) (nextHop : Mac) :
    Reception :=
  let sent := (buffer.takeHop hops).stamp
    (FrameHeader.encode ⟨adapter.address, nextHop, .geoNetworking⟩)
  if adapter.handle.queueing = .refused then r.dropped adapter sent .queue
  else ⟨⟨{ r with counters.forwarded := r.counters.forwarded + 1 },
    { adapter with handle.queueing := .queued }, sent⟩, .forwarded nextHop⟩

/-- A packet with a hop left is sent on, with its hop and its addresses changed. -/
theorem forward_eq (r : Router) (adapter : Adapter) {packet : FramedPacket} (nextHop : Mac)
    (long : FrameHeader.size + 4 ≤ packet.buffer.bytes.length)
    (left : packet.headers.remainingHops ≠ 0) :
    r.forward adapter packet nextHop =
      .ok (r.passedOn adapter packet.buffer packet.headers.remainingHops nextHop) := by
  obtain ⟨frame, headers, taken, inner⟩ :=
    Packet.setRemainingHops_eq long packet.headers.remainingHops
  have width : frame.inner.bytes.length = packet.buffer.bytes.length := by
    rw [inner, Buffer.length_takeHop long]
  have front : FrameHeader.size ≤ frame.inner.bytes.length := by omega
  have same : FrameHeader.size + (frame.inner.bytes.drop FrameHeader.size).length =
      frame.inner.bytes.length := by
    rw [List.length_drop]
    omega
  have reused := FrameRequest.reuse_eq ⟨⟨adapter.address, nextHop, .geoNetworking⟩,
    (frame.inner.bytes.drop FrameHeader.size).length⟩ same
  simp only [forward, if_neg left, taken, bind, Except.bind, Frame.view_eq frame front, reused]
  simp only [Adapter.queue_eq, inner, passedOn]
  by_cases refused : adapter.handle.queueing = .refused
  · simp only [if_pos refused]
    rfl
  · simp only [if_neg refused]
    rfl

/-! ### Deciding -/

def concluded (r : Router) (adapter : Adapter) (packet : FramedPacket) : Verdict → Reception
  | .deliver => ⟨⟨{ r with counters.delivered := r.counters.delivered + 1 }, adapter,
      packet.buffer⟩, .delivered packet⟩
  | .forward nextHop =>
    r.passedOn adapter packet.buffer packet.headers.remainingHops nextHop
  | .drop cause => r.dropped adapter packet.buffer cause

section Total

variable {D : Type} [LT D] [LE D] [DecidableLT D] [DecidableLE D] (distance : Point → Point → D)

def processed (r : Router) (adapter : Adapter) (packet : FramedPacket) : Reception :=
  let decision := r.decide distance adapter.address adapter.time packet.headers
  decision.2.1.concluded { adapter with address := decision.2.2 } packet decision.1

theorem process_eq (r : Router) (adapter : Adapter) (packet : FramedPacket)
    (long : FrameHeader.size + 4 ≤ packet.buffer.bytes.length) :
    r.process distance adapter packet = .ok (r.processed distance adapter packet) := by
  unfold process
  rw [processed]
  rcases decided : r.decide distance adapter.address adapter.time packet.headers with
    ⟨verdict, after, mac⟩
  cases verdict with
  | deliver => rfl
  | drop cause => rfl
  | forward nextHop =>
    obtain ⟨-, way⟩ := decide_forwards distance (congrArg Prod.fst decided)
    obtain ⟨spare, -⟩ := route_forwards distance way
    refine forward_eq after _ nextHop long fun none => ?_
    rw [none] at spare
    exact absurd spare (by decide)

/-- The reception of an admitted frame, after the sweep. -/
def answered (r : Router) (adapter : Adapter) (buffer : Buffer) : Reception :=
  match Headers.objection? (buffer.bytes.drop FrameHeader.size) with
  | some reason => r.dropped adapter buffer (.ofWire reason)
  | none =>
    let h := Headers.inOctets (buffer.bytes.drop FrameHeader.size)
    if r.locations.knows h.origin h.stamp then r.dropped adapter buffer .duplicate
    else processed distance { r with locations := r.locations.restamp h } adapter buffer.packet

section Answers

variable (r : Router) (adapter : Adapter) {buffer : Buffer}

theorem answered_of_objection {reason : WireError}
    (objection : Headers.objection? (buffer.bytes.drop FrameHeader.size) = some reason) :
    r.answered distance adapter buffer = r.dropped adapter buffer (.ofWire reason) := by
  unfold answered
  rw [objection]

variable (clear : Headers.objection? (buffer.bytes.drop FrameHeader.size) = none)
include clear

theorem answered_of_known
    (known : r.locations.knows buffer.packet.headers.origin buffer.packet.headers.stamp = true) :
    r.answered distance adapter buffer = r.dropped adapter buffer .duplicate := by
  unfold answered
  rw [clear]
  exact if_pos known

theorem answered_of_fresh
    (fresh : r.locations.knows buffer.packet.headers.origin buffer.packet.headers.stamp = false) :
    r.answered distance adapter buffer = processed distance
      { r with locations := r.locations.restamp buffer.packet.headers } adapter buffer.packet := by
  unfold answered
  rw [clear]
  exact if_neg (Bool.eq_false_iff.mp fresh)

end Answers

def reception (place : Workplace) : Reception :=
  if Admitted place.adapter.address place.buffer.bytes then
    (place.router.poll place.adapter.time).2.answered distance place.adapter place.buffer
  else ⟨place, .ignored⟩

theorem receiveFrame_eq (r : Router) (adapter : Adapter) {frame : Frame Buffer}
    (long : FrameHeader.size ≤ frame.inner.bytes.length)
    (read : frame.header = FrameHeader.inOctets frame.inner.bytes)
    (kind : frame.header.kind = .geoNetworking) :
    r.receiveFrame distance adapter frame =
      .ok ((r.poll adapter.time).2.answered distance adapter frame.inner) := by
  have whole : Packet.whole ⟨frame, Headers.inOctets (frame.inner.bytes.drop FrameHeader.size)⟩ =
      .ok (frame.inner.bytes.drop FrameHeader.size) := Frame.view_eq frame long
  have same : frame = ⟨frame.inner, FrameHeader.inOctets frame.inner.bytes⟩ := by
    rw [← read]
  unfold receiveFrame
  rw [if_neg (not_not_intro kind), answered]
  simp only [bind, Except.bind, Packet.parse_eq long]
  cases objection : Headers.objection? (frame.inner.bytes.drop FrameHeader.size) with
  | some reason => rfl
  | none =>
    have inside : FrameHeader.size + 4 ≤ frame.inner.bytes.length :=
      Nat.le_trans (by decide) (Headers.long_of_clear objection)
    simp only [whole, LocationTable.detectPacket?_eq _ objection]
    cases r.poll adapter.time with | mk count swept
    cases swept.locations.knows (Headers.inOctets (frame.inner.bytes.drop FrameHeader.size)).origin
      (Headers.inOctets (frame.inner.bytes.drop FrameHeader.size)).stamp with
    | true => rfl
    | false =>
      rw [same]
      exact process_eq distance _ adapter frame.inner.packet inside

theorem receive_eq (place : Workplace) :
    receive distance place = .ok (reception distance place) := by
  unfold receive
  rw [Frame.incoming?_eq, reception]
  by_cases admitted : Admitted place.adapter.address place.buffer.bytes
  · obtain ⟨passed, kind⟩ := admitted_iff.mp admitted
    rw [if_pos admitted, if_pos passed]
    exact receiveFrame_eq distance place.router place.adapter passed.1 rfl kind
  · rw [if_neg admitted]
    split
    · rename_i passed
      have other : (FrameHeader.inOctets place.buffer.bytes).kind ≠ .geoNetworking :=
        fun kind => admitted (admitted_iff.mpr ⟨passed, kind⟩)
      simp only [bind, Except.bind, receiveFrame, if_pos other]
      rfl
    · rfl

/-! ### The four courses -/

/-- The courses that a reception can take, by how far the frame gets. -/
inductive Course (place : Workplace) : Reception → Prop where
  | ignored (other : ¬ Admitted place.adapter.address place.buffer.bytes) :
    Course place ⟨place, .ignored⟩
  | unreadable {reason : WireError}
    (admitted : Admitted place.adapter.address place.buffer.bytes)
    (objection : Headers.objection? (place.buffer.bytes.drop FrameHeader.size) = some reason) :
    Course place ((place.router.poll place.adapter.time).2.dropped place.adapter place.buffer
      (.ofWire reason))
  | duplicate {swept : Router} (sweep : (place.router.poll place.adapter.time).2 = swept)
    (admitted : Admitted place.adapter.address place.buffer.bytes)
    (clear : Headers.objection? (place.buffer.bytes.drop FrameHeader.size) = none)
    (known : swept.locations.knows place.buffer.packet.headers.origin
      place.buffer.packet.headers.stamp = true) :
    Course place (swept.dropped place.adapter place.buffer .duplicate)
  | fresh {swept : Router} (sweep : (place.router.poll place.adapter.time).2 = swept)
    (admitted : Admitted place.adapter.address place.buffer.bytes)
    (clear : Headers.objection? (place.buffer.bytes.drop FrameHeader.size) = none)
    (fresh : swept.locations.knows place.buffer.packet.headers.origin
      place.buffer.packet.headers.stamp = false) :
    Course place (processed distance
      { swept with locations := swept.locations.restamp place.buffer.packet.headers }
      place.adapter place.buffer.packet)

theorem reception_course (place : Workplace) :
    Course distance place (reception distance place) := by
  unfold reception
  split
  · rename_i admitted
    cases objection : Headers.objection? (place.buffer.bytes.drop FrameHeader.size) with
    | some reason =>
      rw [answered_of_objection distance _ _ objection]
      exact .unreadable admitted objection
    | none =>
      cases known : (place.router.poll place.adapter.time).2.locations.knows
        place.buffer.packet.headers.origin place.buffer.packet.headers.stamp with
      | true =>
        rw [answered_of_known distance _ _ objection known]
        exact .duplicate rfl admitted objection known
      | false =>
        rw [answered_of_fresh distance _ _ objection known]
        exact .fresh rfl admitted objection known
  · rename_i other
    exact .ignored other

/-- What is done with a packet after the decision concerns the counters alone. -/
theorem concluded_frame (r : Router) (adapter : Adapter) (packet : FramedPacket)
    (verdict : Verdict) : (r.concluded adapter packet verdict).place.router =
      { r with counters := r.counters.book (r.concluded adapter packet verdict).outcome } := by
  cases verdict with
  | deliver => rfl
  | drop cause => rfl
  | forward nextHop =>
    simp only [concluded, passedOn]
    split <;> rfl

theorem processed_frame (r : Router) (adapter : Adapter) (packet : FramedPacket) :
    ∃ counters, (r.processed distance adapter packet).place.router =
      { (r.decide distance adapter.address adapter.time packet.headers).2.1 with counters } :=
  ⟨_, concluded_frame ..⟩

theorem poll_frame (r : Router) (now : Instant) : ∃ locations sweep sweepTicket,
    (r.poll now).2 = { r with locations, sweep, sweepTicket } := by
  unfold poll
  split
  · exact ⟨_, _, _, rfl⟩
  · exact ⟨r.locations, r.sweep, r.sweepTicket, rfl⟩

theorem links_poll (r : Router) (now : Instant) : (r.poll now).2.links = r.links := by
  obtain ⟨locations, sweep, sweepTicket, frame⟩ := r.poll_frame now
  rw [frame]

/-- The router behind the sweep, which comes before anything that is done with a frame. -/
def polled (place : Workplace) : Router :=
  if Admitted place.adapter.address place.buffer.bytes then
    (place.router.poll place.adapter.time).2
  else place.router

/-- Behind the sweep a reception concerns the table, the links, the generator and the counters. -/
theorem reception_frame (place : Workplace) : ∃ locations links generator counters,
    (reception distance place).place.router =
      { polled place with locations, links, generator, counters } := by
  have course := reception_course distance place
  unfold polled
  generalize reception distance place = after at course ⊢
  cases course with
  | ignored other =>
    rw [if_neg other]
    exact ⟨_, _, _, _, rfl⟩
  | unreadable admitted =>
    rw [if_pos admitted]
    exact ⟨_, _, _, _, rfl⟩
  | duplicate sweep admitted =>
    rw [if_pos admitted, sweep]
    exact ⟨_, _, _, _, rfl⟩
  | @fresh swept sweep admitted clear fresh =>
    obtain ⟨counters, frame⟩ := processed_frame distance
      { swept with locations := swept.locations.restamp place.buffer.packet.headers }
      place.adapter place.buffer.packet
    obtain ⟨locations, links, generator, regenerated, -, decided⟩ := decide_frame distance
      { swept with locations := swept.locations.restamp place.buffer.packet.headers }
      place.adapter.address place.adapter.time place.buffer.packet.headers
    rw [if_pos admitted, sweep, frame, decided]
    exact ⟨_, _, _, _, rfl⟩

/-- The sweep concerns the table and the timer of the sweep. -/
theorem polled_frame (place : Workplace) : ∃ locations sweep sweepTicket,
    polled place = { place.router with locations, sweep, sweepTicket } := by
  unfold polled
  split
  · exact place.router.poll_frame place.adapter.time
  · exact ⟨place.router.locations, place.router.sweep, place.router.sweepTicket, rfl⟩

theorem sequence_reception (place : Workplace) :
    (reception distance place).place.router.sequence = place.router.sequence := by
  obtain ⟨locations, links, generator, counters, frame⟩ := reception_frame distance place
  obtain ⟨_, sweep, sweepTicket, same⟩ := polled_frame place
  rw [frame, same]

theorem management_reception (place : Workplace) :
    (reception distance place).place.router.management = place.router.management := by
  obtain ⟨locations, links, generator, counters, frame⟩ := reception_frame distance place
  obtain ⟨_, sweep, sweepTicket, same⟩ := polled_frame place
  rw [frame, same]

theorem counters_poll (r : Router) (now : Instant) : (r.poll now).2.counters = r.counters := by
  obtain ⟨locations, sweep, sweepTicket, frame⟩ := r.poll_frame now
  rw [frame]

theorem counters_processed (r : Router) (adapter : Adapter) (packet : FramedPacket) :
    ∃ regenerated, r.counters.regenerated ≤ regenerated ∧
      (r.processed distance adapter packet).place.router.counters =
        { r.counters with regenerated }.book (r.processed distance adapter packet).outcome := by
  obtain ⟨locations, links, generator, regenerated, grown, decided⟩ :=
    r.decide_frame distance adapter.address adapter.time packet.headers
  refine ⟨regenerated, grown, ?_⟩
  rw [processed, concluded_frame, decided]

/-- A reception counts how the frame ended, and perhaps an address that is given up. -/
theorem counters_reception (place : Workplace) :
    ∃ regenerated, place.router.counters.regenerated ≤ regenerated ∧
      (reception distance place).place.router.counters =
        { place.router.counters with regenerated }.book (reception distance place).outcome := by
  have swept := place.router.counters_poll place.adapter.time
  have course := reception_course distance place
  generalize reception distance place = after at course ⊢
  cases course with
  | ignored other => exact ⟨_, Nat.le_refl _, rfl⟩
  | @unreadable reason =>
    refine ⟨_, Nat.le_refl _, ?_⟩
    exact congrArg (Counters.discard · (.ofWire reason)) swept
  | duplicate sweep =>
    subst sweep
    refine ⟨_, Nat.le_refl _, ?_⟩
    exact congrArg (Counters.discard · .duplicate) swept
  | fresh sweep =>
    subst sweep
    -- Detection, which comes before the decision, does not count.
    obtain ⟨regenerated, grown, counted⟩ := counters_processed distance
      { (place.router.poll place.adapter.time).2 with
        locations := (place.router.poll place.adapter.time).2.locations.restamp
          place.buffer.packet.headers }
      place.adapter place.buffer.packet
    refine ⟨regenerated, swept ▸ grown, counted.trans ?_⟩
    exact congrArg (fun counters : Counters => Counters.book { counters with regenerated } _) swept

theorem packet_of_delivered {r : Router} {adapter : Adapter} {packet out : FramedPacket}
    {verdict : Verdict}
    (delivered : (r.concluded adapter packet verdict).outcome = .delivered out) :
    packet = out := by
  cases verdict with
  | deliver => exact Outcome.delivered.inj delivered
  | drop cause => cases delivered
  | forward nextHop =>
    simp only [concluded, passedOn] at delivered
    split at delivered <;> cases delivered

/-- A packet is delivered as it came, with all of its payload in the buffer. -/
theorem payload_of_delivered {place : Workplace} {packet : FramedPacket}
    (delivered : (reception distance place).outcome = .delivered packet) :
    place.buffer.packet = packet ∧ ∃ payload, packet.payload = .ok payload := by
  have course := reception_course distance place
  generalize reception distance place = after at course delivered
  cases course with
  | ignored => cases delivered
  | unreadable => cases delivered
  | duplicate => cases delivered
  | fresh sweep admitted clear fresh =>
    obtain rfl := packet_of_delivered delivered
    exact ⟨rfl, _, Packet.payload_eq clear⟩

end Total
end Router
end GeoRouter
