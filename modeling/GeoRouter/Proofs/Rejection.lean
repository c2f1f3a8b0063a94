import GeoRouter.Proofs.AtMostOnce

/-!
# Rejected packets leave no trace

A packet that can not be read, or that is not newer than what its source is known by, is dropped
before anything is decided on it. What remains of it is `Router.rejecting`: the sweep that comes with
every packet, and the cause in the counters. Each packet that was taken is rejected when it comes
again, for its own stamp stands in the entry of its source.
-/

namespace GeoRouter

/-- The causes for which a packet is dropped before anything is decided on it. -/
def Cause.isRejection : Cause → Bool
  | .truncated | .unrecognized | .unsupported | .malformed | .duplicate => true
  | _ => false

theorem Cause.isRejection_of_followsLearning {cause : Cause}
    (follows : cause.followsLearning = true) : cause.isRejection = false := by
  cases cause <;> first | rfl | cases follows

theorem clear_of_heard {own : Mac} {buffer : Buffer} {h : Headers}
    (heard : heard? own buffer = some h) :
    Headers.objection? (buffer.bytes.drop FrameHeader.size) = none ∧
      h = buffer.packet.headers := by
  unfold heard? at heard
  split at heard
  · split at heard
    · rename_i parsed
      obtain rfl := Option.some.inj heard
      exact Headers.parse_ok_iff.mp parsed
    · cases heard
  · cases heard

theorem admitted_of_heard {own : Mac} {buffer : Buffer} {h : Headers}
    (heard : heard? own buffer = some h) : Admitted own buffer.bytes := by
  unfold heard? at heard
  split at heard
  · rename_i admitted
    exact admitted
  · cases heard

namespace Router

/-- A router that has swept and counted a cause, and is otherwise the same. -/
def rejecting (r : Router) (now : Instant) (cause : Cause) : Router :=
  { r with
    locations := (r.poll now).2.locations
    sweep := (r.poll now).2.sweep
    sweepTicket := (r.poll now).2.sweepTicket
    counters := r.counters.discard cause }

theorem dropped_poll (r : Router) (adapter : Adapter) (buffer : Buffer) (cause : Cause) :
    (r.poll adapter.time).2.dropped adapter buffer cause =
      ⟨⟨r.rejecting adapter.time cause, adapter, buffer⟩, .discarded cause⟩ := by
  obtain ⟨locations, sweep, sweepTicket, frame⟩ := r.poll_frame adapter.time
  simp only [dropped, discard, rejecting, frame]

section Rejection

variable {D : Type} [LT D] [LE D] [DecidableLT D] [DecidableLE D] (distance : Point → Point → D)

/-- Once a decision is made it is too late for a rejection. -/
theorem isRejection_of_processed {r : Router} {adapter : Adapter} {packet : FramedPacket}
    {cause : Cause}
    (dropped : (r.processed distance adapter packet).outcome = .discarded cause) :
    cause.isRejection = false := by
  have causes := locations_decide distance r adapter.address adapter.time packet.headers
  rw [processed] at dropped
  cases decided : (r.decide distance adapter.address adapter.time packet.headers).1 with
  | deliver =>
    simp only [decided] at dropped
    cases dropped
  | forward nextHop =>
    simp only [decided, concluded, passedOn] at dropped
    split at dropped
    · obtain rfl := Outcome.discarded.inj dropped
      rfl
    · cases dropped
  | drop reason =>
    simp only [decided] at dropped
    obtain rfl := Outcome.discarded.inj dropped
    rcases causes with ⟨-, -, follows⟩ | ⟨-, own⟩ | ⟨-, -, crowded⟩
    · exact Cause.isRejection_of_followsLearning (follows _ decided)
    · rw [decided] at own
      obtain rfl := Verdict.drop.inj own
      rfl
    · rw [decided] at crowded
      obtain rfl := Verdict.drop.inj crowded
      rfl

theorem place_of_rejected {place : Workplace} {cause : Cause}
    (ended : (reception distance place).outcome = .discarded cause)
    (rejected : cause.isRejection = true) :
    (reception distance place).place =
      { place with router := place.router.rejecting place.adapter.time cause } := by
  have course := reception_course distance place
  generalize reception distance place = after at course ended ⊢
  cases course with
  | ignored => cases ended
  | unreadable =>
    obtain rfl := Outcome.discarded.inj ended
    rw [dropped_poll]
  | duplicate sweep =>
    subst sweep
    obtain rfl := Outcome.discarded.inj ended
    rw [dropped_poll]
  | fresh =>
    rw [isRejection_of_processed distance ended] at rejected
    cases rejected

theorem outcome_of_objection {place : Workplace} {reason : WireError}
    (admitted : Admitted place.adapter.address place.buffer.bytes)
    (objection : Headers.objection? (place.buffer.bytes.drop FrameHeader.size) = some reason) :
    (reception distance place).outcome = .discarded (.ofWire reason) := by
  rw [reception, if_pos admitted, answered_of_objection distance _ _ objection]
  rfl

theorem outcome_of_repeated {place : Workplace} {entry : Entry}
    (admitted : Admitted place.adapter.address place.buffer.bytes)
    (clear : Headers.objection? (place.buffer.bytes.drop FrameHeader.size) = none)
    (found : (place.router.poll place.adapter.time).2.locations.find?
      place.buffer.packet.headers.origin = some entry)
    (stamp : entry.stamp = place.buffer.packet.headers.stamp) :
    (reception distance place).outcome = .discarded .duplicate := by
  have known : (place.router.poll place.adapter.time).2.locations.knows
      place.buffer.packet.headers.origin place.buffer.packet.headers.stamp = true :=
    LocationTable.knows_of_stored found stamp
  rw [reception, if_pos admitted, answered_of_known distance _ _ clear known]
  rfl

end Rejection
end Router

namespace Host

section Hosts

variable {D : Type} [LT D] [LE D] [DecidableLT D] [DecidableLE D] (distance : Point → Point → D)

/-- A frame that is dropped because it can not be read or is a duplicate changes no more than the
sweep and the counters do: the handler has no part in it, whatever it is, and handle, buffer and
address are as they were. Octets that were taken before are such a duplicate, whenever and wherever
they come again, if their source has the entry that they left. -/
theorem rejected_leaves_no_trace (host : Host) (handle : Handle) (buffer : Buffer) :
    ∃ after, Router.receive distance (host.workplace handle buffer) = .ok after ∧
      (∀ reason, Admitted host.address buffer.bytes →
        Headers.parse (buffer.bytes.drop FrameHeader.size) = .ok (.error reason) →
        after.outcome = .discarded (.ofWire reason)) ∧
      (∀ cause, after.outcome = .discarded cause → cause.isRejection = true →
        ∀ handler, (take distance handler handle buffer).run host =
          .ok ((handle, buffer), { host with router := host.router.rejecting handle.time cause })) ∧
      (after.outcome.isTaken = true → ∃ h, heard? host.address buffer = some h ∧
        ∀ again : Workplace, again.buffer.bytes = buffer.bytes →
          Admitted again.adapter.address again.buffer.bytes →
          (again.router.poll again.adapter.time).2.locations.find? h.origin =
            after.place.router.locations.find? h.origin →
          ∃ second, Router.receive distance again = .ok second ∧
            second.outcome = .discarded .duplicate) := by
  refine ⟨_, Router.receive_eq distance _, ?_, ?_, ?_⟩
  · intro reason admitted refused
    exact Router.outcome_of_objection distance admitted (Headers.parse_error_iff.mp refused)
  · intro cause ended rejected handler
    have kept := Router.place_of_rejected distance ended rejected
    have unheard : handOver handler (Router.reception distance (host.workplace handle buffer)) =
        .ok (Router.reception distance (host.workplace handle buffer)).place := by
      unfold handOver
      rw [ended]
    rw [take_run, unheard, kept]
    rfl
  · intro taken
    obtain ⟨h, entry, heard, stamp, present⟩ := Router.entry_of_taken distance _ taken
    obtain ⟨clear, rfl⟩ := clear_of_heard heard
    refine ⟨_, heard, fun again same admitted unchanged => ?_⟩
    have headers : again.buffer.packet.headers = buffer.packet.headers := by
      unfold Buffer.packet
      rw [same]
    have found : (again.router.poll again.adapter.time).2.locations.find?
        again.buffer.packet.headers.origin = some entry := by
      rw [headers]
      exact unchanged.trans present
    refine ⟨_, Router.receive_eq distance again, ?_⟩
    refine Router.outcome_of_repeated distance admitted ?_ found ?_
    · rw [same]
      exact clear
    · rw [headers]
      exact stamp

end Hosts

/-- A frame that ends with its Ethernet header, and a packet that comes again after the sweep. -/
theorem rejected_leaves_no_trace_of_replay :
    let own : Mac := ⟨2, 0, 0, 0, 0, 1⟩
    let source : Mid := ⟨2⟩
    let link : Link := { address := Address.zero.withMid (.ofMac own) }
    let host : Host := ⟨{ locations := .ofCapacity 1, links := ⟨⟨[link], []⟩⟩ }, own⟩
    let handle : Handle := .ofTime ⟨0⟩
    let short : Buffer := .ofAllocated (FrameHeader.encode ⟨source.mac, own, .geoNetworking⟩)
    let whole := emptyFrame own source ⟨⟨7⟩, ⟨1⟩⟩
    (∀ handler, (take (fun _ _ => (0 : Nat)) handler handle short).run host =
      .ok ((handle, short), { host with router := host.router.rejecting ⟨0⟩ .truncated })) ∧
    ∃ first, Router.receive (fun _ _ => (0 : Nat)) (host.workplace handle whole) = .ok first ∧
      first.outcome.isTaken = true ∧
      ∃ second, Router.receive (fun _ _ => (0 : Nat))
          ⟨first.place.router, ⟨own, .ofTime ⟨1500⟩⟩, whole⟩ = .ok second ∧
        second.outcome = .discarded .duplicate := by
  intro own source link host handle short whole
  obtain ⟨cut, -, unreadable, untouched, -⟩ :=
    rejected_leaves_no_trace (fun _ _ => (0 : Nat)) host handle short
  obtain ⟨first, received, -, -, repeated⟩ :=
    rejected_leaves_no_trace (fun _ _ => (0 : Nat)) host handle whole
  have told : first = Router.reception (fun _ _ => (0 : Nat)) (host.workplace handle whole) :=
    Except.ok.inj (received.symm.trans (Router.receive_eq _ _))
  have taken : first.outcome.isTaken = true := by
    rw [told]
    decide +kernel
  obtain ⟨h, heard, again⟩ := repeated taken
  obtain ⟨-, rfl⟩ := clear_of_heard heard
  refine ⟨untouched .truncated (unreadable .truncated (by decide) rfl) rfl, first,
    received, taken, again _ rfl ?_ ?_⟩
  · show Admitted own whole.bytes
    decide
  · rw [told]
    decide +kernel

end Host
end GeoRouter
