import GeoRouter.Proofs.Memo
import GeoRouter.Proofs.Turns

/-!
# What a payload can reach

Two frames with the same headers, both with room for the payload that these announce, are the same
to the router: it is left in the same state by both and answers both alike, so that nothing but the
handler ever learns what the payload is or what stands behind it.
-/

namespace GeoRouter

/-! ### Octets in front -/

namespace Bytes

variable {b c : Bytes} {n : Nat} (same : b.take n = c.take n)
include same

theorem octetAt_congr {i : Nat} (inside : i < n) : b.octetAt i = c.octetAt i := by
  rw [← octetAt_take inside, same, octetAt_take inside]

theorem number_congr {start size : Nat} (inside : start + size ≤ n) :
    b.number start size = c.number start size := by
  rw [← number_take inside, same, number_take inside]

theorem take_congr {m : Nat} (inside : m ≤ n) : b.take m = c.take m := by
  rw [← Nat.min_eq_left inside, ← List.take_take, same, List.take_take]

theorem le_length_congr {m : Nat} (inside : m ≤ n) : m ≤ b.length ↔ m ≤ c.length := by
  have width := congrArg List.length same
  rw [List.length_take, List.length_take] at width
  omega

end Bytes

theorem Admitted.congr {own : Mac} {b c : Bytes} {n : Nat} (front : 14 ≤ n)
    (same : b.take n = c.take n) : Admitted own b ↔ Admitted own c := by
  have destination : b.take 6 = c.take 6 := Bytes.take_congr same (Nat.le_trans (by decide) front)
  have protocol : b.number 12 2 = c.number 12 2 := Bytes.number_congr same front
  have long : 14 ≤ b.length ↔ 14 ≤ c.length := Bytes.le_length_congr same front
  constructor
  · rintro ⟨enough, ours, carried⟩
    exact ⟨long.mp enough, destination ▸ ours, protocol ▸ carried⟩
  · rintro ⟨enough, ours, carried⟩
    exact ⟨long.mpr enough, destination ▸ ours, protocol ▸ carried⟩

theorem FrameHeader.inOctets_congr {b c : Bytes} {n : Nat} (front : size ≤ n)
    (same : b.take n = c.take n) : inOctets b = inOctets c := by
  simp only [size] at front
  have protocol : b.number 12 2 = c.number 12 2 := Bytes.number_congr same front
  have octet (i : Nat) (inside : i < 14) : b.octetAt i = c.octetAt i :=
    Bytes.octetAt_congr same (Nat.lt_of_lt_of_le inside front)
  simp (disch := decide) only [inOctets, Mac.inOctets, octet, protocol]

/-- Of octets that are long enough, the checks look at the headers alone. -/
theorem Headers.objection?_of_enough {b : Bytes} (enough : 60 + b.number 8 2 ≤ b.length) :
    objection? b = match (FixedHeader.inOctets b).kind? with
      | none => some .unrecognized
      | some _ => refusal? (FixedHeader.inOctets b) := by
  have length : (FixedHeader.inOctets b).payloadLength.toNat = b.number 8 2 :=
    toNat_payloadLength b
  have fixed : ¬ b.length < FixedHeader.size := by
    simp only [FixedHeader.size]
    omega
  have whole : ¬ b.length < size + (FixedHeader.inOctets b).payloadLength.toNat := by
    rw [length]
    exact Nat.not_lt.mpr enough
  unfold objection?
  rw [if_neg fixed]
  cases (FixedHeader.inOctets b).kind? with
  | none => rfl
  | some kind => exact if_neg whole

/-! ### Frames with the same headers -/

/-- The first 74 octets are the same in both frames, and both have room for the payload that is
announced there. What the payloads are and what follows them is open. -/
structure Buffer.SameHeaders (a b : Buffer) : Prop where
  front : a.bytes.take 74 = b.bytes.take 74
  whole : 74 + a.bytes.number 22 2 ≤ a.bytes.length
  wholeToo : 74 + b.bytes.number 22 2 ≤ b.bytes.length

namespace Buffer.SameHeaders

variable {a b : Buffer} (same : a.SameHeaders b)
include same

theorem admitted_iff {own : Mac} : Admitted own a.bytes ↔ Admitted own b.bytes :=
  Admitted.congr (by decide) same.front

theorem header_eq : a.packet.inner.header = b.packet.inner.header :=
  FrameHeader.inOctets_congr (by decide) same.front

theorem headers_eq : a.packet.headers = b.packet.headers :=
  Headers.inOctets_drop_congr same.front

theorem objection?_eq : Headers.objection? (a.bytes.drop FrameHeader.size) =
    Headers.objection? (b.bytes.drop FrameHeader.size) := by
  have enough {c : Buffer} (whole : 74 + c.bytes.number 22 2 ≤ c.bytes.length) :
      60 + Bytes.number (c.bytes.drop FrameHeader.size) 8 2 ≤
        (c.bytes.drop FrameHeader.size).length := by
    have announced : Bytes.number (c.bytes.drop FrameHeader.size) 8 2 = c.bytes.number 22 2 :=
      Bytes.number_drop ..
    rw [announced, List.length_drop, FrameHeader.size]
    omega
  have fixed : FixedHeader.inOctets (a.bytes.drop FrameHeader.size) =
      FixedHeader.inOctets (b.bytes.drop FrameHeader.size) := by
    have inFront (c : Buffer) : FixedHeader.inOctets (c.bytes.drop FrameHeader.size) =
        FixedHeader.inOctets ((c.bytes.take 74).drop FrameHeader.size) := by
      rw [List.drop_take, FixedHeader.inOctets_take (by decide)]
    rw [inFront a, inFront b, same.front]
  rw [Headers.objection?_of_enough (enough same.whole),
    Headers.objection?_of_enough (enough same.wholeToo), fixed]

end Buffer.SameHeaders

/-! ### Outcomes that tell the same -/

/-- The outcomes are told apart at most by what was delivered behind the headers. -/
inductive Outcome.Alike : Outcome → Outcome → Prop where
  | ignored : Alike .ignored .ignored
  | delivered {one two : FramedPacket} (frame : one.inner.header = two.inner.header)
    (headers : one.headers = two.headers) : Alike (.delivered one) (.delivered two)
  | forwarded (nextHop : Mac) : Alike (.forwarded nextHop) (.forwarded nextHop)
  | discarded (cause : Cause) : Alike (.discarded cause) (.discarded cause)

/-- Router and adapter are the same behind both, and the outcomes are alike. -/
structure Reception.Alike (one two : Reception) : Prop where
  router : one.place.router = two.place.router
  adapter : one.place.adapter = two.place.adapter
  outcome : one.outcome.Alike two.outcome

namespace Router

/-- What is done after the decision tells nothing of the buffer but in the buffer. -/
theorem concluded_alike (r : Router) (adapter : Adapter) {one two : FramedPacket}
    (frame : one.inner.header = two.inner.header) (headers : one.headers = two.headers)
    (verdict : Verdict) :
    (r.concluded adapter one verdict).Alike (r.concluded adapter two verdict) := by
  cases verdict with
  | deliver => exact ⟨rfl, rfl, .delivered frame headers⟩
  | drop cause => exact ⟨rfl, rfl, .discarded cause⟩
  | forward nextHop =>
    simp only [concluded, passedOn, headers]
    split
    · exact ⟨rfl, rfl, .discarded .queue⟩
    · exact ⟨rfl, rfl, .forwarded nextHop⟩

section Reception

variable {D : Type} [LT D] [LE D] [DecidableLT D] [DecidableLE D] (distance : Point → Point → D)

theorem answered_alike (r : Router) (adapter : Adapter) {a b : Buffer} (same : a.SameHeaders b) :
    (r.answered distance adapter a).Alike (r.answered distance adapter b) := by
  have headers := same.headers_eq
  have checks := same.objection?_eq
  cases objection : Headers.objection? (b.bytes.drop FrameHeader.size) with
  | some reason =>
    rw [answered_of_objection distance r adapter objection,
      answered_of_objection distance r adapter (checks.trans objection)]
    exact ⟨rfl, rfl, .discarded (.ofWire reason)⟩
  | none =>
    have clear := checks.trans objection
    cases known : r.locations.knows b.packet.headers.origin b.packet.headers.stamp with
    | true =>
      rw [answered_of_known distance r adapter objection known,
        answered_of_known distance r adapter clear (by rw [headers]; exact known)]
      exact ⟨rfl, rfl, .discarded .duplicate⟩
    | false =>
      rw [answered_of_fresh distance r adapter objection known,
        answered_of_fresh distance r adapter clear (by rw [headers]; exact known)]
      unfold processed
      rw [headers]
      exact concluded_alike _ _ same.header_eq headers _

theorem reception_alike (r : Router) (adapter : Adapter) {a b : Buffer} (same : a.SameHeaders b) :
    (reception distance ⟨r, adapter, a⟩).Alike (reception distance ⟨r, adapter, b⟩) := by
  unfold reception
  by_cases admitted : Admitted adapter.address b.bytes
  · rw [if_pos admitted, if_pos (same.admitted_iff.mpr admitted)]
    exact answered_alike distance _ adapter same
  · rw [if_neg admitted, if_neg (mt same.admitted_iff.mp admitted)]
    exact ⟨rfl, rfl, .ignored⟩

end Reception
end Router

section Turns

variable {D : Type} [LT D] [LE D] [DecidableLT D] [DecidableLE D] (distance : Point → Point → D)

/-- A turn with a frame, under a handler that sends nothing, leaves the host as the turn with any
other frame with the same headers does, and has the same outcome up to what is delivered behind the
headers. -/
theorem Host.payload_never_influences (host : Host) (handle : Handle)
    {handler : FramedPacket → Conduct} (silent : ∀ packet, (handler packet).Silent)
    {a b : Buffer} (same : a.bytes.take 74 = b.bytes.take 74)
    (wholeA : 74 + a.bytes.number 22 2 ≤ a.bytes.length)
    (wholeB : 74 + b.bytes.number 22 2 ≤ b.bytes.length) :
    ∃ first second, host.turn distance (.receive handle a handler) = .ok first ∧
      host.turn distance (.receive handle b handler) = .ok second ∧
      first.after = second.after ∧ first.outcome.Alike second.outcome := by
  refine ⟨_, _, host.turn_silent distance handle a silent,
    host.turn_silent distance handle b silent, ?_, ?_⟩
  all_goals
    obtain ⟨router, adapter, outcome⟩ := Router.reception_alike distance host.router
      ⟨host.address, handle⟩ ⟨same, wholeA, wholeB⟩
  · unfold ofWorkplace
    rw [Host.mk.injEq]
    exact ⟨router, congrArg Adapter.address adapter⟩
  · exact outcome

end Turns

/-- The handler keeps what was delivered in its buffer, which is another payload each time. -/
theorem Host.payload_never_influences_of_delivered :
    let own : Mac := ⟨2, 0, 0, 0, 0, 1⟩
    let link : Link := { address := Address.zero.withMid (.ofMac own) }
    let host : Host := ⟨{ locations := .ofCapacity 1, links := ⟨⟨[link], []⟩⟩ }, own⟩
    let headers : Headers := {
      lifetime := ⟨0⟩
      remainingHops := 1
      next := .btpA
      trafficClass := {}
      mobile := false
      payloadLength := 2
      maxHops := 1
      extended := {
        sequence := ⟨1⟩
        source := { address := Address.zero.withMid ⟨2⟩, timestamp := ⟨1⟩ }
        destination := { address := link.address } } }
    let frame (behind : Bytes) : Buffer := .ofAllocated
      (FrameHeader.encode ⟨.broadcast, own, .geoNetworking⟩ ++ headers.encode ++ behind)
    let handler (packet : FramedPacket) : Conduct :=
      .write (.ofAllocated (packet.payload.toOption.getD [])) .done
    (∀ packet, (handler packet).Silent) ∧
      (frame [1, 2]).bytes.take 74 = (frame [3, 4, 5]).bytes.take 74 ∧
      74 + (frame [1, 2]).bytes.number 22 2 ≤ (frame [1, 2]).bytes.length ∧
      74 + (frame [3, 4, 5]).bytes.number 22 2 ≤ (frame [3, 4, 5]).bytes.length ∧
      ∃ first second,
        host.turn (fun _ _ => (0 : Nat)) (.receive (.ofTime ⟨0⟩) (frame [1, 2]) handler) =
          .ok first ∧
        host.turn (fun _ _ => (0 : Nat)) (.receive (.ofTime ⟨0⟩) (frame [3, 4, 5]) handler) =
          .ok second ∧
        first.after = second.after ∧ first.outcome.Alike second.outcome := by
  intro own link host headers frame handler
  have silent : ∀ packet, (handler packet).Silent := by
    intro packet
    exact .write _ .done
  have same : (frame [1, 2]).bytes.take 74 = (frame [3, 4, 5]).bytes.take 74 := by
    decide +kernel
  have wholeA : 74 + (frame [1, 2]).bytes.number 22 2 ≤ (frame [1, 2]).bytes.length := by
    decide +kernel
  have wholeB : 74 + (frame [3, 4, 5]).bytes.number 22 2 ≤ (frame [3, 4, 5]).bytes.length := by
    decide +kernel
  exact ⟨silent, same, wholeA, wholeB,
    host.payload_never_influences (fun _ _ => (0 : Nat)) (.ofTime ⟨0⟩) silent same wholeA wholeB⟩

end GeoRouter
