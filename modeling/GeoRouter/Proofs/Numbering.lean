import GeoRouter.Proofs.Run

/-!
# The numbers of a sender

What a sender puts into its packets is what a duplicate detector tells them apart by. The generator
of numbers skips zero and both clocks start again, so that the way from one packet to a later one is
measured modulo the range; while it is at most half of that, the detector sees the later packet as
the newer one.
-/

namespace GeoRouter

/-! ### Ways around the end -/

namespace SequenceNumber

def later (sn : SequenceNumber) : Nat → SequenceNumber
  | 0 => sn
  | n + 1 => sn.next.later n

theorem later_succ (sn : SequenceNumber) (n : Nat) : sn.later (n + 1) = (sn.later n).next := by
  induction n generalizing sn with
  | zero => rfl
  | succ n ih => exact ih sn.next

theorem later_add (sn : SequenceNumber) (m n : Nat) :
    sn.later (m + n) = (sn.later m).later n := by
  induction m generalizing sn with
  | zero => rw [Nat.zero_add]; rfl
  | succ m ih => rw [Nat.succ_add]; exact ih sn.next

theorem toNat_le (sn : SequenceNumber) : sn.val.toNat ≤ 0xffff := Wraparound.toNat_le sn.val

theorem toNat_next (sn : SequenceNumber) :
    sn.next.val.toNat = if sn.val.toNat = 0xffff then 1 else sn.val.toNat + 1 := by
  have top : sn.val = BitVec.allOnes 16 ↔ sn.val.toNat = 0xffff :=
    ⟨fun last => congrArg BitVec.toNat last, fun last => BitVec.eq_of_toNat_eq last⟩
  unfold next
  split
  · rename_i full
    rw [if_pos (top.mp full)]
    rfl
  · rename_i free
    have differ := mt top.mpr free
    have bound := sn.toNat_le
    rw [if_neg differ]
    exact (BitVec.toNat_add ..).trans (Nat.mod_eq_of_lt (show sn.val.toNat + 1 < 0x10000 by omega))

/-- The number after `n` packets, which is one larger once zero was skipped. -/
theorem toNat_later (sn : SequenceNumber) {n : Nat} (few : n ≤ 0xffff) :
    (sn.later n).val.toNat =
      if sn.val.toNat + n ≤ 0xffff then sn.val.toNat + n else sn.val.toNat + n - 0xffff := by
  induction n with
  | zero =>
    rw [Nat.add_zero, if_pos sn.toNat_le]
    rfl
  | succ n ih =>
    have bound := sn.toNat_le
    -- So few steps pass the end at most once.
    rw [later_succ, toNat_next, ih (by omega)]
    split <;> split <;> split <;> omega

theorem offset_later (sn : SequenceNumber) {n : Nat} (some : 0 < n) (few : n ≤ 32766) :
    0 < ((sn.later n).val - sn.val).toNat ∧
      ((sn.later n).val - sn.val).toNat < 0x8000 := by
  have later := sn.toNat_later (Nat.le_trans few (by decide))
  have last : (BitVec.allOnes 16).toNat = 0xffff := rfl
  have bound := sn.toNat_le
  rcases Wraparound.toNat_sub_cases (sn.later n).val sn.val with
    ⟨order, way⟩ | ⟨order, way⟩ <;> split at later <;> omega

end SequenceNumber

namespace Timestamp

theorem offset_ofUnixMillis {m n : Nat} (order : m ≤ n) (near : n - m < 0x100000000) :
    ((ofUnixMillis n).val - (ofUnixMillis m).val).toNat = n - m := by
  have way : (n : Int) - epoch = (n - m : Nat) + ((m : Int) - epoch) := by omega
  rw [ofUnixMillis, ofUnixMillis, way, BitVec.ofInt_add, BitVec.add_sub_cancel,
    BitVec.ofInt_natCast]
  exact Nat.mod_eq_of_lt near

end Timestamp

namespace Stamp

def windowTo (a b : Stamp) : Window :=
  ⟨a.timestamp, fun t => if t = a.timestamp then a.sequence else b.sequence⟩

/-- The later of two stamps is the newer one and the earlier is not, if the way between their
timestamps is at most half the range and so is, for equal ones, the way between their numbers. -/
theorem newer_of_offset {a b : Stamp}
    (time : (b.timestamp.val - a.timestamp.val).toNat < 0x80000000)
    (number : b.timestamp = a.timestamp → 0 < (b.sequence.val - a.sequence.val).toNat ∧
      (b.sequence.val - a.sequence.val).toNat < 0x8000) :
    b.newer a = true ∧ a.newer b = false := by
  have start : (a.windowTo b).place a = (0, 0) := by
    simp [Window.place, windowTo]
  have first : (a.windowTo b).Holds a := by
    unfold Window.Holds
    rw [start]
    decide
  have later : (a.windowTo b).Holds b ∧ (a.windowTo b).Before a b := by
    unfold Window.Holds
    rw [Window.Before, start]
    by_cases equal : b.timestamp = a.timestamp
    · have stop : (a.windowTo b).place b = (0, (b.sequence.val - a.sequence.val).toNat) := by
        simp [Window.place, windowTo, equal]
      obtain ⟨some, few⟩ := number equal
      rw [stop]
      exact ⟨⟨Nat.zero_lt_succ _, few⟩, .inr ⟨rfl, some⟩⟩
    · have stop : (a.windowTo b).place b = ((b.timestamp.val - a.timestamp.val).toNat, 0) := by
        simp [Window.place, windowTo, equal]
      have apart : (b.timestamp.val - a.timestamp.val).toNat ≠ 0 := by
        intro none
        have same := BitVec.sub_eq_iff_eq_add.mp (BitVec.eq_of_toNat_eq (y := 0) none)
        exact equal (congrArg Timestamp.mk (same.trans (BitVec.zero_add _)))
      rw [stop]
      exact ⟨⟨time, Nat.zero_lt_succ _⟩, .inl (Nat.pos_of_ne_zero apart)⟩
  obtain ⟨second, before⟩ := later
  refine ⟨(Window.newer_iff_before second first).mpr before, Bool.eq_false_iff.mpr fun newer => ?_⟩
  exact Window.Before.ne (before.trans ((Window.newer_iff_before first second).mp newer)) rfl

end Stamp

/-! ### Reading back what was laid out -/

namespace Headers

variable (h : Headers) (tail : Bytes)

theorem stamp_encode : (inOctets (h.encode ++ tail)).stamp = h.stamp := by
  rw [inOctets_encode]
  rfl

theorem origin_encode : (inOctets (h.encode ++ tail)).origin = h.origin := by
  rw [inOctets_encode]
  rfl

end Headers

theorem LocationTable.detectPacket?_encode (table : LocationTable) (h : Headers) (tail : Bytes) :
    ∃ after, table.detectPacket? (h.encode ++ tail) = .ok (some
      (if table.knows h.origin h.stamp then (.duplicate, table) else (.fresh, after))) := by
  have long : Headers.size ≤ (h.encode ++ tail).length := by
    rw [List.length_append, Headers.length_encode]
    exact Nat.le_add_right ..
  have detected := table.detectPacket?_of_registered long (h.registered_encode tail)
  rw [Headers.stamp_encode, Headers.origin_encode] at detected
  exact ⟨_, detected⟩

/-! ### The packets of a sender -/

/-- A packet that a router laid out, and when it did, in milliseconds since the Unix epoch. -/
structure Issued where
  time : Nat
  packet : FramedPacket

namespace Issued

def source (a : Issued) : Address := a.packet.headers.extended.source.address

def stamp (a : Issued) : Stamp := a.packet.headers.stamp

/-- The octets of the packet with a payload filled in. -/
def octets (a : Issued) (payload : Bytes) : Except Fault Bytes := do
  (← a.packet.fill payload).whole

/-- The packet bears its time and a number, and goes out with its headers in front of whatever
payload of the right length is filled in. -/
structure Bears (a : Issued) (number : SequenceNumber) : Prop where
  stamp : a.stamp = ⟨.ofUnixMillis a.time, number⟩
  octets : ∀ payload : Bytes, payload.length = a.packet.headers.payloadLength.toNat →
    a.octets payload = .ok (a.packet.headers.encode ++ payload)

end Issued

section Sender

variable {D : Type} [LT D] [LE D] [DecidableLT D] [DecidableLE D] (distance : Point → Point → D)

/-- The packets that a router lays out one after the other, from a number on. In between, anything
may become of it that takes no number. -/
inductive Issues : SequenceNumber → List Issued → Prop where
  | done {number : SequenceNumber} : Issues number []
  | next {r after : Router} {time : Nat} {request : Request} {mac : Mac} {buffer : Buffer}
    {packet : FramedPacket} {rest : List Issued} (clock : r.management.time = some time)
    (prepared : r.prepare distance request mac buffer = .ok (.ok (after, packet)))
    (later : Issues after.sequence rest) : Issues r.sequence (⟨time, packet⟩ :: rest)

variable {distance}

theorem Router.time_of_prepare {r after : Router} {request : Request} {mac : Mac} {buffer : Buffer}
    {packet : FramedPacket}
    (prepared : r.prepare distance request mac buffer = .ok (.ok (after, packet))) :
    ∃ time, r.management.time = some time := by
  obtain ⟨h, made, -, -⟩ := prepare_ok distance prepared
  have known := (makes_of_headersFor distance made).clock
  obtain ⟨time, clock, -⟩ := Option.map_eq_some_iff.mp known
  obtain ⟨milliseconds, clock, -⟩ := Option.bind_eq_some_iff.mp clock
  exact ⟨milliseconds, clock⟩

theorem Router.bears_of_prepare {r after : Router} {time : Nat} {request : Request} {mac : Mac}
    {buffer : Buffer} {packet : FramedPacket} (clock : r.management.time = some time)
    (prepared : r.prepare distance request mac buffer = .ok (.ok (after, packet))) :
    (Issued.mk time packet).Bears r.sequence := by
  obtain ⟨h, made, -, rfl⟩ := prepare_ok distance prepared
  constructor
  · have number := (makes_of_headersFor distance made).sequence
    have known := (makes_of_headersFor distance made).clock
    unfold Management.timestamp at known
    rw [clock] at known
    have timestamp : Timestamp.ofUnixMillis time = h.extended.source.timestamp :=
      Option.some.inj known
    rw [timestamp, ← number]
    rfl
  · intro payload size
    have announced := buffer.length_remnant h
    simp only [Issued.octets, bind, Except.bind,
      Packet.fill_laid buffer h.framing h announced (size.trans announced.symm)]
    exact Packet.whole_laid buffer h.framing h payload

/-- Each packet bears the number that is as many after the first one as the packet is. -/
theorem Issues.bears {number : SequenceNumber} {run : List Issued}
    (issues : Issues distance number run) {n : Nat} {a : Issued} (found : run[n]? = some a) :
    a.Bears (number.later n) := by
  induction issues generalizing n with
  | done => cases found
  | next clock prepared later ih =>
    cases n with
    | zero =>
      obtain rfl := Option.some.inj found
      exact Router.bears_of_prepare clock prepared
    | succ n =>
      obtain ⟨-, -, taken, -⟩ := Router.prepare_ok distance prepared
      have bears := ih found
      rwa [taken] at bears

/-- Of two packets that are near enough to each other, the later one is newer and the earlier is
not. -/
theorem Issues.newer {number : SequenceNumber} {run : List Issued}
    (issues : Issues distance number run) {i j : Nat} {a b : Issued} (first : run[i]? = some a)
    (second : run[j]? = some b) (order : i < j) (past : a.time ≤ b.time)
    (near : b.time - a.time ≤ 0x7fffffff) (few : a.time = b.time → j - i ≤ 32766) :
    b.stamp.newer a.stamp = true ∧ a.stamp.newer b.stamp = false := by
  have earlier := (issues.bears first).stamp
  have later := (issues.bears second).stamp
  have way := Timestamp.offset_ofUnixMillis past (by omega)
  apply Stamp.newer_of_offset
  · rw [earlier, later, way]
    omega
  · intro same
    rw [earlier, later] at same ⊢
    have clocks : Timestamp.ofUnixMillis b.time = .ofUnixMillis a.time := same
    have equal : a.time = b.time := by
      rw [clocks, BitVec.sub_self, BitVec.toNat_zero] at way
      omega
    have split : j = i + (j - i) := by omega
    rw [split, SequenceNumber.later_add]
    exact (number.later i).offset_later (by omega) (few equal)

end Sender

/-! ### The packets of a run -/

section Run

variable {D : Type} [LT D] [LE D] [DecidableLT D] [DecidableLE D] (distance : Point → Point → D)

def Moment.issued? (moment : Moment) : Option Issued :=
  match moment.event with
  | .originate _ request payload buffer =>
    match moment.before.router.management.time, moment.before.router.prepare distance
      { request with payload := payload.length } moment.before.address buffer with
    | some time, .ok (.ok (_, packet)) => some ⟨time, packet⟩
    | _, _ => none
  | _ => none

/-- An event takes the number of the packet that it lays out, or none. -/
theorem Moment.issues_cons {moment : Moment} (follows : moment.Follows distance)
    {rest : List Issued} (later : Issues distance moment.after.router.sequence rest) :
    Issues distance moment.before.router.sequence ((moment.issued? distance).toList ++ rest) := by
  obtain ⟨before, event, report, after⟩ := moment
  cases event with
  | originate handle request payload buffer =>
    obtain ⟨answer, place, sequence, sent, -⟩ := before.router.originate_frame distance
      { request with payload := payload.length } ⟨before.address, handle⟩ payload buffer rfl
    unfold Follows at follows
    rw [Host.step, sent] at follows
    obtain ⟨-, rfl⟩ := Prod.mk.inj (Except.ok.inj follows)
    rcases Router.sequence_originate distance sent with
      ⟨next, packet, prepared, taken⟩ | ⟨⟨refusal, refused⟩, kept⟩
    · obtain ⟨time, clock⟩ := Router.time_of_prepare prepared
      have numbered : Issues distance next.sequence rest := by rwa [← taken]
      simp only [issued?, clock, prepared]
      exact .next clock prepared numbered
    · have unchanged : Issues distance before.router.sequence rest := by rwa [← kept]
      simp only [issued?, refused]
      cases before.router.management.time <;> exact unchanged
  | _ =>
    have kept := Host.sequence_step distance follows rfl
    rw [← kept]
    exact later

theorem Host.issues_of_run {host : Host} {events : List Event} {history : List Moment}
    (ran : host.run distance events = .ok history) :
    Issues distance host.router.sequence (history.filterMap (·.issued? distance)) := by
  induction events generalizing host history with
  | nil =>
    obtain rfl := Except.ok.inj ran
    exact .done
  | cons event rest ih =>
    obtain ⟨report, after, later, follows, went, rfl⟩ := run_cons distance ran
    have issues := Moment.issues_cons distance follows (ih went)
    rw [List.filterMap_cons]
    split <;> rename_i issued <;> rw [issued] at issues <;> exact issues

end Run

/-! ### Sender and detector -/

section Detector

variable {D : Type} [LT D] [LE D] [DecidableLT D] [DecidableLE D] {distance : Point → Point → D}

/-- A detector whose entry for a sender holds the stamp of one of its packets takes every later
packet for fresh and every earlier one for a duplicate, as long as less than half the range of
timestamps lies between them and, if no time does, less than half the range of numbers. -/
theorem detector_agrees_with_sender {number : SequenceNumber} {run : List Issued}
    (issues : Issues distance number run) {i j : Nat} {a b : Issued} (first : run[i]? = some a)
    (second : run[j]? = some b) (order : i < j) (same : a.source = b.source)
    (past : a.time ≤ b.time) (near : b.time - a.time ≤ 0x7fffffff)
    (few : a.time = b.time → j - i ≤ 32766) (table : LocationTable) {entry : Entry}
    (known : table.find? a.source.mid = some entry) :
    (entry.stamp = a.stamp → ∀ payload : Bytes,
      payload.length = b.packet.headers.payloadLength.toNat → ∃ octets after,
        b.octets payload = .ok octets ∧ table.detectPacket? octets = .ok (some (.fresh, after))) ∧
    (entry.stamp = b.stamp → ∀ payload : Bytes,
      payload.length = a.packet.headers.payloadLength.toNat → ∃ octets,
        a.octets payload = .ok octets ∧
          table.detectPacket? octets = .ok (some (.duplicate, table))) := by
  obtain ⟨newer, older⟩ := issues.newer first second order past near few
  constructor
  · intro held payload size
    have found : table.find? b.packet.headers.origin = some entry := by
      rw [← known, same]
      rfl
    have unknown : table.knows b.packet.headers.origin b.packet.headers.stamp = false := by
      rw [LocationTable.knows_of_found found, held]
      exact congrArg (!·) newer
    obtain ⟨after, detected⟩ := table.detectPacket?_encode b.packet.headers payload
    rw [unknown] at detected
    exact ⟨_, after, (issues.bears second).octets payload size, detected⟩
  · intro held payload size
    have found : table.find? a.packet.headers.origin = some entry := known
    have stale : table.knows a.packet.headers.origin a.packet.headers.stamp = true := by
      rw [LocationTable.knows_of_found found, held]
      exact congrArg (!·) older
    obtain ⟨_, detected⟩ := table.detectPacket?_encode a.packet.headers payload
    rw [stale] at detected
    exact ⟨_, (issues.bears first).octets payload size, detected⟩

end Detector

/-- The generator skips zero between two packets of one moment, and the detector follows. -/
theorem detector_agrees_with_sender_at_end :
    let distance : Point → Point → Nat := fun _ _ => 0
    let source : Address := Address.zero.withMid ⟨1⟩
    let destination : Address := Address.zero.withMid ⟨2⟩
    let router : Router := {
      locations := ⟨⟨[.ofAddress destination], []⟩⟩
      links := ⟨⟨[{ address := source }], []⟩⟩
      sequence := ⟨0xffff⟩
      management := { time := some 1072915200005, position := some ⟨0, 0, 0, 0, false⟩ } }
    let host : Host := ⟨router, source.mac⟩
    let request : Request := { destination, next := .btpA, payload := 0 }
    let event : Event := .originate (.ofTime ⟨0⟩) request [] (.ofAllocated [])
    let detector (s : Stamp) : LocationTable := ⟨⟨[(Entry.ofAddress source).restamp s], []⟩⟩
    ∃ history a b, host.run distance [event, event] = .ok history ∧
      history.filterMap (·.issued? distance) = [a, b] ∧
      a.stamp = ⟨⟨5⟩, ⟨0xffff⟩⟩ ∧ b.stamp = ⟨⟨5⟩, ⟨1⟩⟩ ∧
      (∃ octets after, b.octets [] = .ok octets ∧
        (detector a.stamp).detectPacket? octets = .ok (some (.fresh, after))) ∧
      ∃ octets, a.octets [] = .ok octets ∧
        (detector b.stamp).detectPacket? octets = .ok (some (.duplicate, detector b.stamp)) := by
  intro distance source destination router host request event detector
  obtain ⟨history, ran⟩ := host.run_answers distance [event, event]
  have told : history = (host.run distance [event, event]).toOption.getD [] := by
    rw [ran]
    rfl
  have seen : (history.filterMap (·.issued? distance)).map (fun a =>
      (a.time, a.source, a.stamp, a.packet.headers.payloadLength.toNat)) =
      [(1072915200005, source, ⟨⟨5⟩, ⟨0xffff⟩⟩, 0), (1072915200005, source, ⟨⟨5⟩, ⟨1⟩⟩, 0)] := by
    rw [told]
    decide +kernel
  obtain ⟨a, others, pair, first, seen⟩ := List.map_eq_cons_iff.mp seen
  obtain ⟨b, none, rfl, second, ended⟩ := List.map_eq_cons_iff.mp seen
  obtain rfl := List.map_eq_nil_iff.mp ended
  simp only [Prod.mk.injEq] at first second
  obtain ⟨timeA, sourceA, stampA, emptyA⟩ := first
  obtain ⟨timeB, sourceB, stampB, emptyB⟩ := second
  have issues := Host.issues_of_run distance ran
  rw [pair] at issues
  have known (s : Stamp) : (detector s).find? a.source.mid =
      some ((Entry.ofAddress source).restamp s) := by
    rw [sourceA]
    exact List.find?_cons_of_pos (decide_eq_true rfl)
  have agrees (s : Stamp) := detector_agrees_with_sender issues rfl rfl Nat.zero_lt_one
    (sourceA.trans sourceB.symm) (by omega) (by omega) (fun _ => by decide) (detector s) (known s)
  refine ⟨history, a, b, ran, pair, stampA, stampB, ?_, ?_⟩
  · exact (agrees a.stamp).1 rfl [] emptyB.symm
  · exact (agrees b.stamp).2 rfl [] emptyA.symm

end GeoRouter
