import GeoRouter.Proofs.Order
import GeoRouter.Proofs.Rejection

/-!
# Stations that were not heard yet

An entry can be asked for before its station was heard, and holds zeros for the stamp of the last
packet then. Duplicate detection can not tell these from a stamp: a first packet is dropped as a
duplicate if it is not newer than zero, and only if the entry was there before it. Up to the first
packet that is accepted, all that is carried from event to event is that the entry is `Blank`.
-/

namespace GeoRouter

/-! ### Stamps and zero -/

theorem Wraparound.newer_zero_iff {w : Nat} (a : BitVec w) :
    newer a 0 = true ↔ 0 < a.toNat ∧ a.toNat ≤ half w := by
  simp [newer]

/-- What stands for a stamp in an entry that no packet was taken for. -/
def Stamp.zero : Stamp := ⟨⟨0⟩, ⟨0⟩⟩

/-- The stamps that are not newer than zero: timestamps of the upper half, and with the timestamp
zero the number zero and those of the upper half. -/
theorem Stamp.newer_zero_eq_false_iff (s : Stamp) : s.newer zero = false ↔
    0x80000000 ≤ s.timestamp.val.toNat ∨ s.timestamp.val.toNat = 0 ∧
      (s.sequence.val.toNat = 0 ∨ 0x8000 ≤ s.sequence.val.toNat) := by
  have times : s.timestamp.newer ⟨0⟩ = true ↔
      0 < s.timestamp.val.toNat ∧ s.timestamp.val.toNat ≤ 0x7fffffff :=
    Wraparound.newer_zero_iff s.timestamp.val
  have numbers : s.sequence.newer ⟨0⟩ = true ↔
      0 < s.sequence.val.toNat ∧ s.sequence.val.toNat ≤ 0x7fff :=
    Wraparound.newer_zero_iff s.sequence.val
  have same : s.timestamp = ⟨0⟩ ↔ s.timestamp.val.toNat = 0 := by
    constructor
    · intro equal
      rw [equal]
      rfl
    · intro none
      exact congrArg Timestamp.mk (BitVec.eq_of_toNat_eq none)
  rw [← Bool.not_eq_true]
  simp only [newer, zero, Bool.or_eq_true, Bool.and_eq_true, decide_eq_true_eq, times, numbers,
    same]
  omega

/-! ### Blank entries -/

/-- The entry of a station is there just if it was made, and nothing was written to it since. -/
structure LocationTable.Blank (table : LocationTable) (mid : Mid) (made : Bool) : Prop where
  present : (table.find? mid).isSome = made
  blank : ∀ entry ∈ table.find? mid, ∃ address, entry = .ofAddress address

namespace LocationTable.Blank

variable {table after : LocationTable} {mid : Mid} {made : Bool} {now : Instant}

theorem of_find?_eq (blank : table.Blank mid made) (same : after.find? mid = table.find? mid) :
    after.Blank mid made := by
  constructor
  · rw [same]
    exact blank.present
  · rw [same]
    exact blank.blank

theorem find?_poll {r : Router} (blank : r.locations.Blank mid made) (now : Instant) :
    (r.poll now).2.locations.find? mid = r.locations.find? mid := by
  unfold Router.poll
  split
  · -- A blank entry never ends, so that no sweep takes it out.
    apply find?_expire
    intro entry found
    obtain ⟨address, rfl⟩ := blank.blank entry found
    rfl
  · rfl

theorem knows_iff (blank : table.Blank mid made) (s : Stamp) :
    table.knows mid s = true ↔ made = true ∧ s.newer .zero = false := by
  cases found : table.find? mid with
  | none =>
    have absent := blank.present
    rw [found] at absent
    simp [knows, found, ← absent]
  | some entry =>
    have present := blank.present
    rw [found] at present
    obtain ⟨address, rfl⟩ := blank.blank entry found
    rw [knows_of_found found, ← present]
    show (!s.newer .zero) = true ↔ _
    simp

theorem entered (blank : table.Blank mid made) (address : Address) :
    (table.entered address).Blank mid (made || decide
      ((if (table.add address).isOk then some address.mid else none) = some mid)) := by
  unfold LocationTable.entered
  cases added : table.add address with
  | error reason => simpa [Except.isOk, Except.toBool] using blank
  | ok grown =>
    have seen := find?_added added mid
    by_cases own : mid = address.mid
    · subst own
      rw [if_pos rfl] at seen
      constructor
      · simp [seen, Except.isOk, Except.toBool]
      · rw [seen]
        intro entry here
        obtain rfl := Option.some.inj here
        cases found : table.find? address.mid with
        | none => exact ⟨address, rfl⟩
        | some entry => exact blank.blank entry found
    · rw [if_neg own] at seen
      have apart : address.mid ≠ mid := Ne.symm own
      simpa [Except.isOk, Except.toBool, apart] using blank.of_find?_eq seen

end LocationTable.Blank

/-! ### Detection in a reception -/

namespace Router

section Reception

variable {D : Type} [LT D] [LE D] [DecidableLT D] [DecidableLE D] (distance : Point → Point → D)

theorem duplicate_iff (place : Workplace) {h : Headers}
    (heard : heard? place.adapter.address place.buffer = some h) :
    (reception distance place).outcome = .discarded .duplicate ↔
      (place.router.poll place.adapter.time).2.locations.knows h.origin h.stamp = true := by
  obtain ⟨clear, rfl⟩ := clear_of_heard heard
  have course := reception_course distance place
  generalize reception distance place = after at course ⊢
  cases course with
  | ignored other => exact absurd (admitted_of_heard heard) other
  | unreadable admitted objection =>
    rw [clear] at objection
    cases objection
  | duplicate sweep admitted clear known =>
    subst sweep
    exact iff_of_true rfl known
  | fresh sweep admitted clear fresh =>
    subst sweep
    rw [fresh]
    constructor
    · intro dropped
      have rejection := isRejection_of_processed distance dropped
      cases rejection
    · intro known
      cases known

/-- A reception is seen where the sweep is, and at the source of a packet that is accepted. -/
theorem find?_reception (place : Workplace) {mid : Mid}
    (swept : (place.router.poll place.adapter.time).2.locations.find? mid =
      place.router.locations.find? mid)
    (unheard : ∀ h, heard? place.adapter.address place.buffer = some h →
      (place.router.poll place.adapter.time).2.locations.knows h.origin h.stamp = false →
      h.origin ≠ mid) :
    (reception distance place).place.router.locations.find? mid =
      place.router.locations.find? mid := by
  have course := reception_course distance place
  generalize reception distance place = after at course ⊢
  cases course with
  | ignored => rfl
  | unreadable => exact swept
  | duplicate sweep =>
    subst sweep
    exact swept
  | fresh sweep admitted clear fresh =>
    subst sweep
    have apart := unheard _ (heard?_of_clear admitted clear) fresh
    exact (find?_freshly_other distance (Ne.symm apart)).trans swept

end Reception
end Router

/-! ### One event -/

namespace Moment

section Terms

variable (moment : Moment)

/-- The station whose packet duplicate detection took for fresh, if there was one. -/
def accepted? : Option Mid :=
  match moment.event with
  | .receive handle buffer =>
    let swept := (moment.before.router.poll handle.time).2.locations
    ((heard? moment.before.address buffer).filter fun h =>
      (swept.detect h.origin h.stamp.sequence h.stamp.timestamp).1 = .fresh).map (·.origin)
  | _ => none

/-- The station whose entry was asked for, if it is there now. -/
def entered? : Option Mid :=
  match moment.event with
  | .add address =>
    if (moment.before.router.locations.add address).isOk then some address.mid else none
  | _ => none

/-- A packet was dropped as a duplicate. -/
def dropsDuplicate : Bool :=
  match moment.report with
  | .received (.discarded .duplicate) => true
  | _ => false

end Terms

theorem accepted?_eq_some {moment : Moment} {handle : Handle} {buffer : Buffer}
    (received : moment.event = .receive handle buffer) {mid : Mid} :
    moment.accepted? = some mid ↔ ∃ h, heard? moment.before.address buffer = some h ∧
      (moment.before.router.poll handle.time).2.locations.knows h.origin h.stamp = false ∧
      h.origin = mid := by
  have detected (h : Headers) :
      ((moment.before.router.poll handle.time).2.locations.detect h.origin h.stamp.sequence
        h.stamp.timestamp).1 = .fresh ↔
      (moment.before.router.poll handle.time).2.locations.knows h.origin h.stamp = false := by
    rw [LocationTable.detect_eq]
    cases (moment.before.router.poll handle.time).2.locations.knows h.origin h.stamp <;> simp
  unfold accepted?
  rw [received]
  simp only [Option.map_eq_some_iff, Option.filter_eq_some_iff, decide_eq_true_eq, detected,
    and_assoc]

section Step

variable {D : Type} [LT D] [LE D] [DecidableLT D] [DecidableLE D] (distance : Point → Point → D)

variable {moment : Moment} {mid : Mid} {made : Bool}

theorem blank_of_received (follows : moment.Follows distance)
    (blank : moment.before.router.locations.Blank mid made) {handle : Handle} {buffer : Buffer}
    (received : moment.event = .receive handle buffer) (unheard : moment.accepted? ≠ some mid) :
    moment.after.router.locations.Blank mid made := by
  obtain ⟨-, after⟩ := follows.of_received distance received
  rw [after]
  apply blank.of_find?_eq
  apply Router.find?_reception distance (moment.before.workplace handle buffer)
  · exact blank.find?_poll handle.time
  · intro h heard fresh own
    exact unheard ((accepted?_eq_some received).mpr ⟨h, heard, fresh, own⟩)

theorem blank_step (follows : moment.Follows distance)
    (blank : moment.before.router.locations.Blank mid made) (kept : moment.event ≠ .remove mid)
    (unheard : moment.accepted? ≠ some mid) :
    moment.after.router.locations.Blank mid (made || decide (moment.entered? = some mid)) := by
  rcases moment.event.receive_or_inside with ⟨handle, buffer, received⟩ | inside
  · have silent : moment.entered? = none := by
      rw [entered?, received]
    simpa [silent] using blank_of_received distance follows blank received unheard
  · rw [Host.locations_step distance follows inside]
    unfold entered?
    cases event : moment.event with
    | receive handle buffer => exact absurd event (inside handle buffer)
    | poll now => simpa [Router.tableAfter] using blank.of_find?_eq (blank.find?_poll now)
    | add address => simpa [Router.tableAfter] using blank.entered address
    | remove other =>
      have differ : mid ≠ other := by
        intro same
        rw [event, same] at kept
        exact kept rfl
      simpa [Router.tableAfter] using blank.of_find?_eq (LocationTable.find?_without_other differ)
    | originate | addLink | configure | manage | reseed =>
      simpa [Router.tableAfter] using blank

theorem dropsDuplicate_iff (follows : moment.Follows distance)
    (blank : moment.before.router.locations.Blank mid made) {s : Stamp}
    (heard : moment.heardStamp? mid = some s) :
    moment.dropsDuplicate = true ↔ made = true ∧ s.newer .zero = false := by
  rcases moment.event.receive_or_inside with ⟨handle, buffer, received⟩ | inside
  · obtain ⟨h, readable, rfl, rfl⟩ := (heardStamp?_of_received received).mp heard
    unfold Follows at follows
    rw [received, Host.step_receive] at follows
    obtain ⟨report, -⟩ := Prod.mk.inj (Except.ok.inj follows)
    have dropped := Router.duplicate_iff distance (moment.before.workplace handle buffer) readable
    have polled : ((moment.before.router.poll handle.time).2.locations).Blank h.origin made :=
      blank.of_find?_eq (blank.find?_poll handle.time)
    rw [← polled.knows_iff h.stamp]
    refine Iff.trans ?_ dropped
    unfold dropsDuplicate
    rw [← report]
    constructor
    · intro drops
      split at drops
      · rename_i same
        exact Report.received.inj same
      · cases drops
    · intro drops
      rw [drops]
  · rw [heardStamp?_of_inside inside] at heard
    cases heard

end Step
end Moment

/-! ### The run -/

theorem LocationTable.blank_of_empty {table : LocationTable} (empty : table.entries = [])
    (mid : Mid) : table.Blank mid false := by
  have absent : table.find? mid = none := by
    unfold find?
    rw [empty]
    rfl
  constructor
  · rw [absent]
    rfl
  · intro entry found
    rw [absent] at found
    cases found

section Run

variable {D : Type} [LT D] [LE D] [DecidableLT D] [DecidableLE D] (distance : Point → Point → D)

/-- Up to the first packet of a station that is accepted its entry is blank, and it is there just if
it was asked for. -/
theorem blank_of_run {mid : Mid} {made : Bool} {host : Host} {events : List Event}
    {earlier later : List Moment} {moment : Moment}
    (ran : host.run distance events = .ok (earlier ++ moment :: later))
    (blank : host.router.locations.Blank mid made)
    (kept : ∀ event ∈ events, event ≠ .remove mid)
    (unheard : ∀ past ∈ earlier, past.accepted? ≠ some mid) :
    moment.Follows distance ∧ moment.before.router.locations.Blank mid
      (made || earlier.any fun past => past.entered? = some mid) := by
  -- In `made` stands whether the entry was asked for before the moments that are left.
  induction earlier generalizing host events made with
  | nil =>
    cases events with
    | nil => cases ran
    | cons event rest =>
      obtain ⟨report, after, went, follows, -, same⟩ := Host.run_cons distance ran
      obtain ⟨rfl, -⟩ := List.cons.inj same
      rw [List.any_nil, Bool.or_false]
      exact ⟨follows, blank⟩
  | cons past earlier ih =>
    cases events with
    | nil => cases ran
    | cons event rest =>
      obtain ⟨report, after, went, follows, ranOn, same⟩ := Host.run_cons distance ran
      obtain ⟨rfl, rfl⟩ := List.cons.inj same
      obtain ⟨keptFirst, keptRest⟩ := List.forall_mem_cons.mp kept
      obtain ⟨unheardFirst, unheardRest⟩ := List.forall_mem_cons.mp unheard
      have onward := Moment.blank_step distance follows blank keptFirst unheardFirst
      rw [List.any_cons, ← Bool.or_assoc]
      exact ih ranOn onward keptRest unheardRest

/-- In every run from an empty table in which a station is never taken out, as long as no packet of
it was accepted: a packet of it is dropped as a duplicate just if its entry was asked for before, and
its timestamp is in the upper half of the range, or is zero with a number that is zero or in the
upper half. -/
theorem unheard_station_dropped_iff (host : Host) (empty : host.router.locations.entries = [])
    (mid : Mid) (events : List Event) (kept : ∀ event ∈ events, event ≠ .remove mid) :
    ∃ history, host.run distance events = .ok history ∧
      ∀ earlier moment later s, history = earlier ++ moment :: later →
        (∀ past ∈ earlier, past.accepted? ≠ some mid) → moment.heardStamp? mid = some s →
        (moment.dropsDuplicate = true ↔
          (∃ past ∈ earlier, past.entered? = some mid) ∧
            (0x80000000 ≤ s.timestamp.val.toNat ∨ s.timestamp.val.toNat = 0 ∧
              (s.sequence.val.toNat = 0 ∨ 0x8000 ≤ s.sequence.val.toNat))) := by
  obtain ⟨history, ran⟩ := host.run_answers distance events
  refine ⟨history, ran, ?_⟩
  intro earlier moment later s parted unheard heard
  subst parted
  obtain ⟨follows, blank⟩ :=
    blank_of_run distance ran (LocationTable.blank_of_empty empty mid) kept unheard
  rw [Moment.dropsDuplicate_iff distance follows blank heard, Stamp.newer_zero_eq_false_iff,
    Bool.false_or, List.any_eq_true]
  simp only [decide_eq_true_eq]

end Run

/-- An entry is asked for, and of the two packets that come then only the second is taken. -/
theorem unheard_station_dropped_of_entered :
    let own : Mac := ⟨2, 0, 0, 0, 0, 1⟩
    let source : Mid := ⟨2⟩
    let link : Link := { address := Address.zero.withMid (.ofMac own) }
    let host : Host := ⟨{ locations := .ofCapacity 1, links := ⟨⟨[link], []⟩⟩ }, own⟩
    let late : Stamp := ⟨⟨0x80000000⟩, ⟨1⟩⟩
    let early : Stamp := ⟨⟨0x7fffffff⟩, ⟨1⟩⟩
    let events := [.add (Address.zero.withMid source),
      .receive (.ofTime ⟨0⟩) (emptyFrame own source late),
      .receive (.ofTime ⟨0⟩) (emptyFrame own source early)]
    host.router.locations.entries = [] ∧ (∀ event ∈ events, event ≠ .remove source) ∧
      ∃ entering first second,
        host.run (fun _ _ => (0 : Nat)) events = .ok [entering, first, second] ∧
          first.dropsDuplicate = true ∧ second.dropsDuplicate = false := by
  intro own source link host late early events
  have kept : ∀ event ∈ events, event ≠ .remove source := by simp [events]
  obtain ⟨history, ran, dropped⟩ := unheard_station_dropped_iff (fun _ _ => (0 : Nat)) host rfl
    source events kept
  have told : history = (host.run (fun _ _ => (0 : Nat)) events).toOption.getD [] := by
    rw [ran]
    rfl
  have heard : history.map (·.heardStamp? source) = [none, some late, some early] := by
    rw [told]
    decide +kernel
  have entered : history.map (·.entered?) = [some source, none, none] := by
    rw [told]
    decide +kernel
  have accepted : history.map (·.accepted?) = [none, none, some source] := by
    rw [told]
    decide +kernel
  obtain ⟨entering, rest, rfl, -, heard⟩ := List.map_eq_cons_iff.mp heard
  obtain ⟨first, rest, rfl, heardLate, heard⟩ := List.map_eq_cons_iff.mp heard
  obtain ⟨second, rest, rfl, heardEarly, heard⟩ := List.map_eq_cons_iff.mp heard
  obtain rfl := List.map_eq_nil_iff.mp heard
  simp only [List.map_cons, List.map_nil, List.cons.injEq, and_true] at entered accepted
  refine ⟨rfl, kept, entering, first, second, ran, ?_, ?_⟩
  · apply (dropped [entering] first [second] late rfl (by simp [accepted]) heardLate).mpr
    exact ⟨⟨entering, List.mem_singleton_self _, entered.1⟩, .inl (by decide)⟩
  · rw [← Bool.not_eq_true, dropped [entering, first] second [] early rfl (by simp [accepted])
      heardEarly]
    rintro ⟨-, upper | ⟨none, -⟩⟩
    · exact absurd upper (by decide)
    · exact absurd none (by decide)

/-- The first packet of a station may be dropped as a duplicate. -/
theorem duplicate_without_accepted :
    let own : Mac := ⟨2, 0, 0, 0, 0, 1⟩
    let source : Mid := ⟨2⟩
    let link : Link := { address := Address.zero.withMid (.ofMac own) }
    let host : Host := ⟨{ locations := .ofCapacity 1, links := ⟨⟨[link], []⟩⟩ }, own⟩
    let late : Stamp := ⟨⟨0x80000000⟩, ⟨1⟩⟩
    host.router.locations.entries = [] ∧
      ∃ history, host.run (fun _ _ => (0 : Nat)) [.add (Address.zero.withMid source),
          .receive (.ofTime ⟨0⟩) (emptyFrame own source late)] = .ok history ∧
        history.map (·.heardStamp? source) = [none, some late] ∧
        history.map (·.dropsDuplicate) = [false, true] ∧
        ∀ moment ∈ history, moment.accepted? = none := by
  intro own source link host late
  obtain ⟨history, ran⟩ := host.run_answers (fun _ _ => (0 : Nat))
    [.add (Address.zero.withMid source), .receive (.ofTime ⟨0⟩) (emptyFrame own source late)]
  have told : history = (host.run (fun _ _ => (0 : Nat)) [.add (Address.zero.withMid source),
      .receive (.ofTime ⟨0⟩) (emptyFrame own source late)]).toOption.getD [] := by
    rw [ran]
    rfl
  refine ⟨rfl, history, ran, ?_⟩
  rw [told]
  decide +kernel

end GeoRouter
