import GeoRouter.Proofs.Run
import GeoRouter.Proofs.Teaching

/-!
# No packet is taken twice

A station tells its packets apart by their stamps. As long as its entry stays in the table, the
entry holds a stamp that no packet taken so far is newer than, so that the stamps of the packets
that are delivered or forwarded only ever grow. What is carried from event to event is `Ahead`.
-/

namespace GeoRouter

def Outcome.isTaken : Outcome → Bool
  | .delivered _ | .forwarded _ => true
  | .ignored | .discarded _ => false

/-- The headers of the packet in a frame, if the station takes the frame and can read them. -/
def heard? (own : Mac) (buffer : Buffer) : Option Headers :=
  if Admitted own buffer.bytes then
    match Headers.parse (buffer.bytes.drop FrameHeader.size) with
    | .ok (.ok h) => some h
    | _ => none
  else none

theorem heard?_of_clear {own : Mac} {buffer : Buffer} (admitted : Admitted own buffer.bytes)
    (clear : Headers.objection? (buffer.bytes.drop FrameHeader.size) = none) :
    heard? own buffer = some buffer.packet.headers := by
  unfold heard?
  rw [if_pos admitted, Headers.parse_eq, clear]
  rfl

namespace Router

section Effects

variable {D : Type} [LT D] [LE D] [DecidableLT D] [DecidableLE D] (distance : Point → Point → D)

/-! ### What a fresh packet leaves in the table -/

section Fresh

variable {swept : Router} {adapter : Adapter} {packet : FramedPacket}

theorem find?_freshly_other {mid : Mid} (other : mid ≠ packet.headers.origin) :
    (freshly distance swept adapter packet).place.router.locations.find? mid =
      swept.locations.find? mid := by
  rcases locations_freshly distance swept adapter packet with
    ⟨room, learned, -⟩ | ⟨restamped, -⟩ | ⟨-, kept, -⟩
  · rw [learned, find?_learned room, if_neg other]
  · rw [restamped, LocationTable.find?_restamp, if_neg other]
  · rw [kept]

theorem stamp_freshly
    (present : (swept.locations.find? packet.headers.origin).isSome ∨
      (freshly distance swept adapter packet).outcome.isTaken = true) :
    ∃ entry, (freshly distance swept adapter packet).place.router.locations.find?
      packet.headers.origin = some entry ∧ entry.stamp = packet.headers.stamp := by
  rcases locations_freshly distance swept adapter packet with
    ⟨room, learned, -⟩ | ⟨restamped, dropped⟩ | ⟨crowded, -, dropped⟩
  · exact ⟨_, by rw [learned, find?_learned room, if_pos rfl], rfl⟩
  · rcases present with found | taken
    · obtain ⟨entry, found⟩ := Option.isSome_iff_exists.mp found
      refine ⟨_, by rw [restamped, LocationTable.find?_restamp, if_pos rfl, found]; rfl, rfl⟩
    · rw [dropped] at taken
      cases taken
  · rcases present with found | taken
    · exact absurd (.inl found) crowded
    · rw [dropped] at taken
      cases taken

end Fresh

/-! ### What a reception leaves in the table -/

section Reception

variable (place : Workplace) {mid : Mid}

/-- An entry that the sweep spares stays as it is, unless a newer packet of its station comes. -/
theorem entry_of_reception {entry : Entry} (found : place.router.locations.find? mid = some entry)
    (spared : Admitted place.adapter.address place.buffer.bytes →
      (place.router.poll place.adapter.time).2.locations.find? mid = some entry) :
    ((reception distance place).place.router.locations.find? mid = some entry ∧
      ∀ h, heard? place.adapter.address place.buffer = some h → h.origin = mid →
        (reception distance place).outcome.isTaken = false) ∨
    ∃ h after, heard? place.adapter.address place.buffer = some h ∧ h.origin = mid ∧
      h.stamp.newer entry.stamp = true ∧ after.stamp = h.stamp ∧
      (reception distance place).place.router.locations.find? mid = some after := by
  have course := reception_course distance place
  generalize reception distance place = after at course ⊢
  cases course with
  | ignored other => exact .inl ⟨found, fun _ _ _ => rfl⟩
  | unreadable admitted objection => exact .inl ⟨spared admitted, fun _ _ _ => rfl⟩
  | duplicate sweep admitted clear known =>
    subst sweep
    exact .inl ⟨spared admitted, fun _ _ _ => rfl⟩
  | fresh sweep admitted clear fresh =>
    subst sweep
    have kept := spared admitted
    by_cases own : mid = place.buffer.packet.headers.origin
    · subst own
      obtain ⟨last, present, stamp⟩ := stamp_freshly distance (.inl (by rw [kept]; rfl))
      have newer : place.buffer.packet.headers.stamp.newer entry.stamp = true := by
        rw [LocationTable.knows_of_found kept] at fresh
        simpa using fresh
      exact .inr ⟨_, last, heard?_of_clear admitted clear, rfl, newer, stamp, present⟩
    · refine .inl ⟨(find?_freshly_other distance own).trans kept, fun h heard origin => ?_⟩
      obtain rfl := Option.some.inj ((heard?_of_clear admitted clear).symm.trans heard)
      exact absurd origin.symm own

theorem entry_of_taken (taken : (reception distance place).outcome.isTaken = true) :
    ∃ h after, heard? place.adapter.address place.buffer = some h ∧ after.stamp = h.stamp ∧
      (reception distance place).place.router.locations.find? h.origin = some after := by
  have course := reception_course distance place
  generalize reception distance place = after at course taken ⊢
  cases course with
  | ignored | unreadable | duplicate => cases taken
  | fresh sweep admitted clear fresh =>
    obtain ⟨last, present, stamp⟩ := stamp_freshly distance (.inr taken)
    exact ⟨_, last, heard?_of_clear admitted clear, stamp, present⟩

end Reception
end Effects
end Router

/-! ### One event -/

namespace Moment

section Terms

variable (moment : Moment) (mid : Mid)

/-- The stamp of the packet that was heard of a station, if one was. -/
def heardStamp? : Option Stamp :=
  match moment.event with
  | .receive _ buffer =>
    ((heard? moment.before.address buffer).filter (·.origin = mid)).map (·.stamp)
  | _ => none

def takes : Bool :=
  match moment.report with
  | .received outcome => outcome.isTaken
  | _ => false

/-- The stamp of the packet that was delivered or forwarded of a station, if one was. -/
def takenStamp? : Option Stamp := if moment.takes then moment.heardStamp? mid else none

/-- When the table was swept, if it may have been. -/
def sweep? : Option Instant :=
  match moment.event with
  | .receive handle buffer =>
    if Admitted moment.before.address buffer.bytes then some handle.time else none
  | .poll now => some now
  | _ => none

def removed? : Option Mid :=
  match moment.event with
  | .remove mid => some mid
  | _ => none

/-- The entry of a station is neither removed nor swept away, if there is one. -/
def Spares : Prop :=
  ∀ entry ∈ moment.before.router.locations.find? mid, moment.removed? ≠ some mid ∧
    ∀ now ∈ moment.sweep?, (moment.before.router.poll now).2.locations.find? mid = some entry

instance : Decidable (moment.Spares mid) :=
  inferInstanceAs (Decidable (∀ entry ∈ moment.before.router.locations.find? mid, _ ∧ _))

end Terms

theorem heardStamp?_of_inside {moment : Moment}
    (inside : ∀ handle buffer, moment.event ≠ .receive handle buffer) (mid : Mid) :
    moment.heardStamp? mid = none := by
  unfold heardStamp?
  split
  · rename_i handle buffer received
    exact absurd received (inside handle buffer)
  · rfl

theorem heardStamp?_of_received {moment : Moment} {handle : Handle} {buffer : Buffer}
    (received : moment.event = .receive handle buffer) {mid : Mid} {s : Stamp} :
    moment.heardStamp? mid = some s ↔
      ∃ h, heard? moment.before.address buffer = some h ∧ h.origin = mid ∧ h.stamp = s := by
  unfold heardStamp?
  rw [received, Option.map_eq_some_iff]
  simp only [Option.filter_eq_some_iff, decide_eq_true_eq, and_assoc]

theorem takenStamp?_eq_some {moment : Moment} {mid : Mid} {s : Stamp} :
    moment.takenStamp? mid = some s ↔ moment.takes = true ∧ moment.heardStamp? mid = some s := by
  unfold takenStamp?
  cases moment.takes <;> simp

section Step

variable {D : Type} [LT D] [LE D] [DecidableLT D] [DecidableLE D] (distance : Point → Point → D)

variable {moment : Moment} {mid : Mid}

theorem Follows.of_received {handle : Handle} {buffer : Buffer} (follows : moment.Follows distance)
    (received : moment.event = .receive handle buffer) :
    moment.takes =
        (Router.reception distance (moment.before.workplace handle buffer)).outcome.isTaken ∧
      moment.after = Host.ofWorkplace
        (Router.reception distance (moment.before.workplace handle buffer)).place := by
  unfold Follows at follows
  rw [received, Host.step_receive] at follows
  obtain ⟨report, after⟩ := Prod.mk.inj (Except.ok.inj follows)
  exact ⟨by rw [takes, ← report], after.symm⟩

/-- An entry changes its stamp only for a newer one, and no packet is taken without that. -/
theorem entry_of_step (follows : moment.Follows distance) (spares : moment.Spares mid)
    {entry : Entry} (found : moment.before.router.locations.find? mid = some entry) :
    (moment.after.router.locations.find? mid = some entry ∧ moment.takenStamp? mid = none) ∨
    ∃ s last, moment.heardStamp? mid = some s ∧ s.newer entry.stamp = true ∧ last.stamp = s ∧
      moment.after.router.locations.find? mid = some last := by
  obtain ⟨kept, spared⟩ := spares entry found
  rcases moment.event.receive_or_inside with ⟨handle, buffer, received⟩ | inside
  · obtain ⟨takes, after⟩ := follows.of_received distance received
    have swept : Admitted moment.before.address buffer.bytes →
        (moment.before.router.poll handle.time).2.locations.find? mid = some entry :=
      fun admitted => spared _ (by rw [sweep?, received]; exact if_pos admitted)
    rcases Router.entry_of_reception distance (moment.before.workplace handle buffer) found swept
      with ⟨stays, quiet⟩ | ⟨h, last, heard, origin, newer, stamp, present⟩
    · refine .inl ⟨by rw [after]; exact stays, Option.eq_none_iff_forall_ne_some.mpr ?_⟩
      intro s taken
      obtain ⟨took, stamped⟩ := takenStamp?_eq_some.mp taken
      obtain ⟨h, heard, origin, -⟩ := (heardStamp?_of_received received).mp stamped
      rw [takes, quiet h heard origin] at took
      cases took
    · refine .inr ⟨h.stamp, last, ?_, newer, stamp, by rw [after]; exact present⟩
      exact (heardStamp?_of_received received).mpr ⟨h, heard, origin, rfl⟩
  · have lasts : moment.event ≠ .remove mid := fun removes => kept (by rw [removed?, removes])
    refine .inl ⟨Host.find?_step distance follows inside found lasts fun now polls => ?_, ?_⟩
    · exact spared now (by rw [sweep?, polls]; rfl)
    · rw [takenStamp?, heardStamp?_of_inside inside, ite_self]

theorem stamp_of_taken (follows : moment.Follows distance) {s : Stamp}
    (taken : moment.takenStamp? mid = some s) : moment.heardStamp? mid = some s ∧
      ∃ entry, moment.after.router.locations.find? mid = some entry ∧ entry.stamp = s := by
  obtain ⟨took, stamped⟩ := takenStamp?_eq_some.mp taken
  refine ⟨stamped, ?_⟩
  rcases moment.event.receive_or_inside with ⟨handle, buffer, received⟩ | inside
  · obtain ⟨takes, after⟩ := follows.of_received distance received
    obtain ⟨h, heard, origin, rfl⟩ := (heardStamp?_of_received received).mp stamped
    obtain ⟨again, last, heardAgain, stamp, present⟩ :=
      Router.entry_of_taken distance (moment.before.workplace handle buffer) (takes.symm.trans took)
    obtain rfl := Option.some.inj (heard.symm.trans heardAgain)
    exact ⟨last, by rw [after, ← origin]; exact present, stamp⟩
  · rw [heardStamp?_of_inside inside] at stamped
    cases stamped

end Step
end Moment

/-! ### The run -/

/-- The entry of a station is not behind the last stamp that was taken, if one was. -/
def Ahead (window : Window) (mid : Mid) (floor : Option Stamp) (host : Host) : Prop :=
  ∀ s ∈ floor, ∃ entry, host.router.locations.find? mid = some entry ∧
    window.Holds entry.stamp ∧ (entry.stamp = s ∨ window.Before s entry.stamp)

section Run

variable {D : Type} [LT D] [LE D] [DecidableLT D] [DecidableLE D] (distance : Point → Point → D)
variable {window : Window} {mid : Mid} {floor : Option Stamp} {moment : Moment}

/-- A stamp that is taken is above the last one, and is the last one then. -/
theorem Ahead.step (ahead : Ahead window mid floor moment.before)
    (follows : moment.Follows distance) (spares : moment.Spares mid)
    (held : ∀ s ∈ moment.heardStamp? mid, window.Holds s) :
    (moment.takenStamp? mid = none ∧ Ahead window mid floor moment.after) ∨
    ∃ s, moment.takenStamp? mid = some s ∧ (∀ last ∈ floor, window.Before last s) ∧
      Ahead window mid (some s) moment.after := by
  cases taken : moment.takenStamp? mid with
  | none =>
    -- A packet that is dropped after detection may still have made the entry newer.
    refine .inl ⟨rfl, fun last isLast => ?_⟩
    obtain ⟨entry, found, inside, order⟩ := ahead last isLast
    rcases moment.entry_of_step distance follows spares found with
      ⟨stays, -⟩ | ⟨s, after, heard, newer, rfl, present⟩
    · exact ⟨entry, stays, inside, order⟩
    · have above := (Window.newer_iff_before (held _ heard) inside).mp newer
      exact ⟨after, present, held _ heard, .inr (.of_reached order above)⟩
  | some s =>
    obtain ⟨heard, after, present, rfl⟩ := Moment.stamp_of_taken distance follows taken
    refine .inr ⟨_, rfl, fun last isLast => ?_, fun same isSame => ?_⟩
    · obtain ⟨entry, found, inside, order⟩ := ahead last isLast
      rcases moment.entry_of_step distance follows spares found with
        ⟨-, quiet⟩ | ⟨_, -, again, newer, -, -⟩
      · rw [quiet] at taken
        cases taken
      · obtain rfl := Option.some.inj (again.symm.trans heard)
        exact .of_reached order ((Window.newer_iff_before (held _ heard) inside).mp newer)
    · obtain rfl := Option.some.inj isSame
      exact ⟨after, present, held _ heard, .inl rfl⟩

theorem pairwise_of_run {host : Host} {events : List Event} {history : List Moment}
    (ran : host.run distance events = .ok history) (ahead : Ahead window mid floor host)
    (kept : ∀ moment ∈ history, moment.Spares mid ∧
      ∀ s ∈ moment.heardStamp? mid, window.Holds s) :
    (floor.toList ++ history.filterMap (·.takenStamp? mid)).Pairwise window.Before := by
  -- Along the events, the last stamp that was taken is carried with the entry that has reached it.
  induction events generalizing host history floor with
  | nil =>
    obtain rfl := Except.ok.inj ran
    cases floor <;> simp
  | cons event rest ih =>
    obtain ⟨report, after, later, follows, went, rfl⟩ := Host.run_cons distance ran
    obtain ⟨⟨spares, held⟩, remaining⟩ := List.forall_mem_cons.mp kept
    rcases ahead.step distance follows spares held with
      ⟨quiet, still⟩ | ⟨s, taken, above, still⟩
    · simp only [List.filterMap_cons, quiet]
      exact ih went still remaining
    · simp only [List.filterMap_cons, taken]
      have onward := ih went still remaining
      cases floor with
      | none => exact onward
      | some last =>
        have first := above last rfl
        refine List.pairwise_cons.mpr ⟨fun t member => ?_, onward⟩
        rcases List.mem_cons.mp member with rfl | member
        · exact first
        · exact first.trans (List.rel_of_pairwise_cons onward member)

/-- In every run, whatever comes in between, the packets of a station that are delivered or
forwarded have ever newer stamps, and none twice, as long as its entry is not taken out and what is
heard of it stays inside one window. -/
theorem taken_stamps_increase (window : Window) (mid : Mid) (host : Host) (events : List Event) :
    ∃ history, host.run distance events = .ok history ∧
      ((∀ moment ∈ history, moment.Spares mid ∧
          ∀ s ∈ moment.heardStamp? mid, window.Holds s) →
        (history.filterMap (·.takenStamp? mid)).Pairwise window.Before ∧
          (history.filterMap (·.takenStamp? mid)).Nodup) := by
  obtain ⟨history, ran⟩ := host.run_answers distance events
  refine ⟨history, ran, fun kept => ?_⟩
  have start : Ahead window mid none host := nofun
  have increasing := pairwise_of_run distance ran start kept
  exact ⟨increasing, increasing.imp Window.Before.ne⟩

end Run

def emptyFrame (own : Mac) (source : Mid) (s : Stamp) : Buffer :=
  let headers : Headers := {
    lifetime := ⟨0⟩
    remainingHops := 1
    next := .btpA
    trafficClass := {}
    mobile := false
    payloadLength := 0
    maxHops := 1
    extended := {
      sequence := s.sequence
      source := { address := Address.zero.withMid source, timestamp := s.timestamp }
      destination := { address := Address.zero.withMid (.ofMac own) } } }
  .ofAllocated (FrameHeader.encode ⟨source.mac, own, .geoNetworking⟩ ++ headers.encode)

/-- A packet and the next one are delivered while their numbers start again, and each comes once
more in vain. -/
theorem taken_stamps_increase_of_replay :
    let own : Mac := ⟨2, 0, 0, 0, 0, 1⟩
    let source : Mid := ⟨2⟩
    let link : Link := { address := Address.zero.withMid (.ofMac own) }
    let host : Host := ⟨{ locations := .ofCapacity 1, links := ⟨⟨[link], []⟩⟩ }, own⟩
    let first : Stamp := ⟨⟨0xffffffff⟩, ⟨0xffff⟩⟩
    let second : Stamp := ⟨⟨0xffffffff⟩, ⟨1⟩⟩
    let window : Window := ⟨⟨0xffffffff⟩, fun _ => ⟨0xffff⟩⟩
    let events := [first, first, second, first].map fun s =>
      Event.receive (.ofTime ⟨0⟩) (emptyFrame own source s)
    ∃ history, host.run (fun _ _ => (0 : Nat)) events = .ok history ∧
      history.filterMap (·.takenStamp? source) = [first, second] ∧
      [first, second].Pairwise window.Before := by
  intro own source link host first second window events
  obtain ⟨history, ran, increase⟩ :=
    taken_stamps_increase (fun _ _ => (0 : Nat)) window source host events
  have told : history = (host.run (fun _ _ => (0 : Nat)) events).toOption.getD [] := by
    rw [ran]
    rfl
  have taken : history.filterMap (·.takenStamp? source) = [first, second] := by
    rw [told]
    decide +kernel
  have kept : ∀ moment ∈ history, moment.Spares source ∧
      ∀ s ∈ moment.heardStamp? source, window.Holds s := by
    rw [told]
    decide +kernel
  exact ⟨history, ran, taken, taken ▸ (increase kept).1⟩
end GeoRouter
