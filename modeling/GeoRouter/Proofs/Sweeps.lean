import GeoRouter.Proofs.AtMostOnce
import GeoRouter.Proofs.Order
import GeoRouter.Proofs.Turns

/-!
# How old the table may be

Whether the table is swept is told by a timer and the ticket that it gave out last. Nothing touches
one of the two without the other, so that it depends on the instants of the polls alone: on the
first one the table is swept, and afterwards whenever a second has passed since it was swept last.
An entry that is still there has thus not been over for that long. The second is counted in 64 bits:
within their last one the count wraps around, and the table is swept more often, but never less.
-/

namespace GeoRouter

namespace Instant

/-- The table was never swept, or a second has passed since it was swept last, as it is counted
in 64 bits. -/
def isRested (now : Instant) (latest : Option Instant) : Bool :=
  latest.all fun last => Int.bmod (last.millis + 1000) 0x10000000000000000 ≤ now.millis

/-- The instant of the latest sweep, after a poll at `now`. -/
def sweeping (latest : Option Instant) (now : Instant) : Option Instant :=
  if now.isRested latest then some now else latest

theorem isRested_iff {now last : Instant} (lower : -0x8000000000000000 ≤ last.millis)
    (upper : last.millis + 1000 < 0x8000000000000000) :
    now.isRested (some last) = true ↔ last.millis + 1000 ≤ now.millis := by
  have second : Int.bmod (last.millis + 1000) 0x10000000000000000 = last.millis + 1000 :=
    Int.bmod_eq_of_le_mul_two (by omega) (by omega)
  rw [isRested, Option.all_some, second, decide_eq_true_iff]

/-- Wrapping around, a count only falls behind. -/
theorem lt_of_not_isRested {now last : Instant} (lower : -0x8000000000000000 ≤ last.millis)
    (early : now.isRested (some last) = false) : now.millis < last.millis + 1000 := by
  have short := of_decide_eq_false early
  have behind : Int.bmod (last.millis + 1000) 0x10000000000000000 ≤ last.millis + 1000 := by
    rw [Int.bmod]
    omega
  omega

end Instant

/-- The instant of the latest sweep, after polls at some instants. -/
def latestSweep (latest : Option Instant) (polls : List Instant) : Option Instant :=
  polls.foldl Instant.sweeping latest

/-- The instant of a turn in which the table is polled, be it for a frame or for itself. -/
def Turn.poll? (host : Host) : Turn → Option Instant
  | .receive handle buffer _ =>
    if Admitted host.address buffer.bytes then some handle.time else none
  | .other (.poll now) _ => some now
  | _ => none

def Episode.poll? (episode : Episode) : Option Instant := episode.turn.poll? episode.before

theorem Expiration.on_lt_on_iff {a b : Instant} :
    cmp (.on a) (.on b) = .lt ↔ a.millis < b.millis :=
  Std.compare_eq_lt (a := a.millis)

/-! ### Polls -/

namespace Router

/-- The timer was armed last at the latest sweep, and its ticket is the one that is kept. -/
structure SweptAt (r : Router) (latest : Option Instant) : Prop where
  timer : r.sweep = { started := latest, period := sweepPeriod }
  ticket : r.sweepTicket = latest.map Ticket.mk

/-- No entry was over at the latest sweep. -/
def Current (r : Router) (latest : Option Instant) : Prop :=
  ∀ last ∈ latest, ∀ entry ∈ r.locations.entries, entry.isAlive last = true

def swept (r : Router) (now : Instant) : Router :=
  { r with
    locations := (r.locations.expire now).2
    sweep := { started := some now, period := sweepPeriod }
    sweepTicket := some ⟨now⟩ }

variable {r : Router} {latest : Option Instant}

theorem SweptAt.sweepDue_eq (sweptAt : r.SweptAt latest) (now : Instant) :
    r.sweepDue now = now.isRested latest := by
  unfold sweepDue
  rw [sweptAt.ticket, sweptAt.timer]
  cases latest with
  | none => rfl
  | some last =>
    have second : sweepPeriod.millis = 1000 := by decide
    have rested : Expiration.cmp (.on now) (.on (last.later sweepPeriod)) ≠ .lt ↔
        Int.bmod (last.millis + 1000) 0x10000000000000000 ≤ now.millis := by
      rw [Ne, Expiration.on_lt_on_iff, Instant.millis_later, second, Int.not_lt]
      rfl
    have current : Timer.isCurrent ⟨some last, sweepPeriod⟩ ⟨last⟩ = true := decide_eq_true rfl
    have due : Timer.isDue ⟨some last, sweepPeriod⟩ now = now.isRested (some last) :=
      decide_eq_decide.mpr rested
    simp only [Option.map_some, Timer.fire, current, due, Bool.true_and]
    cases now.isRested (some last) <;> rfl

theorem SweptAt.poll_eq (sweptAt : r.SweptAt latest) (now : Instant) :
    r.poll now = if now.isRested latest then ((r.locations.expire now).1, r.swept now)
      else (0, r) := by
  unfold poll
  rw [sweptAt.sweepDue_eq, sweptAt.timer]
  rfl

theorem SweptAt.poll (sweptAt : r.SweptAt latest) (now : Instant) :
    (r.poll now).2.SweptAt (now.sweeping latest) := by
  rw [sweptAt.poll_eq, Instant.sweeping]
  split
  · exact ⟨rfl, rfl⟩
  · exact sweptAt

theorem Current.poll (current : r.Current latest) (sweptAt : r.SweptAt latest) (now : Instant) :
    (r.poll now).2.Current (now.sweeping latest) := by
  rw [sweptAt.poll_eq, Instant.sweeping]
  split
  · intro last here entry member
    obtain rfl := Option.some.inj here
    rw [swept, LocationTable.expire_eq] at member
    exact (List.mem_filter.mp member).2
  · exact current

end Router

/-! ### What a turn leaves of a sweep -/

/-- What comes after a poll leaves the timer of the sweep alone, and writes no entry but one that
never ends, or that lives on for a lifetime. -/
structure Router.Follows (lifetime : Duration) (now? : Option Instant) (polled after : Router) :
    Prop where
  timer : after.sweep = polled.sweep
  ticket : after.sweepTicket = polled.sweepTicket
  ends : ∀ entry ∈ after.locations.entries, entry.expires = .never ∨
    (∃ now ∈ now?, entry.expires = .on (now.later lifetime)) ∨
    ∃ old ∈ polled.locations.entries, entry.expires = old.expires

namespace Router

theorem Follows.of_same {lifetime : Duration} {now? : Option Instant} {polled after : Router}
    (timer : after.sweep = polled.sweep) (ticket : after.sweepTicket = polled.sweepTicket)
    (locations : after.locations = polled.locations) :
    Follows lifetime now? polled after where
  timer := timer
  ticket := ticket
  ends entry member := by
    rw [locations] at member
    exact .inr (.inr ⟨entry, member, rfl⟩)

end Router

section Turns

variable {D : Type} [LT D] [LE D] [DecidableLT D] [DecidableLE D] (distance : Point → Point → D)

namespace Router

/-- An entry behind a reception ends when one of the swept table does, or it is the one that was
learned. -/
theorem ends_reception (place : Workplace) :
    ∀ entry ∈ (reception distance place).place.router.locations.entries,
      (Admitted place.adapter.address place.buffer.bytes ∧ entry.expires =
        .on (place.adapter.time.later place.router.settings.entryLifetime)) ∨
      ∃ old ∈ (polled place).locations.entries, entry.expires = old.expires := by
  intro entry member
  have course := reception_course distance place
  unfold polled
  generalize reception distance place = after at course member
  cases course with
  | ignored other =>
    rw [if_neg other]
    exact .inr ⟨entry, member, rfl⟩
  | unreadable admitted =>
    rw [if_pos admitted]
    exact .inr ⟨entry, member, rfl⟩
  | duplicate sweep admitted =>
    rw [if_pos admitted, sweep]
    exact .inr ⟨entry, member, rfl⟩
  | fresh sweep admitted =>
    subst sweep
    rw [if_pos admitted]
    rcases locations_freshly distance (place.router.poll place.adapter.time).2 place.adapter
      place.buffer.packet with ⟨room, learned, -⟩ | ⟨restamped, -⟩ | ⟨-, kept, -⟩
    · rw [learned] at member
      obtain ⟨-, placed⟩ := learned_places place.adapter.time room
      rcases placed.mem member with rfl | old
      · refine .inl ⟨admitted, ?_⟩
        rw [← place.router.settings_poll place.adapter.time]
        rfl
      · exact .inr ⟨entry, old, rfl⟩
    · rw [restamped] at member
      rcases LocationTable.mem_modify member with old | ⟨old, known, rfl⟩
      · exact .inr ⟨entry, old, rfl⟩
      · exact .inr ⟨old, known, rfl⟩
    · rw [kept] at member
      exact .inr ⟨entry, member, rfl⟩

theorem follows_reception (place : Workplace) :
    Follows place.router.settings.entryLifetime
      (if Admitted place.adapter.address place.buffer.bytes then some place.adapter.time else none)
      (polled place) (reception distance place).place.router := by
  obtain ⟨locations, links, generator, counters, frame⟩ := reception_frame distance place
  refine ⟨by rw [frame], by rw [frame], fun entry member => ?_⟩
  rcases ends_reception distance place entry member with ⟨admitted, ends⟩ | old
  · exact .inr (.inl ⟨_, if_pos admitted, ends⟩)
  · exact .inr (.inr old)

end Router

namespace Host

/-- The router behind the poll of a turn. -/
def polled (host : Host) (turn : Turn) : Router :=
  match turn.poll? host with
  | some now => (host.router.poll now).2
  | none => host.router

theorem polled_receive (host : Host) (handle : Handle) (buffer : Buffer)
    (handler : FramedPacket → Conduct) :
    host.polled (.receive handle buffer handler) =
      Router.polled (host.workplace handle buffer) := by
  unfold polled Router.polled
  by_cases admitted : Admitted host.address buffer.bytes
  · have polls : Turn.poll? host (.receive handle buffer handler) = some handle.time :=
      if_pos admitted
    rw [polls]
    exact (if_pos admitted).symm
  · have rests : Turn.poll? host (.receive handle buffer handler) = none := if_neg admitted
    rw [rests]
    exact (if_neg admitted).symm

theorem follows_step {host after : Host} {event : Event} {report : Report}
    (stepped : host.step distance event = .ok (report, after))
    (inside : ∀ handle buffer, event ≠ .receive handle buffer) :
    Router.Follows host.router.settings.entryLifetime (Turn.poll? host (.other event inside))
      (host.polled (.other event inside)) after.router := by
  cases event with
  | receive handle buffer => exact absurd rfl (inside handle buffer)
  | originate handle request payload buffer =>
    obtain ⟨answer, place, sequence, sent, frame⟩ := host.router.originate_frame distance
      { request with payload := payload.length } ⟨host.address, handle⟩ payload buffer rfl
    rw [step, sent] at stepped
    obtain ⟨-, rfl⟩ := Prod.mk.inj (Except.ok.inj stepped)
    show Router.Follows _ _ host.router place.router
    rw [frame]
    exact .of_same rfl rfl rfl
  | poll now =>
    obtain ⟨-, rfl⟩ := Prod.mk.inj (Except.ok.inj stepped)
    exact .of_same rfl rfl rfl
  | addLink device configuration type country =>
    obtain ⟨links, generator, frame⟩ :=
      host.router.addLink_frame device configuration type country
    rw [step, frame] at stepped
    obtain ⟨-, rfl⟩ := Prod.mk.inj (Except.ok.inj stepped)
    exact .of_same rfl rfl rfl
  | add address =>
    rw [step] at stepped
    split at stepped
    · rename_i locations added
      obtain ⟨-, rfl⟩ := Prod.mk.inj (Except.ok.inj stepped)
      refine ⟨rfl, rfl, fun entry member => ?_⟩
      rcases LocationTable.mem_add added member with rfl | old
      · exact .inl rfl
      · exact .inr (.inr ⟨entry, old, rfl⟩)
    · obtain ⟨-, rfl⟩ := Prod.mk.inj (Except.ok.inj stepped)
      exact .of_same rfl rfl rfl
  | remove mid =>
    rw [step] at stepped
    split at stepped
    · rename_i removed
      obtain ⟨-, rfl⟩ := Prod.mk.inj (Except.ok.inj stepped)
      exact ⟨rfl, rfl, fun entry member =>
        .inr (.inr ⟨entry, LocationTable.mem_remove removed member, rfl⟩)⟩
    · obtain ⟨-, rfl⟩ := Prod.mk.inj (Except.ok.inj stepped)
      exact .of_same rfl rfl rfl
  | configure setting value =>
    rw [step] at stepped
    split at stepped <;> obtain ⟨-, rfl⟩ := Prod.mk.inj (Except.ok.inj stepped) <;>
      exact .of_same rfl rfl rfl
  | manage management =>
    obtain ⟨-, rfl⟩ := Prod.mk.inj (Except.ok.inj stepped)
    exact .of_same rfl rfl rfl
  | reseed seed =>
    obtain ⟨generator, frame⟩ := host.router.reseed_frame seed
    rw [step, frame] at stepped
    obtain ⟨-, rfl⟩ := Prod.mk.inj (Except.ok.inj stepped)
    exact .of_same rfl rfl rfl

theorem turn_follows (host : Host) (turn : Turn) : ∃ episode,
    host.turn distance turn = .ok episode ∧ episode.before = host ∧ episode.turn = turn ∧
      Router.Follows host.router.settings.entryLifetime (turn.poll? host) (host.polled turn)
        episode.after.router := by
  cases turn with
  | receive handle buffer handler =>
    obtain ⟨queued, after, sequence, turned, frame⟩ := host.turn_receive distance rfl handler
    have follows := Router.follows_reception distance (host.workplace handle buffer)
    rw [← polled_receive host handle buffer handler] at follows
    refine ⟨_, turned, rfl, rfl, ?_⟩
    rw [frame]
    exact ⟨follows.timer, follows.ticket, follows.ends⟩
  | offer handle buffer sender =>
    obtain ⟨queued, after, sequence, turned, frame⟩ := host.turn_offer distance handle buffer sender
    refine ⟨_, turned, rfl, rfl, ?_⟩
    rw [frame]
    exact .of_same rfl rfl rfl
  | other event inside =>
    obtain ⟨report, after, stepped, turned⟩ := host.turn_other distance event inside
    exact ⟨_, turned, rfl, rfl, follows_step distance stepped inside⟩

end Host
end Turns

/-! ### Runs -/

namespace Instant

variable {latest : Option Instant} {now last : Instant}

theorem sublist_sweeping (latest : Option Instant) (now : Instant) :
    (sweeping latest now).toList.Sublist (latest.toList ++ [now]) := by
  unfold sweeping
  split
  · exact List.sublist_append_right ..
  · exact List.sublist_append_left ..

/-- All instants that the table was swept at are 64-bit numbers. -/
def Counted (latest : Option Instant) : Prop :=
  ∀ last ∈ latest, -0x8000000000000000 ≤ last.millis

/-- After a poll the latest sweep is less than a second ago. -/
theorem recent_of_sweeping (now : Instant) (counted : Counted latest) :
    ∃ last, sweeping latest now = some last ∧ now.millis < last.millis + 1000 := by
  unfold sweeping
  split
  · exact ⟨now, rfl, by omega⟩
  · rename_i early
    cases latest with
    | none => exact absurd rfl early
    | some last =>
      exact ⟨last, rfl, lt_of_not_isRested (counted last rfl) (Bool.eq_false_iff.mpr early)⟩

theorem Counted.sweeping (counted : Counted latest) (lower : -0x8000000000000000 ≤ now.millis) :
    Counted (sweeping latest now) := by
  unfold Instant.sweeping
  split
  · intro last here
    obtain rfl := Option.some.inj here
    exact lower
  · exact counted

end Instant

namespace Router

variable {r polled after : Router} {latest : Option Instant} {lifetime : Duration}
  {now? : Option Instant}

theorem Follows.sweptAt (follows : Follows lifetime now? polled after)
    (sweptAt : polled.SweptAt latest) : after.SweptAt latest :=
  ⟨follows.timer.trans sweptAt.timer, follows.ticket.trans sweptAt.ticket⟩

/-- What is written after a poll was not over at a sweep that came no later than the poll. -/
theorem Follows.current (follows : Follows lifetime now? polled after)
    (current : polled.Current latest) (reaches : ∀ now ∈ now?, now.Reaches lifetime)
    (order : ∀ last ∈ latest, ∀ now ∈ now?, last ≤ now) : after.Current latest := by
  intro last here entry member
  rcases follows.ends entry member with never | ⟨now, polls, ends⟩ | ⟨old, known, same⟩
  · unfold Entry.isAlive
    rw [never]
    rfl
  · have order : last.millis ≤ now.millis := order last here now polls
    have later : last.millis ≤ (now.later lifetime).millis := by
      rw [(reaches now polls).millis_later]
      omega
    have ahead : ¬ now.later lifetime < last := Int.not_lt.mpr later
    unfold Entry.isAlive
    rw [ends]
    simpa [Expiration.passed] using ahead
  · unfold Entry.isAlive
    rw [same]
    exact current last here old known

theorem Current.recent {now : Instant} (current : r.Current (latestSweep latest [now]))
    (counted : Instant.Counted latest) : ∀ entry ∈ r.locations.entries,
      Expiration.cmp (.on ⟨now.millis - 1000⟩) entry.expires = .lt := by
  intro entry member
  obtain ⟨last, here, recent⟩ := now.recent_of_sweeping counted
  have alive := current last here entry member
  unfold Entry.isAlive at alive
  cases ends : entry.expires with
  | never => rfl
  | on ending =>
    rw [ends] at alive
    have lasts : ¬ ending < last := by simpa [Expiration.passed] using alive
    have ahead : last.millis ≤ ending.millis := Int.not_lt.mp lasts
    rw [Expiration.on_lt_on_iff]
    show now.millis - 1000 < ending.millis
    omega

end Router

/-- A poll comes no earlier than the latest sweep behind it, and so do all later ones. -/
theorem sorted_latestSweep {latest now? : Option Instant} {later : List Instant}
    (sorted : (latest.toList ++ (now?.toList ++ later)).Pairwise (· ≤ ·)) :
    ((latestSweep latest now?.toList).toList ++ later).Pairwise (· ≤ ·) ∧
      ∀ last ∈ latestSweep latest now?.toList, ∀ now ∈ now?, last ≤ now := by
  cases now? with
  | none =>
    refine ⟨sorted, fun last here now polls => ?_⟩
    cases polls
  | some now =>
    constructor
    · refine sorted.sublist ?_
      rw [← List.append_assoc]
      exact (Instant.sublist_sweeping latest now).append_right later
    · intro last here other polls
      obtain rfl := Option.some.inj polls
      have here : now.sweeping latest = some last := here
      unfold Instant.sweeping at here
      split at here
      · obtain rfl := Option.some.inj here
        exact Int.le_refl _
      · obtain ⟨-, -, across⟩ := List.pairwise_append.mp sorted
        exact across last (by simp [here]) now (List.mem_cons_self ..)

/-- The lifetime of an entry, from the instant at which the table is polled in the episode. -/
def Episode.Reaches (episode : Episode) : Prop :=
  ∀ now ∈ episode.poll?, now.Reaches episode.before.router.settings.entryLifetime

instance (episode : Episode) : Decidable episode.Reaches :=
  inferInstanceAs (Decidable (∀ now ∈ episode.poll?, _))

/-- No entry was over a second before the instant at which the table was polled in the episode. -/
def Episode.Recent (episode : Episode) : Prop :=
  ∀ now ∈ episode.poll?, ∀ entry ∈ episode.after.router.locations.entries,
    Expiration.cmp (.on ⟨now.millis - 1000⟩) entry.expires = .lt

section Turns

variable {D : Type} [LT D] [LE D] [DecidableLT D] [DecidableLE D] (distance : Point → Point → D)

namespace Host

theorem polled_sweptAt {host : Host} {latest : Option Instant}
    (sweptAt : host.router.SweptAt latest) (turn : Turn) :
    (host.polled turn).SweptAt (latestSweep latest (turn.poll? host).toList) := by
  unfold polled
  cases turn.poll? host with
  | none => exact sweptAt
  | some now => exact sweptAt.poll now

theorem polled_current {host : Host} {latest : Option Instant}
    (sweptAt : host.router.SweptAt latest) (current : host.router.Current latest) (turn : Turn) :
    (host.polled turn).Current (latestSweep latest (turn.poll? host).toList) := by
  unfold polled
  cases turn.poll? host with
  | none => exact current
  | some now => exact current.poll sweptAt now

theorem turns_recent {host : Host} {latest : Option Instant} (turns : List Turn)
    (sweptAt : host.router.SweptAt latest) :
    ∃ history last, host.turns distance turns = .ok (history, last) ∧
      last.router.SweptAt (latestSweep latest (history.filterMap Episode.poll?)) ∧
      (host.router.Current latest → Instant.Counted latest →
        (latest.toList ++ history.filterMap Episode.poll?).Pairwise (· ≤ ·) →
        (∀ episode ∈ history, episode.Reaches) → ∀ episode ∈ history, episode.Recent) := by
  induction turns generalizing host latest with
  | nil =>
    refine ⟨[], host, rfl, sweptAt, fun _ _ _ _ episode none => ?_⟩
    cases none
  | cons turn rest ih =>
    obtain ⟨episode, went, before, same, follows⟩ := host.turn_follows distance turn
    have polls : episode.poll? = turn.poll? host := by rw [Episode.poll?, before, same]
    have sweptAfter := follows.sweptAt (polled_sweptAt sweptAt turn)
    obtain ⟨history, last, further, sweptLast, recent⟩ := ih sweptAfter
    have instants : (episode :: history).filterMap Episode.poll? =
        (turn.poll? host).toList ++ history.filterMap Episode.poll? := by
      rw [List.filterMap_cons, polls]
      cases turn.poll? host <;> rfl
    refine ⟨episode :: history, last, ?_, ?_, ?_⟩
    · simp only [turns, bind, Except.bind, went, further]
      rfl
    · rw [instants, latestSweep, List.foldl_append]
      exact sweptLast
    · intro current counted sorted reaches
      rw [instants] at sorted
      obtain ⟨sortedLater, order⟩ := sorted_latestSweep sorted
      obtain ⟨reachesNow, reachesLater⟩ := List.forall_mem_cons.mp reaches
      unfold Episode.Reaches at reachesNow
      rw [polls, before] at reachesNow
      have currentAfter :=
        follows.current (polled_current sweptAt current turn) reachesNow order
      have countedAfter : Instant.Counted (latestSweep latest (turn.poll? host).toList) := by
        cases here : turn.poll? host with
        | none => exact counted
        | some now => exact counted.sweeping (reachesNow now here).1
      refine List.forall_mem_cons.mpr
        ⟨?_, recent currentAfter countedAfter sortedLater reachesLater⟩
      intro now here
      rw [polls] at here
      rw [here] at currentAfter
      exact currentAfter.recent counted

/-- Whatever a router with an empty table goes through, the next poll sweeps the table if it was
never swept before, or a second after the latest sweep, whichever way the instants go, and then
takes out the entries that are over and counts them. Any other poll changes nothing. The second is
counted in 64 bits, which is how it is counted otherwise but for the last second of these. As long
as the instants do not go back, no entry behind a poll was over a second before it. -/
theorem sweeps_keep_table_recent (r : Router) (slots : List Entry) (address : Mac)
    (turns : List Turn) :
    let host : Host := ⟨{ r with
      locations := .ofSlots slots
      sweep := { period := sweepPeriod }
      sweepTicket := none }, address⟩
    ∃ history last, host.turns distance turns = .ok (history, last) ∧
      let polls := history.filterMap Episode.poll?
      (∀ now : Instant, if now.isRested (latestSweep none polls) then
          ∃ table, last.router.poll now =
              (last.router.locations.entries.countP (!·.isAlive now), { last.router with
                locations := table
                sweep := { started := some now, period := sweepPeriod }
                sweepTicket := some ⟨now⟩ }) ∧
            table.entries = last.router.locations.entries.filter (·.isAlive now) ∧
            table.capacity = last.router.locations.capacity
        else last.router.poll now = (0, last.router)) ∧
      (∀ now : Instant, now.isRested none = true) ∧
      (∀ now latest : Instant, -0x8000000000000000 ≤ latest.millis →
        latest.millis + 1000 < 0x8000000000000000 →
        (now.isRested (some latest) = true ↔ latest.millis + 1000 ≤ now.millis)) ∧
      (polls.Pairwise (· ≤ ·) → (∀ episode ∈ history, episode.Reaches) →
        ∀ episode ∈ history, episode.Recent) := by
  intro host
  have fresh : host.router.SweptAt none := ⟨rfl, rfl⟩
  obtain ⟨history, last, went, sweptAt, recent⟩ := turns_recent distance turns fresh
  refine ⟨history, last, went, fun now => ?_, fun _ => rfl, fun _ _ => Instant.isRested_iff,
    recent (fun last none => by cases none) (fun last none => by cases none)⟩
  rw [sweptAt.poll_eq now]
  split
  · refine ⟨(last.router.locations.expire now).2, ?_, ?_, last.router.locations.capacity_expire now⟩
    · have count := congrArg Prod.fst (last.router.locations.expire_eq now)
      exact congrArg (·, last.router.swept now) count
    · rw [LocationTable.expire_eq]
      rfl
  · rfl

end Host
end Turns

/-- Entries that live for a millisecond outlast the next poll, but not the one a second later. -/
theorem Host.sweeps_keep_table_recent_of_short_lives :
    let own : Mac := ⟨2, 0, 0, 0, 0, 1⟩
    let r : Router := {
      locations := .ofCapacity 2
      links := .ofCapacity 0
      settings := { entryLifetime := .ofMillis 1 } }
    let receive (now : Int) (source : Mid) : Turn :=
      .receive (.ofTime ⟨now⟩) (emptyFrame own source ⟨⟨7⟩, ⟨1⟩⟩) fun _ => .done
    ∃ history last, Host.turns (fun _ _ => (0 : Nat)) ⟨r, own⟩
        [receive 0 ⟨2⟩, receive 999 ⟨3⟩, receive 1000 ⟨4⟩] = .ok (history, last) ∧
      history.filterMap Episode.poll? = [⟨0⟩, ⟨999⟩, ⟨1000⟩] ∧
      history.map (·.after.router.locations.size) = [1, 2, 2] ∧
      (∀ episode ∈ history, episode.Reaches) ∧ (∀ episode ∈ history, episode.Recent) ∧
      last.router.poll ⟨1999⟩ = (0, last.router) := by
  intro own r receive
  obtain ⟨history, last, went, sweeps, -, -, recent⟩ := sweeps_keep_table_recent
    (fun _ _ => (0 : Nat)) r (List.replicate 2 {}) own
    [receive 0 ⟨2⟩, receive 999 ⟨3⟩, receive 1000 ⟨4⟩]
  have told : (Host.turns (fun _ _ => (0 : Nat)) ⟨r, own⟩
      [receive 0 ⟨2⟩, receive 999 ⟨3⟩, receive 1000 ⟨4⟩]).toOption.map (fun answer =>
        (answer.1.filterMap Episode.poll?, answer.1.map (·.after.router.locations.size),
          decide (∀ episode ∈ answer.1, episode.Reaches))) =
      some ([⟨0⟩, ⟨999⟩, ⟨1000⟩], [1, 2, 2], true) := by
    decide +kernel
  have same : Host.turns (fun _ _ => (0 : Nat)) ⟨r, own⟩
      [receive 0 ⟨2⟩, receive 999 ⟨3⟩, receive 1000 ⟨4⟩] = .ok (history, last) := went
  rw [same] at told
  obtain ⟨polls, rest⟩ := Prod.mk.inj (Option.some.inj told)
  obtain ⟨sizes, reaches⟩ := Prod.mk.inj rest
  have reaches := of_decide_eq_true reaches
  rw [polls] at sweeps recent
  have early := sweeps ⟨1999⟩
  rw [if_neg (by decide)] at early
  exact ⟨history, last, same, polls, sizes, reaches, recent (by decide) reaches, early⟩

end GeoRouter
