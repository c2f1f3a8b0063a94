import GeoRouter.Clock.Timer

/-!
# How long a ticket is out of date

A timer tells its generations apart by the instants at which they were armed, and by nothing else.
So a ticket that was made worthless stays so for as long as the timer is not armed at that very
instant again: then it is as good as the new one, and lets the timer fire a second time.
-/

namespace GeoRouter

inductive TimerCall where
  | arm (now : Instant)
  | cancel
  | fire (ticket : Ticket) (now : Instant)
  deriving DecidableEq

namespace Timer

def perform (timer : Timer) : TimerCall → Timer
  | .arm now => (timer.arm now).1
  | .cancel => timer.cancel
  | .fire ticket now => (timer.fire ticket now).2

/-- The timer after a run of calls. -/
def run (timer : Timer) (calls : List TimerCall) : Timer := calls.foldl perform timer

/-- Whether a call ends the generation of the timer: it is armed again, cancelled or fired. -/
def outdates (timer : Timer) : TimerCall → Bool
  | .arm _ | .cancel => true
  | .fire ticket now => (timer.fire ticket now).1

/-- Whether a call fires the timer for a ticket. -/
def firesFor (timer : Timer) (ticket : Ticket) : TimerCall → Bool
  | .fire shown now => shown = ticket && (timer.fire shown now).1
  | _ => false

/-- How often a run of calls fires the timer for a ticket. -/
def firings (timer : Timer) (ticket : Ticket) : List TimerCall → Nat
  | [] => 0
  | call :: rest =>
    (timer.firesFor ticket call).toNat + (timer.perform call).firings ticket rest

/-! ### Single calls -/

theorem isCurrent_arm {timer : Timer} {now : Instant} {ticket : Ticket} :
    (timer.arm now).1.isCurrent ticket = true ↔ now = ticket.started := by
  simp [arm, isCurrent]

theorem isCurrent_cancel (timer : Timer) (ticket : Ticket) :
    timer.cancel.isCurrent ticket = false := rfl

theorem fire_of_stale {timer : Timer} {ticket : Ticket} (stale : timer.isCurrent ticket = false)
    (now : Instant) : timer.fire ticket now = (false, timer) := by
  rw [fire, stale]
  rfl

theorem fire_cases (timer : Timer) (ticket : Ticket) (now : Instant) :
    timer.isCurrent ticket = true ∧ timer.fire ticket now = (true, timer.cancel) ∨
      timer.fire ticket now = (false, timer) := by
  unfold fire
  split
  · rename_i fires
    exact .inl ⟨(Bool.and_eq_true_iff.mp fires).1, rfl⟩
  · exact .inr rfl

/-- A call that ends a generation leaves no ticket current but that of the instant at which it arms
the timer. -/
theorem stale_of_outdated {timer : Timer} {call : TimerCall} (outdated : timer.outdates call = true)
    {ticket : Ticket} (apart : call ≠ .arm ticket.started) :
    (timer.perform call).isCurrent ticket = false := by
  cases call with
  | arm now =>
    refine Bool.eq_false_iff.mpr fun current => apart ?_
    rw [isCurrent_arm.mp current]
  | cancel => exact timer.isCurrent_cancel ticket
  | fire shown now =>
    rcases timer.fire_cases shown now with ⟨-, fired⟩ | waits
    · rw [perform, fired]
      exact timer.isCurrent_cancel ticket
    · rw [outdates, waits] at outdated
      cases outdated

theorem stale_perform {timer : Timer} {ticket : Ticket} (stale : timer.isCurrent ticket = false)
    {call : TimerCall} (apart : call ≠ .arm ticket.started) :
    (timer.perform call).isCurrent ticket = false := by
  cases outdated : timer.outdates call with
  | true => exact stale_of_outdated outdated apart
  | false =>
    -- Only a call to fire the timer can come to nothing, and then it leaves the timer alone.
    cases call with
    | arm | cancel => cases outdated
    | fire shown now =>
      rcases timer.fire_cases shown now with ⟨-, fired⟩ | waits
      · rw [outdates, fired] at outdated
        cases outdated
      · rw [perform, waits]
        exact stale

theorem firesFor_le (timer : Timer) (ticket : Ticket) (call : TimerCall) :
    (timer.firesFor ticket call).toNat + ((timer.perform call).isCurrent ticket).toNat ≤
      (timer.isCurrent ticket).toNat + (call == .arm ticket.started).toNat := by
  cases call with
  | arm now =>
    have same : (TimerCall.arm now == .arm ticket.started) =
        (timer.arm now).1.isCurrent ticket := by
      rw [Bool.eq_iff_iff, isCurrent_arm, beq_iff_eq, TimerCall.arm.injEq]
    rw [same]
    exact Nat.le_trans (Nat.le_of_eq (Nat.zero_add _)) (Nat.le_add_left ..)
  | cancel => exact Nat.zero_le _
  | fire shown now =>
    rcases timer.fire_cases shown now with ⟨current, fired⟩ | waits
    · rw [firesFor, perform, fired, isCurrent_cancel, Bool.and_true]
      by_cases same : shown = ticket
      · rw [← same, current]
        exact Nat.le_trans (Bool.toNat_le _) (Nat.le_add_right ..)
      · rw [decide_eq_false same]
        exact Nat.zero_le _
    · rw [firesFor, perform, waits, Bool.and_false]
      exact Nat.le_of_eq (Nat.zero_add _)

/-! ### Runs -/

theorem run_append (timer : Timer) (earlier later : List TimerCall) :
    timer.run (earlier ++ later) = (timer.run earlier).run later :=
  List.foldl_append

theorem stale_run {timer : Timer} {ticket : Ticket} (stale : timer.isCurrent ticket = false)
    {calls : List TimerCall} (apart : .arm ticket.started ∉ calls) :
    (timer.run calls).isCurrent ticket = false := by
  induction calls generalizing timer with
  | nil => exact stale
  | cons call rest ih =>
    have first := stale_perform stale (Ne.symm (List.ne_of_not_mem_cons apart))
    exact ih first (List.not_mem_of_not_mem_cons apart)

/-- For a ticket a timer fires as often as it was armed at the instant of the ticket, at the
most. -/
theorem firings_le (timer : Timer) (ticket : Ticket) (calls : List TimerCall) :
    timer.firings ticket calls ≤
      (timer.isCurrent ticket).toNat + calls.count (.arm ticket.started) := by
  induction calls generalizing timer with
  | nil => exact Nat.zero_le _
  | cons call rest ih =>
    have first := timer.firesFor_le ticket call
    have further := ih (timer.perform call)
    have counted : (if call == .arm ticket.started then 1 else 0) =
        (call == .arm ticket.started).toNat := by
      cases call == .arm ticket.started <;> rfl
    rw [firings, List.count_cons, counted]
    omega

/-- Once the timer was armed again, cancelled or fired, the ticket of an arming is never current
again and fires nothing, just if the timer is not armed at the same instant again. In any case it
fires for that ticket at most once for each time that it is armed at that instant, so that it does
so at most once if that never happens again. -/
theorem outdated_for_good_iff (timer : Timer) (start : Instant) (calls : List TimerCall) :
    let armed := (timer.arm start).1
    let ticket := (timer.arm start).2
    ((∀ earlier call later rest, calls = earlier ++ call :: later ++ rest →
        (armed.run earlier).outdates call = true →
        (armed.run (earlier ++ call :: later)).isCurrent ticket = false ∧
          ∀ now, (armed.run (earlier ++ call :: later)).fire ticket now =
            (false, armed.run (earlier ++ call :: later))) ↔
      .arm start ∉ calls) ∧
    armed.firings ticket calls ≤ 1 + calls.count (.arm start) := by
  intro armed ticket
  refine ⟨⟨?_, ?_⟩, ?_⟩
  · intro stale again
    obtain ⟨earlier, rest, rfl⟩ := List.append_of_mem again
    have split : earlier ++ .arm start :: rest = earlier ++ .arm start :: [] ++ rest := by simp
    obtain ⟨outdated, -⟩ := stale earlier (.arm start) [] rest split rfl
    rw [run_append] at outdated
    have current : ((armed.run earlier).run [.arm start]).isCurrent ticket = true :=
      isCurrent_arm.mpr rfl
    rw [current] at outdated
    cases outdated
  · rintro apart earlier call later rest rfl outdated
    have first : call ≠ .arm start := by
      rintro rfl
      exact apart (by simp)
    have others : .arm start ∉ later := fun again => apart (by simp [again])
    have stale : (armed.run (earlier ++ call :: later)).isCurrent ticket = false := by
      rw [run_append]
      exact stale_run (stale_of_outdated outdated first) others
    exact ⟨stale, fire_of_stale stale⟩
  · have bound := armed.firings_le ticket calls
    have current : armed.isCurrent ticket = true := isCurrent_arm.mpr rfl
    rw [current] at bound
    exact bound

/-- A timer that is cancelled and then armed at the instant of an earlier ticket fires for that
ticket, and so does one that already fired for it. -/
theorem outdated_ticket_fires_again :
    (¬ ∀ (timer : Timer) (start : Instant) (earlier later : List TimerCall) (call : TimerCall),
      ((timer.arm start).1.run earlier).outdates call = true →
      ((timer.arm start).1.run (earlier ++ call :: later)).isCurrent (timer.arm start).2 = false) ∧
    ¬ ∀ (timer : Timer) (start : Instant) (calls : List TimerCall),
      (timer.arm start).1.firings (timer.arm start).2 calls ≤ 1 := by
  let timer : Timer := { period := .ofMillis 100 }
  constructor
  · intro stale
    have outdated := stale timer ⟨0⟩ [] [.arm ⟨0⟩] .cancel rfl
    have current : (((timer.arm ⟨0⟩).1.run [.cancel, .arm ⟨0⟩]).isCurrent ⟨⟨0⟩⟩) = true := by
      decide
    exact absurd (current.symm.trans outdated) (by decide)
  · intro once
    have bound := once timer ⟨0⟩ [.fire ⟨⟨0⟩⟩ ⟨100⟩, .arm ⟨0⟩, .fire ⟨⟨0⟩⟩ ⟨200⟩]
    exact absurd bound (by decide)

end Timer
end GeoRouter
