import GeoRouter.Clock.Instant

/-!
# Timers

A timer is armed at an instant and comes due a period later. Arming hands out a ticket, and the
timer fires only for the ticket it was armed with last: arming again, cancelling or firing makes
older tickets worthless without anyone having to collect them.
-/

namespace GeoRouter

/-- A deferred action and the instant it was last armed at. -/
structure Timer where
  started : Option Instant := none
  period : Duration
  deriving DecidableEq

/-- The right to fire a timer that was armed at an instant. -/
structure Ticket where
  started : Instant
  deriving DecidableEq

namespace Timer

def arm (timer : Timer) (now : Instant) : Timer × Ticket :=
  ({ timer with started := some now }, ⟨now⟩)

def cancel (timer : Timer) : Timer := { timer with started := none }

def deadline (timer : Timer) : Expiration :=
  .ofOption (timer.started.map (·.later timer.period))

def isCurrent (timer : Timer) (ticket : Ticket) : Bool :=
  timer.started = some ticket.started

def isDue (timer : Timer) (now : Instant) : Bool :=
  Expiration.cmp (.on now) timer.deadline ≠ .lt

/-- Fires and disarms the timer if the ticket is current and the deadline has come. -/
def fire (timer : Timer) (ticket : Ticket) (now : Instant) : Bool × Timer :=
  if timer.isCurrent ticket && timer.isDue now then (true, timer.cancel) else (false, timer)

end Timer
end GeoRouter
