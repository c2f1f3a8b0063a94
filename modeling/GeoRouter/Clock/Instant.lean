import GeoRouter.Clock.Duration

/-!
# Instants and expirations

A point in time is a signed number of milliseconds from an arbitrary reference, which is reckoned in
64 bits and so wraps around at their ends. An expiration is an instant or never, and never comes
after every instant.
-/

namespace GeoRouter

structure Instant where
  millis : Int
  deriving DecidableEq

namespace Instant

/-- The instant that is told by the 64-bit word of a number of milliseconds. -/
def ofMillis (n : Int) : Instant := ⟨Int.bmod n UInt64.size⟩

def ofSeconds (n : Int) : Instant := .ofMillis (n * 1000)

/-- A reading of the wall clock, in nanoseconds from the Unix epoch, which is the reference point.
A clock that stands before the epoch is taken to stand at it. -/
def ofUnixNanos (n : Int) : Instant := .ofMillis (n.toNat / 1000000 : Nat)

def seconds (t : Instant) : Int := t.millis.tdiv 1000

/-- The milliseconds beyond the whole seconds, with the sign of the instant. -/
def subsecondMillis (t : Instant) : Int := t.millis.tmod 1000

def text (t : Instant) : String := s!"{t.seconds}.{t.subsecondMillis}s"

def later (t : Instant) (d : Duration) : Instant := .ofMillis (t.millis + d.signedMillis)

def earlier (t : Instant) (d : Duration) : Instant := .ofMillis (t.millis - d.signedMillis)

def between (a b : Instant) : Duration :=
  .ofMillis (Int.bmod (a.millis - b.millis) UInt64.size).natAbs

instance : LT Instant := ⟨fun a b => a.millis < b.millis⟩
instance : LE Instant := ⟨fun a b => a.millis ≤ b.millis⟩
instance : DecidableLT Instant := fun a b => inferInstanceAs (Decidable (a.millis < b.millis))
instance : DecidableLE Instant := fun a b => inferInstanceAs (Decidable (a.millis ≤ b.millis))
instance : Ord Instant := ⟨fun a b => compare a.millis b.millis⟩

end Instant

inductive Expiration where
  | on (t : Instant)
  | never
  deriving DecidableEq

namespace Expiration

def ofOption : Option Instant → Expiration
  | some t => .on t
  | none => .never

def cmp : Expiration → Expiration → Ordering
  | .never, .never => .eq
  | .never, .on _ => .gt
  | .on _, .never => .lt
  | .on a, .on b => compare a b

instance : Ord Expiration := ⟨cmp⟩

/-- The later of two expirations, the second one if they are the same. -/
def latest (a b : Expiration) : Expiration := if cmp a b = .gt then a else b

/-- Whether the end has passed at `now`. The instant of the end itself has not. -/
def passed (e : Expiration) (now : Instant) : Bool :=
  match e with
  | .on t => decide (t < now)
  | .never => false

end Expiration
end GeoRouter
