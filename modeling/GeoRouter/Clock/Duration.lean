/-!
# Durations

A span of time in nanoseconds. The router counts in milliseconds, which it keeps in 64-bit words;
the two readings of a duration as such a word are here.
-/

namespace GeoRouter

structure Duration where
  nanos : Nat
  deriving DecidableEq

namespace Duration

def ofMillis (n : Nat) : Duration := ⟨n * 1000000⟩

def ofSeconds (n : Nat) : Duration := ⟨n * 1000000000⟩

def millis (d : Duration) : Nat := d.nanos / 1000000

def seconds (d : Duration) : Nat := d.nanos / 1000000000

def subsecondNanos (d : Duration) : Nat := d.nanos % 1000000000

/-- The milliseconds as an unsigned 64-bit word, which wraps around. -/
def unsignedMillis (d : Duration) : Nat := d.millis % UInt64.size

/-- The milliseconds as a signed 64-bit word, which wraps around. -/
def signedMillis (d : Duration) : Int := Int.bmod d.millis UInt64.size

instance : LT Duration := ⟨fun a b => a.nanos < b.nanos⟩
instance : LE Duration := ⟨fun a b => a.nanos ≤ b.nanos⟩
instance : DecidableLT Duration := fun a b => inferInstanceAs (Decidable (a.nanos < b.nanos))
instance : DecidableLE Duration := fun a b => inferInstanceAs (Decidable (a.nanos ≤ b.nanos))

end Duration
end GeoRouter
