/-!
# Order of wrapping counters

A counter of `w` bits that starts again at zero has no order, but of two values that are not far
apart one can be told to be the newer one.
-/

namespace GeoRouter.Wraparound

def half (w : Nat) : Nat := (BitVec.allOnes w).toNat / 2

/-- `a` is ahead of `b` by at most half the range, or behind it by more than that, in which case
the counter has wrapped around in between. -/
def newer {w : Nat} (a b : BitVec w) : Bool :=
  (b.toNat < a.toNat && a.toNat - b.toNat ≤ half w) ||
    (a.toNat < b.toNat && half w < b.toNat - a.toNat)

end GeoRouter.Wraparound
