import GeoRouter.Proofs.Collision
import GeoRouter.Proofs.Rejection
import GeoRouter.Proofs.Sweeps

/-!
# Packets that do not get in each other's way

Two packets of different stations that are for this one may come in either order at an instant. Each
step of learning the one commutes with each step of learning the other: entries enter at places of
their own, and are overwritten at places of their own. What is counted adds up, and the table is not
swept a second time, so that only the cause that was noted last tells the two orders apart.
-/

namespace GeoRouter

/-! ### Items -/

namespace SortedStore

variable {α κ : Type}

section Insertion

variable [LT κ] [DecidableLT κ] {key : α → κ} {a b : α}

variable [IsStrictTotalOrder κ (· < ·)]

end Insertion
end SortedStore

/-! ### Entries -/

namespace LocationTable

variable {table : LocationTable} {f g : Entry → Entry} {mid : Mid} {address other : Address}

/-- There is a slot for each of two stations that has no entry. -/
def HasRoomForBoth (table : LocationTable) (one two : Mid) : Prop :=
  table.size + [one, two].countP (fun mid => (table.find? mid).isNone) ≤ table.capacity

theorem HasRoomForBoth.symm {one two : Mid} (room : table.HasRoomForBoth one two) :
    table.HasRoomForBoth two one := by
  unfold HasRoomForBoth at room ⊢
  rw [(List.Perm.swap one two []).countP_eq]
  exact room

theorem HasRoomForBoth.left {one two : Mid} (room : table.HasRoomForBoth one two) :
    table.HasRoom one := by
  unfold HasRoomForBoth at room
  cases found : table.find? one with
  | some entry => exact .inl (by rw [found]; rfl)
  | none =>
    right
    rw [List.countP_cons, found, Option.isNone_none, if_pos rfl] at room
    unfold Full
    omega

section Learning

variable {h k : Headers} (now : Instant) (lifetime : Duration)

/-- The table with the source of a packet entered, if need be, and its entry overwritten. -/
def acquainted (table : LocationTable) (now : Instant) (lifetime : Duration) (h : Headers) :
    LocationTable :=
  (table.entered h.extended.source.address).teach h now lifetime

end Learning
end LocationTable

namespace Router

variable {r : Router} {h : Headers}

section Two

variable {p q : FramedPacket} (apart : p.headers.origin ≠ q.headers.origin) (now : Instant)
include apart

end Two

section Reception

variable {D : Type} [LT D] [LE D] [DecidableLT D] [DecidableLE D] (distance : Point → Point → D)

end Reception

/-! ### Polls at one instant -/

end Router

/-! ### Turns in either order -/

section Turns

variable {D : Type} [LT D] [LE D] [DecidableLT D] [DecidableLE D] (distance : Point → Point → D)

namespace Host

variable {handler : FramedPacket → Conduct} (silent : ∀ packet, (handler packet).Silent)
include silent

end Host
end Turns

end GeoRouter
