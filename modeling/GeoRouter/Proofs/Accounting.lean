import Mathlib.Algebra.GroupWithZero.Nat
import GeoRouter.Proofs.AtMostOnce
import GeoRouter.Proofs.Turns

/-!
# No packet is dropped silently

Every frame for the station ends in one of three ways, and each of them is counted where the frame
ends. `Episode.Booked` says for one turn what the counters show of it; a history `Accounts` for the
counters if they show what all of its turns add up to, which carries over from turn to turn.
-/

namespace GeoRouter

def Outcome.causes : Outcome → List Cause
  | .discarded cause => [cause]
  | _ => []

namespace Counters

def ways (counters : Counters) : List Nat :=
  [counters.delivered, counters.forwarded, counters.discarded]

section Book

variable (counters : Counters) (outcome : Outcome)

theorem sum_ways_book (ends : outcome ≠ .ignored) :
    (counters.book outcome).ways.sum = counters.ways.sum + 1 := by
  cases outcome with
  | ignored => exact absurd rfl ends
  | delivered | forwarded | discarded =>
    simp only [book, discard, ways, List.sum_cons, List.sum_nil]
    omega

theorem delivered_book :
    (counters.book outcome).delivered = counters.delivered + outcome.packets.length := by
  cases outcome <;> rfl

theorem forwarded_book : counters.forwarded ≤ (counters.book outcome).forwarded := by
  cases outcome <;> simp [book, discard]

theorem discarded_book :
    (counters.book outcome).discarded = counters.discarded + outcome.causes.length := by
  cases outcome <;> rfl

theorem duplicates_book : (counters.book outcome).duplicates =
    counters.duplicates + outcome.causes.count .duplicate := by
  cases outcome with
  | discarded cause => simp [book, discard, Outcome.causes, List.count_singleton]
  | ignored | delivered | forwarded => rfl

theorem lastCause_book : (counters.book outcome).lastCause =
    outcome.causes.getLast?.or counters.lastCause := by
  cases outcome <;> rfl

end Book

instance : LE Counters where
  le a b := a.delivered ≤ b.delivered ∧ a.forwarded ≤ b.forwarded ∧ a.sent ≤ b.sent ∧
    a.duplicates ≤ b.duplicates ∧ a.discarded ≤ b.discarded ∧ a.regenerated ≤ b.regenerated

theorem le_trans {a b c : Counters} (first : a ≤ b) (second : b ≤ c) : a ≤ c := by
  obtain ⟨delivered, forwarded, sent, duplicates, discarded, regenerated⟩ := first
  obtain ⟨delivered', forwarded', sent', duplicates', discarded', regenerated'⟩ := second
  exact ⟨Nat.le_trans delivered delivered', Nat.le_trans forwarded forwarded',
    Nat.le_trans sent sent', Nat.le_trans duplicates duplicates',
    Nat.le_trans discarded discarded', Nat.le_trans regenerated regenerated'⟩

end Counters

/-! ### One reception -/

namespace Router

section Reception

variable {D : Type} [LT D] [LE D] [DecidableLT D] [DecidableLE D] (distance : Point → Point → D)

end Reception
end Router

section Turns

variable {D : Type} [LT D] [LE D] [DecidableLT D] [DecidableLE D] (distance : Point → Point → D)

end Turns

/-! ### One turn -/

namespace Episode

/-- The turn brought a frame that is for the station and carries its protocol. -/
def admits (episode : Episode) : Bool :=
  match episode.turn with
  | .receive _ buffer _ => decide (Admitted episode.before.address buffer.bytes)
  | _ => false

/-- The counters after a turn are those before it with the end of the frame and the packets of the
router, and with an address that was given up. -/
structure Booked (episode : Episode) : Prop where
  calls : episode.calls = episode.outcome.packets
  admits : episode.outcome = .ignored ↔ episode.admits = false
  counters : ∃ regenerated, episode.before.router.counters.regenerated ≤ regenerated ∧
    episode.after.router.counters = { episode.before.router.counters.book episode.outcome with
      regenerated
      sent := episode.before.router.counters.sent + episode.queued }

end Episode

/-- The counters have grown by what the turns of a history add up to. -/
structure Accounts (before : Counters) (history : List Episode) (after : Counters) : Prop where
  frames : after.ways.sum = before.ways.sum + history.countP (·.admits)
  delivered : after.delivered = before.delivered + (history.flatMap (·.calls)).length
  forwarded : before.forwarded ≤ after.forwarded
  discarded : after.discarded = before.discarded + (history.flatMap (·.outcome.causes)).length
  duplicates : after.duplicates =
    before.duplicates + (history.flatMap (·.outcome.causes)).count .duplicate
  lastCause : after.lastCause = (history.flatMap (·.outcome.causes)).getLast?.or before.lastCause
  sent : after.sent = before.sent + (history.map (·.queued)).sum
  regenerated : before.regenerated ≤ after.regenerated

namespace Accounts

variable {a b c : Counters} {first second : List Episode}

theorem nil (a : Counters) : Accounts a [] a where
  frames := rfl
  delivered := rfl
  forwarded := Nat.le_refl _
  discarded := rfl
  duplicates := rfl
  lastCause := rfl
  sent := rfl
  regenerated := Nat.le_refl _

theorem append (front : Accounts a first b) (back : Accounts b second c) :
    Accounts a (first ++ second) c where
  frames := by rw [back.frames, front.frames, List.countP_append, Nat.add_assoc]
  delivered := by
    rw [back.delivered, front.delivered, List.flatMap_append, List.length_append, Nat.add_assoc]
  forwarded := Nat.le_trans front.forwarded back.forwarded
  discarded := by
    rw [back.discarded, front.discarded, List.flatMap_append, List.length_append, Nat.add_assoc]
  duplicates := by
    rw [back.duplicates, front.duplicates, List.flatMap_append, List.count_append, Nat.add_assoc]
  lastCause := by
    rw [back.lastCause, front.lastCause, List.flatMap_append, List.getLast?_append,
      Option.or_assoc]
  sent := by rw [back.sent, front.sent, List.map_append, List.sum_append, Nat.add_assoc]
  regenerated := Nat.le_trans front.regenerated back.regenerated

theorem le (accounts : Accounts a first b) : a ≤ b := by
  refine ⟨?_, accounts.forwarded, ?_, ?_, ?_, accounts.regenerated⟩
  · rw [accounts.delivered]
    exact Nat.le_add_right ..
  · rw [accounts.sent]
    exact Nat.le_add_right ..
  · rw [accounts.duplicates]
    exact Nat.le_add_right ..
  · rw [accounts.discarded]
    exact Nat.le_add_right ..

end Accounts

namespace Episode.Booked

variable {episode : Episode}

theorem admits_of_ended (booked : episode.Booked) (ended : episode.outcome ≠ .ignored) :
    episode.admits = true := by
  cases passed : episode.admits with
  | true => rfl
  | false => exact absurd (booked.admits.mpr passed) ended

theorem accounts (booked : episode.Booked) :
    Accounts episode.before.router.counters [episode] episode.after.router.counters := by
  obtain ⟨regenerated, grown, counted⟩ := booked.counters
  rw [counted]
  constructor
  · by_cases ended : episode.outcome = .ignored
    · rw [ended, List.countP_singleton, booked.admits.mp ended]
      rfl
    · rw [List.countP_singleton, booked.admits_of_ended ended]
      exact Counters.sum_ways_book _ _ ended
  · rw [List.flatMap_singleton, booked.calls]
    exact Counters.delivered_book _ _
  · exact Counters.forwarded_book _ _
  · rw [List.flatMap_singleton]
    exact Counters.discarded_book _ _
  · rw [List.flatMap_singleton]
    exact Counters.duplicates_book _ _
  · rw [List.flatMap_singleton]
    exact Counters.lastCause_book _ _
  · rfl
  · exact grown

end Episode.Booked

section Episodes

variable {D : Type} [LT D] [LE D] [DecidableLT D] [DecidableLE D] (distance : Point → Point → D)

end Episodes

end GeoRouter
