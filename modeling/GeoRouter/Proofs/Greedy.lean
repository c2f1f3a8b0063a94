import Mathlib.Data.List.Induction
import Mathlib.Order.Lattice
import GeoRouter.Router.Greedy

/-!
# The neighbour that is chosen

Going through the neighbours leaves the first one than which none is closer to the destination.
Where distances are ordered, the router thus sends a packet to the closest neighbour, and only if
that is closer than the router itself.
-/

namespace GeoRouter

section Choice

variable {D : Type} [LinearOrder D]

/-- A candidate that comes behind farther ones alone, and in front of none that is closer. -/
inductive Nearest (best : Mid × D) : List (Mid × D) → Prop where
  | first {earlier later : List (Mid × D)} (farther : ∀ other ∈ earlier, best.2 < other.2)
    (noCloser : ∀ other ∈ later, best.2 ≤ other.2) : Nearest best (earlier ++ best :: later)

theorem Nearest.mem {best : Mid × D} {candidates : List (Mid × D)}
    (nearest : Nearest best candidates) : best ∈ candidates := by
  cases nearest
  exact List.mem_append_right _ (List.mem_cons_self ..)

theorem Nearest.le {best other : Mid × D} {candidates : List (Mid × D)}
    (nearest : Nearest best candidates) (member : other ∈ candidates) : best.2 ≤ other.2 := by
  cases nearest with
  | first farther noCloser =>
    rcases List.mem_append.mp member with front | back
    · exact le_of_lt (farther other front)
    · rcases List.mem_cons.mp back with rfl | back
      · exact le_refl _
      · exact noCloser other back

theorem nearest_concat (candidates : List (Mid × D)) (last : Mid × D) :
    nearest (candidates ++ [last]) = match nearest candidates with
      | none => some last
      | some best => if best.2 ≤ last.2 then some best else some last := by
  rw [nearest, List.foldl_append]
  rfl

theorem nearest_cases (candidates : List (Mid × D)) :
    (candidates = [] ∧ nearest candidates = none) ∨
      ∃ best, nearest candidates = some best ∧ Nearest best candidates := by
  induction candidates using List.reverseRecOn with
  | nil => exact .inl ⟨rfl, rfl⟩
  | append_singleton candidates last ih =>
    -- The search keeps what it has unless the next candidate is closer.
    right
    rw [nearest_concat]
    rcases ih with ⟨rfl, none⟩ | ⟨best, found, nearest⟩
    · have alone : Nearest last ([] ++ last :: []) := .first nofun nofun
      rw [none]
      exact ⟨last, rfl, alone⟩
    · rw [found]
      dsimp only
      split
      · rename_i kept
        refine ⟨best, rfl, ?_⟩
        cases nearest with
        | @first earlier later farther noCloser =>
          rw [List.append_assoc, List.cons_append]
          refine .first farther fun other member => ?_
          rcases List.mem_append.mp member with before | here
          · exact noCloser other before
          · rw [List.mem_singleton.mp here]
            exact kept
      · rename_i closer
        have farther : ∀ other ∈ candidates, last.2 < other.2 := fun other member =>
          lt_of_lt_of_le (not_le.mp closer) (nearest.le member)
        have last_nearest : Nearest last (candidates ++ last :: []) := .first farther nofun
        exact ⟨last, rfl, last_nearest⟩

namespace LocationTable

variable {table : LocationTable} {distance : Point → Point → D} {own destination : Point}
  {tc : TrafficClass}

/-- The neighbour that a packet is sent to is closer to the destination than the router, and no
other one is closer than that. -/
theorem closest_of_nextHop {mid : Mid}
    (chosen : table.nextHop distance own destination tc = .neighbour mid) :
    ∃ entry ∈ table.neighbours, entry.mid = mid ∧
      distance entry.position.point destination < distance own destination ∧
      ∀ other ∈ table.neighbours,
        distance entry.position.point destination ≤ distance other.position.point destination := by
  unfold nextHop at chosen
  rcases nearest_cases (table.neighbours.map fun entry =>
      (entry.mid, distance entry.position.point destination)) with
    ⟨-, none⟩ | ⟨best, found, nearest⟩
  · simp only [none] at chosen
    split at chosen <;> cases chosen
  · obtain ⟨entry, member, rfl⟩ := List.mem_map.mp nearest.mem
    simp only [found] at chosen
    split at chosen
    · rename_i closer
      obtain rfl := NextHop.neighbour.inj chosen
      refine ⟨entry, member, rfl, closer, fun other known => ?_⟩
      exact nearest.le (List.mem_map_of_mem known)
    · split at chosen <;> cases chosen

theorem nextHop_ne_buffer (table : LocationTable) (distance : Point → Point → D)
    (own destination : Point) (unstored : tc.storeCarryForward = false) :
    table.nextHop distance own destination tc ≠ .buffer := by
  simp only [nextHop, unstored, Bool.false_eq_true, if_false]
  split
  · split <;> nofun
  · nofun

/-- A neighbour that is closer than the router and than all neighbours with other identifiers is
where a packet is sent. -/
theorem nextHop_of_closest {entry : Entry} (member : entry ∈ table.neighbours)
    (closer : distance entry.position.point destination < distance own destination)
    (closest : ∀ other ∈ table.neighbours, other.mid ≠ entry.mid →
      distance entry.position.point destination < distance other.position.point destination) :
    table.nextHop distance own destination tc = .neighbour entry.mid := by
  have candidate := List.mem_map_of_mem (f := fun entry : Entry =>
    (entry.mid, distance entry.position.point destination)) member
  unfold nextHop
  rcases nearest_cases (table.neighbours.map fun entry =>
      (entry.mid, distance entry.position.point destination)) with
    ⟨empty, -⟩ | ⟨best, found, nearest⟩
  · rw [empty] at candidate
    cases candidate
  · have near := nearest.le candidate
    obtain ⟨other, known, rfl⟩ := List.mem_map.mp nearest.mem
    have same : other.mid = entry.mid := Classical.byContradiction fun apart =>
      absurd near (not_le.mpr (closest other known apart))
    simp only [found]
    rw [if_pos (lt_of_le_of_lt near closer), same]

end LocationTable
end Choice
end GeoRouter
