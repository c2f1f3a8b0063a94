import GeoRouter.Proofs.Greedy
import GeoRouter.Proofs.Stations

/-!
# Which neighbour is preferred

Entries stand in the order of their identifiers, so that the first of the closest neighbours is the
one with the lowest identifier. That one is the next hop if it is closer than the router, and without
a neighbour as close as that the traffic class decides. What is known of other stations counts for
nothing.
-/

namespace GeoRouter

section Choice

variable {D : Type} [LinearOrder D]

namespace LocationTable

/-- A neighbour closer to the destination than `own` is, with none closer than that and none as
close that has a lower identifier. -/
structure Prefers (table : LocationTable) (distance : Point → Point → D) (own destination : Point)
    (entry : Entry) : Prop where
  known : entry ∈ table.entries
  neighbour : entry.neighbour = true
  closer : distance entry.position.point destination < distance own destination
  closest : ∀ other ∈ table.entries, other.neighbour = true →
    distance entry.position.point destination ≤ distance other.position.point destination
  lowest : ∀ other ∈ table.entries, other.neighbour = true →
    distance other.position.point destination = distance entry.position.point destination →
    entry.mid = other.mid ∨ entry.mid < other.mid

variable {table : LocationTable} {distance : Point → Point → D} {own destination : Point}

theorem mem_neighbours {entry : Entry} :
    entry ∈ table.neighbours ↔ entry ∈ table.entries ∧ entry.neighbour = true :=
  List.mem_filter

theorem Prefers.mid_eq {one two : Entry} (first : table.Prefers distance own destination one)
    (second : table.Prefers distance own destination two) : one.mid = two.mid := by
  have near := first.closest two second.known second.neighbour
  have far := second.closest one first.known first.neighbour
  have same := le_antisymm near far
  rcases first.lowest two second.known second.neighbour same.symm with equal | below
  · exact equal
  · rcases second.lowest one first.known first.neighbour same with equal | above
    · exact equal.symm
    · exact absurd (Trans.trans below above : one.mid < one.mid) (irrefl _)

theorem Ordered.prefers_of_nearest (ordered : table.Ordered) {best : Mid × D}
    (nearest : Nearest best (table.neighbours.map fun entry =>
      (entry.mid, distance entry.position.point destination)))
    (closer : best.2 < distance own destination) :
    ∃ entry, table.Prefers distance own destination entry ∧ entry.mid = best.1 := by
  have sorted : SortedStore.Sorted Entry.mid table.neighbours :=
    SortedStore.Sorted.filter ordered (·.neighbour)
  generalize split : (table.neighbours.map fun entry =>
    (entry.mid, distance entry.position.point destination)) = candidates at nearest
  have least : ∀ other ∈ candidates, best.2 ≤ other.2 := by
    intro other member
    exact nearest.le member
  cases nearest with
  | @first earlier later farther noCloser =>
    obtain ⟨before, rest, parted, rfl, behind⟩ := List.map_eq_append_iff.mp split
    obtain ⟨entry, after, rfl, rfl, rfl⟩ := List.map_eq_cons_iff.mp behind
    have member : entry ∈ table.neighbours := by simp [parted]
    have distances : ∀ other ∈ table.entries, other.neighbour = true →
        distance entry.position.point destination ≤ distance other.position.point destination := by
      intro other known direct
      apply least (other.mid, distance other.position.point destination)
      rw [← split]
      exact List.mem_map_of_mem (mem_neighbours.mpr ⟨known, direct⟩)
    obtain ⟨known, direct⟩ := mem_neighbours.mp member
    refine ⟨entry, ⟨known, direct, closer, distances, ?_⟩, rfl⟩
    intro other knownToo directToo equal
    have memberToo : other ∈ before ++ entry :: after := by
      rw [← parted]
      exact mem_neighbours.mpr ⟨knownToo, directToo⟩
    -- Candidates in front of the one kept are farther away, and those behind it have greater
    -- identifiers.
    rcases List.mem_append.mp memberToo with front | back
    · have away := farther _ (List.mem_map_of_mem front)
      rw [equal] at away
      exact absurd away (lt_irrefl _)
    · rcases List.mem_cons.mp back with rfl | back
      · exact .inl rfl
      · rw [parted] at sorted
        obtain ⟨-, behind, -⟩ := List.pairwise_append.mp sorted
        exact .inr ((List.pairwise_cons.mp behind).1 other back)

theorem not_neighbour_of_traffic (tc : TrafficClass) (mid : Mid) :
    (if tc.storeCarryForward then NextHop.buffer else .broadcast) ≠ .neighbour mid := by
  split <;> nofun

/-- The next hop is the preferred neighbour, and only if no neighbour is closer than the router is
it left to the traffic class. -/
theorem Ordered.nextHop_cases (ordered : table.Ordered) (distance : Point → Point → D)
    (own destination : Point) (tc : TrafficClass) :
    (∃ entry, table.Prefers distance own destination entry ∧
      table.nextHop distance own destination tc = .neighbour entry.mid) ∨
    (∀ entry ∈ table.entries, entry.neighbour = true →
      distance own destination ≤ distance entry.position.point destination) ∧
      table.nextHop distance own destination tc =
        if tc.storeCarryForward then .buffer else .broadcast := by
  unfold nextHop
  rcases nearest_cases (table.neighbours.map fun entry =>
      (entry.mid, distance entry.position.point destination)) with
    ⟨empty, none⟩ | ⟨best, found, nearest⟩
  · right
    have lonely : table.neighbours = [] := List.map_eq_nil_iff.mp empty
    simp only [none]
    refine ⟨?_, trivial⟩
    intro entry known direct
    have member := mem_neighbours.mpr ⟨known, direct⟩
    rw [lonely] at member
    cases member
  · simp only [found]
    by_cases closer : best.2 < distance own destination
    · left
      obtain ⟨entry, prefers, same⟩ := ordered.prefers_of_nearest nearest closer
      refine ⟨entry, prefers, ?_⟩
      rw [if_pos closer, same]
    · right
      refine ⟨?_, if_neg closer⟩
      intro entry known direct
      have reached := nearest.le (List.mem_map_of_mem (mem_neighbours.mpr ⟨known, direct⟩))
      exact le_trans (not_lt.mp closer) reached

theorem Ordered.nextHop_eq_neighbour_iff (ordered : table.Ordered) {tc : TrafficClass} {mid : Mid} :
    table.nextHop distance own destination tc = .neighbour mid ↔
      ∃ entry, table.Prefers distance own destination entry ∧ entry.mid = mid := by
  rcases ordered.nextHop_cases distance own destination tc with
    ⟨entry, prefers, chosen⟩ | ⟨nobody, left⟩
  · rw [chosen, NextHop.neighbour.injEq]
    constructor
    · rintro rfl
      exact ⟨entry, prefers, rfl⟩
    · rintro ⟨same, prefersToo, rfl⟩
      exact prefers.mid_eq prefersToo
  · rw [left]
    constructor
    · intro neighbour
      exact absurd neighbour (not_neighbour_of_traffic tc mid)
    · rintro ⟨entry, prefers, -⟩
      exact absurd prefers.closer (not_lt.mpr (nobody entry prefers.known prefers.neighbour))

theorem Ordered.nextHop_of_closer (ordered : table.Ordered) (tc : TrafficClass) {entry : Entry}
    (known : entry ∈ table.entries) (direct : entry.neighbour = true)
    (closer : distance entry.position.point destination < distance own destination) :
    ∃ mid, table.nextHop distance own destination tc = .neighbour mid := by
  rcases ordered.nextHop_cases distance own destination tc with
    ⟨best, -, chosen⟩ | ⟨nobody, -⟩
  · exact ⟨best.mid, chosen⟩
  · exact absurd closer (not_lt.mpr (nobody entry known direct))

theorem Ordered.neighbours_eq {other : LocationTable} (ordered : table.Ordered)
    (orderedToo : other.Ordered)
    (same : ∀ entry, entry.neighbour = true → (entry ∈ other.entries ↔ entry ∈ table.entries)) :
    other.neighbours = table.neighbours := by
  apply SortedStore.Sorted.eq_of_mem_iff
    (SortedStore.Sorted.filter orderedToo (·.neighbour))
    (SortedStore.Sorted.filter ordered (·.neighbour))
  intro entry
  show entry ∈ other.neighbours ↔ entry ∈ table.neighbours
  rw [mem_neighbours, mem_neighbours]
  constructor
  · rintro ⟨known, direct⟩
    exact ⟨(same entry direct).mp known, direct⟩
  · rintro ⟨known, direct⟩
    exact ⟨(same entry direct).mpr known, direct⟩

/-- The next hop is a neighbour just if some neighbour is closer to the destination than the router,
and then it is the one with the lowest identifier among those that none is closer than. If it is no
neighbour it is the buffer or everyone, as the traffic class says. Two tables that have the same
neighbours choose the same, whatever else stands in them. -/
theorem Ordered.nextHop_prefers_lowest_closest (ordered : table.Ordered)
    (distance : Point → Point → D) (own destination : Point) (tc : TrafficClass) :
    (∀ mid, table.nextHop distance own destination tc = .neighbour mid ↔
      ∃ entry, table.Prefers distance own destination entry ∧ entry.mid = mid) ∧
    ((∃ mid, table.nextHop distance own destination tc = .neighbour mid) ↔
      ∃ entry ∈ table.entries, entry.neighbour = true ∧
        distance entry.position.point destination < distance own destination) ∧
    ((∀ mid, table.nextHop distance own destination tc ≠ .neighbour mid) →
      table.nextHop distance own destination tc =
        if tc.storeCarryForward then .buffer else .broadcast) ∧
    ∀ other : LocationTable, other.Ordered →
      (∀ entry, entry.neighbour = true → (entry ∈ other.entries ↔ entry ∈ table.entries)) →
      other.nextHop distance own destination tc = table.nextHop distance own destination tc := by
  refine ⟨fun mid => ordered.nextHop_eq_neighbour_iff, ⟨?_, ?_⟩, ?_, ?_⟩
  · rintro ⟨mid, chosen⟩
    obtain ⟨entry, prefers, -⟩ := ordered.nextHop_eq_neighbour_iff.mp chosen
    exact ⟨entry, prefers.known, prefers.neighbour, prefers.closer⟩
  · rintro ⟨entry, known, direct, closer⟩
    exact ordered.nextHop_of_closer tc known direct closer
  · intro nobody
    rcases ordered.nextHop_cases distance own destination tc with ⟨entry, -, chosen⟩ | ⟨-, left⟩
    · exact absurd chosen (nobody entry.mid)
    · exact left
  · intro other orderedToo same
    unfold nextHop
    rw [ordered.neighbours_eq orderedToo same]

end LocationTable
end Choice

/-- Of three neighbours two are equally close, and the stranger that is closer yet does not count. -/
theorem LocationTable.nextHop_prefers_lowest_closest_of_two :
    let distance : Point → Point → Nat := fun a b =>
      (a.latitude.toInt - b.latitude.toInt).natAbs
    let entry (mid : Mid) (latitude : Int32) (neighbour : Bool) : Entry := {
      address := Address.zero.withMid mid
      position := { address := .zero, timestamp := ⟨0⟩, latitude, longitude := 0 }
      neighbour }
    let table : LocationTable := ⟨⟨[entry ⟨1⟩ 5 true, entry ⟨2⟩ 8 true, entry ⟨3⟩ 12 true,
      entry ⟨4⟩ 10 false], []⟩⟩
    let others : LocationTable := ⟨⟨[entry ⟨1⟩ 5 true, entry ⟨2⟩ 8 true, entry ⟨3⟩ 12 true], []⟩⟩
    table.Ordered ∧ table.nextHop distance ⟨0, 0⟩ ⟨10, 0⟩ {} = .neighbour ⟨2⟩ ∧
      others.nextHop distance ⟨0, 0⟩ ⟨10, 0⟩ {} = .neighbour ⟨2⟩ := by
  intro distance entry table others
  have ordered : table.Ordered := by
    unfold Ordered SortedStore.Sorted
    decide
  have orderedToo : others.Ordered := by
    unfold Ordered SortedStore.Sorted
    decide
  obtain ⟨chosen, -, -, same⟩ :=
    ordered.nextHop_prefers_lowest_closest distance ⟨0, 0⟩ ⟨10, 0⟩ {}
  have second : table.nextHop distance ⟨0, 0⟩ ⟨10, 0⟩ {} = .neighbour ⟨2⟩ := by
    refine (chosen ⟨2⟩).mpr ⟨entry ⟨2⟩ 8 true, ⟨?_, rfl, ?_, ?_, ?_⟩, rfl⟩
    all_goals decide
  refine ⟨ordered, second, ?_⟩
  rw [same others orderedToo, second]
  intro known direct
  constructor
  · intro member
    exact List.mem_append_left [entry ⟨4⟩ 10 false] member
  · intro member
    rcases List.mem_append.mp (show known ∈ others.entries ++ [entry ⟨4⟩ 10 false] from member) with
      member | member
    · exact member
    · obtain rfl := List.mem_singleton.mp member
      cases direct

end GeoRouter
