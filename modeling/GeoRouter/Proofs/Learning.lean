import GeoRouter.Router.Receive
import GeoRouter.Proofs.Freshness

/-!
# Learning a source

What a packet teaches the router: the entry of its source, made if need be, is overwritten and
renewed, and no other entry is touched. There is room for that unless the source is new and the
table is full.
-/

namespace GeoRouter

namespace LocationTable

/-- A station has an entry or can be given one. -/
def HasRoom (table : LocationTable) (mid : Mid) : Prop :=
  (table.find? mid).isSome ∨ ¬ table.Full

instance (table : LocationTable) (mid : Mid) : Decidable (table.HasRoom mid) :=
  inferInstanceAs (Decidable (_ ∨ _))

theorem full_modify {table : LocationTable} {mid : Mid} {f : Entry → Entry} :
    (table.modify mid f).Full ↔ table.Full := by
  unfold modify
  cases table.index? mid with
  | none => rfl
  | some index =>
    simp only [Full, size, capacity, SortedStore.size, SortedStore.capacity, SortedStore.modify,
      List.length_modify]

theorem hasRoom_modify {table : LocationTable} {f : Entry → Entry}
    (keeps : ∀ entry, (f entry).mid = entry.mid) {mid other : Mid} :
    (table.modify mid f).HasRoom other ↔ table.HasRoom other := by
  rw [HasRoom, HasRoom, full_modify, find?_modify table keeps]
  split
  · rename_i same
    rw [same, Option.isSome_map]
  · rfl

theorem hasRoom_restamp {table : LocationTable} {h : Headers} {mid : Mid} :
    (table.restamp h).HasRoom mid ↔ table.HasRoom mid :=
  hasRoom_modify (Entry.mid_restamp h.stamp)

end LocationTable

namespace Entry

def taught (entry : Entry) (h : Headers) (now : Instant) (lifetime : Duration) : Entry :=
  (entry.update (Router.sighting h)).renew now lifetime

theorem mid_taught (h : Headers) (now : Instant) (lifetime : Duration) (entry : Entry) :
    (entry.taught h now lifetime).mid = entry.mid := rfl

end Entry

namespace LocationTable

def teach (table : LocationTable) (h : Headers) (now : Instant) (lifetime : Duration) :
    LocationTable :=
  table.modify h.origin (·.taught h now lifetime)

theorem teach_restamp (table : LocationTable) (h : Headers) (now : Instant)
    (lifetime : Duration) : (table.restamp h).teach h now lifetime = table.teach h now lifetime :=
  modify_modify table (Entry.mid_restamp h.stamp) (·.taught h now lifetime) h.origin

end LocationTable

namespace Router

variable {r : Router} {now : Instant} {h : Headers}

theorem learn_of_crowded (crowded : ¬ r.locations.HasRoom h.origin) :
    r.learn now h = .error .locationTableFull := by
  rw [LocationTable.HasRoom, not_or, Bool.not_eq_true, Option.isSome_eq_false_iff,
    Option.isNone_iff_eq_none, Classical.not_not] at crowded
  rw [learn, LocationTable.add_of_full crowded.1 crowded.2]
  rfl

theorem learn_of_added {table : LocationTable}
    (added : r.locations.add h.extended.source.address = .ok table)
    (present : (table.find? h.origin).isSome) :
    r.learn now h =
      .ok { r with locations := table.teach h now r.settings.entryLifetime } := by
  obtain ⟨entry, found⟩ := Option.isSome_iff_exists.mp present
  have updates := LocationTable.modify_modify table (f := (·.update (sighting h))) (fun _ => rfl)
    (·.renew now r.settings.entryLifetime) h.origin
  have updated : table.update h.origin (sighting h) =
      .ok (table.modify h.origin (·.update (sighting h))) := by
    unfold LocationTable.update
    rw [found]
  rw [learn, added]
  simp only [Except.bind, LocationTable.renew]
  rw [← Headers.origin, updated]
  simp only [updates]
  rfl

theorem learn_of_present (present : (r.locations.find? h.origin).isSome) :
    r.learn now h =
      .ok { r with locations := r.locations.teach h now r.settings.entryLifetime } :=
  learn_of_added (LocationTable.add_of_present present) present

def lesson (r : Router) (now : Instant) (h : Headers) : Entry :=
  ((r.locations.find? h.origin).getD (.ofAddress h.extended.source.address)).taught h now
    r.settings.entryLifetime

/-- The table after a packet was learned, which is as it was if there is no room. -/
def learned (r : Router) (now : Instant) (h : Headers) : LocationTable :=
  match r.learn now h with
  | .ok r => r.locations
  | .error _ => r.locations

/-- Learning finds an entry of the source or makes one, and overwrites that. -/
theorem learn_of_room (now : Instant) (room : r.locations.HasRoom h.origin) :
    ∃ table, r.learn now h = .ok { r with locations := table } ∧
      table.capacity = r.locations.capacity ∧
      (r.lesson now h).Placed r.locations.entries table.entries := by
  have keeps := Entry.mid_taught h now r.settings.entryLifetime
  unfold lesson
  cases found : r.locations.find? h.origin with
  | some entry =>
    have placed := LocationTable.modify_of_placed keeps (LocationTable.placed_of_find? found)
    rw [LocationTable.mid_of_find? found] at placed
    refine ⟨_, learn_of_present (by rw [found]; rfl), ?_, placed⟩
    exact LocationTable.capacity_modify ..
  | none =>
    obtain ⟨grown, added, slots, placed⟩ :=
      LocationTable.add_of_free found (room.resolve_left (by simp [found]))
    have made : grown.find? h.origin = some (.ofAddress h.extended.source.address) :=
      (placed.find? h.origin).trans (if_pos rfl)
    refine ⟨_, learn_of_added added (by rw [made]; rfl), ?_, ?_⟩
    · exact (LocationTable.capacity_modify ..).trans slots
    · exact LocationTable.modify_of_placed keeps placed

/-- Learning succeeds if there is room, and changes nothing but the table. -/
theorem learn_eq : r.learn now h = if r.locations.HasRoom h.origin then
    .ok { r with locations := r.learned now h } else .error .locationTableFull := by
  split
  · rename_i room
    obtain ⟨table, learn, -⟩ := learn_of_room now room
    unfold learned
    rw [learn]
  · rename_i crowded
    exact learn_of_crowded crowded

/-- Learning places the entry of the source in the table, and no slot is lost or made. -/
theorem learned_places (now : Instant) (room : r.locations.HasRoom h.origin) :
    (r.learned now h).capacity = r.locations.capacity ∧
      (r.lesson now h).Placed r.locations.entries (r.learned now h).entries := by
  obtain ⟨table, learn, slots, placed⟩ := learn_of_room now room
  unfold learned
  rw [learn]
  exact ⟨slots, placed⟩

theorem learned_of_crowded (now : Instant) (crowded : ¬ r.locations.HasRoom h.origin) :
    r.learned now h = r.locations := by
  unfold learned
  rw [learn_of_crowded crowded]

theorem capacity_learned (r : Router) (now : Instant) (h : Headers) :
    (r.learned now h).capacity = r.locations.capacity := by
  by_cases room : r.locations.HasRoom h.origin
  · exact (learned_places now room).1
  · rw [learned_of_crowded now room]

theorem size_learned_le (r : Router) (now : Instant) (h : Headers) :
    (r.learned now h).size ≤ r.locations.size + 1 := by
  by_cases room : r.locations.HasRoom h.origin
  · exact (learned_places now room).2.length_le
  · rw [learned_of_crowded now room]
    exact Nat.le_succ _

theorem mid_lesson (r : Router) (now : Instant) (h : Headers) :
    (r.lesson now h).mid = h.origin := by
  unfold lesson
  rw [Entry.mid_taught]
  cases found : r.locations.find? h.origin with
  | none => rfl
  | some entry => exact LocationTable.mid_of_find? found

theorem find?_learned (room : r.locations.HasRoom h.origin) (mid : Mid) :
    (r.learned now h).find? mid =
      if mid = h.origin then some (r.lesson now h) else r.locations.find? mid := by
  obtain ⟨-, placed⟩ := learned_places now room
  have seen := placed.find? mid
  rw [mid_lesson] at seen
  exact seen

/-- What detection leaves in the entry of the source is overwritten. -/
theorem learn_restamp :
    learn { r with locations := r.locations.restamp h } now h = r.learn now h := by
  cases found : r.locations.find? h.origin with
  | none => rw [LocationTable.restamp, LocationTable.modify_of_absent found]
  | some entry =>
    have present : (r.locations.find? h.origin).isSome := by
      rw [found]
      rfl
    rw [learn_of_present present, learn_of_present]
    · rw [LocationTable.teach_restamp]
    · rw [LocationTable.find?_restamp, if_pos rfl, Option.isSome_map]
      exact present

theorem learned_restamp (room : r.locations.HasRoom h.origin) :
    learned { r with locations := r.locations.restamp h } now h = r.learned now h := by
  rw [learned, learned, learn_restamp, learn_eq, if_pos room]

end Router
end GeoRouter
