import GeoRouter.Proofs.Order

/-!
# The location table as a map

Whatever is done to a location table, it answers as a map from identifiers to entries does that has
room for a fixed number of them. `Stations.Answers` says call by call what such a map answers,
without a word on places in a list; a run of calls on the table is one on the map. The order of the
entries is kept all along, so that looking up an entry may halve the table instead of walking
through it.
-/

namespace GeoRouter

/-! ### Calls -/

namespace Entry

/-- The entry with everything changed that may be written: neither its address nor its end. -/
def rewritten (change : Entry → Entry) (entry : Entry) : Entry :=
  { change entry with address := entry.address, expires := entry.expires }

def Expired (entry : Entry) (now : Instant) : Prop :=
  ∃ last, entry.expires = .on last ∧ last < now

theorem isAlive_iff {entry : Entry} {now : Instant} :
    entry.isAlive now = true ↔ ¬ entry.Expired now := by
  unfold isAlive Expired
  cases entry.expires with
  | never => simp [Expiration.passed]
  | on last => simp [Expiration.passed]

end Entry

/-- What may be asked of a table. A station is named by an address, of which the identifier
counts. -/
inductive TableCall where
  | add (address : Address)
  | update (address : Address) (seen : Sighting)
  | remove (address : Address)
  | expire (now : Instant)
  | find (address : Address)
  | write (address : Address) (change : Entry → Entry)
  | renew (address : Address) (now : Instant) (lifetime : Duration)
  | neighbours

inductive TableAnswer where
  | entry (found : Option Entry)
  | refused (reason : LocationError)
  | count (n : Nat)
  | entries (list : List Entry)

namespace LocationTable

/-- The entry of a station as it is after a change. -/
def shown (table : LocationTable) (mid : Mid) : TableAnswer × LocationTable :=
  (.entry (table.find? mid), table)

def perform (table : LocationTable) : TableCall → TableAnswer × LocationTable
  | .add address =>
    match table.add address with
    | .ok grown => grown.shown address.mid
    | .error reason => (.refused reason, table)
  | .update address seen =>
    match table.update address.mid seen with
    | .ok updated => updated.shown address.mid
    | .error reason => (.refused reason, table)
  | .remove address =>
    match table.remove address.mid with
    | .ok (entry, rest) => (.entry (some entry), rest)
    | .error reason => (.refused reason, table)
  | .expire now => (.count (table.expire now).1, (table.expire now).2)
  | .find address => table.shown address.mid
  | .write address change => (table.modify address.mid (·.rewritten change)).shown address.mid
  | .renew address now lifetime => (table.renew address.mid now lifetime).shown address.mid
  | .neighbours => (.entries table.neighbours, table)

def calls (table : LocationTable) : List TableCall → List TableAnswer × LocationTable
  | [] => ([], table)
  | call :: rest =>
    let (answer, after) := table.perform call
    let (answers, last) := after.calls rest
    (answer :: answers, last)

end LocationTable

/-! ### The map -/

/-- What is known of each station, as far as something is. -/
abbrev Stations := Mid → Option Entry

namespace Stations

noncomputable def count (known : Stations) (kind : Entry → Prop) : Nat :=
  {mid | ∃ entry, known mid = some entry ∧ kind entry}.ncard

/-- What a map with room for `room` stations answers to a call, and what it knows afterwards. -/
def Answers (room : Nat) (known : Stations) : TableCall → TableAnswer → Stations → Prop
  | .add address, answer, after =>
    match known address.mid with
    | some entry => answer = .entry (some entry) ∧ after = known
    | none =>
      let entry : Entry := { address, stationType := address.stationType, expires := .never }
      if known.count (fun _ => True) = room then answer = .refused .noSpace ∧ after = known
      else answer = .entry (some entry) ∧ after = Function.update known address.mid (some entry)
  | .update address seen, answer, after =>
    match known address.mid with
    | none => answer = .refused .entryNotFound ∧ after = known
    | some entry =>
      let entry := { entry with
        position := seen.position
        neighbour := seen.neighbour
        sequence := seen.sequence
        stationType := seen.stationType
        timestamp := seen.timestamp
        pending := false }
      answer = .entry (some entry) ∧ after = Function.update known address.mid (some entry)
  | .remove address, answer, after =>
    match known address.mid with
    | none => answer = .refused .entryNotFound ∧ after = known
    | some entry => answer = .entry (some entry) ∧ after = Function.update known address.mid none
  | .expire now, answer, after =>
    answer = .count (known.count (·.Expired now)) ∧
      ∀ mid entry, after mid = some entry ↔ known mid = some entry ∧ ¬ entry.Expired now
  | .find address, answer, after => answer = .entry (known address.mid) ∧ after = known
  | .write address change, answer, after =>
    let entry := (known address.mid).map (·.rewritten change)
    answer = .entry entry ∧ after = Function.update known address.mid entry
  | .renew address now lifetime, answer, after =>
    let entry := (known address.mid).map fun entry =>
      { entry with expires := .on (now.later lifetime) }
    answer = .entry entry ∧ after = Function.update known address.mid entry
  | .neighbours, answer, after =>
    after = known ∧ ∃ list, answer = .entries list ∧ SortedStore.Sorted Entry.mid list ∧
      ∀ entry, entry ∈ list ↔ known entry.mid = some entry ∧ entry.neighbour = true

inductive Runs (room : Nat) : Stations → List TableCall → List TableAnswer → Stations → Prop where
  | done {known : Stations} : Runs room known [] [] known
  | next {known middle after : Stations} {call : TableCall} {answer : TableAnswer}
    {calls : List TableCall} {answers : List TableAnswer}
    (first : known.Answers room call answer middle)
    (rest : Runs room middle calls answers after) :
    Runs room known (call :: calls) (answer :: answers) after

/-! ### One answer to every call -/

theorem Answers.unique {room : Nat} {known middle other : Stations} {call : TableCall}
    {answer second : TableAnswer} (one : known.Answers room call answer middle)
    (two : known.Answers room call second other) : answer = second ∧ middle = other := by
  cases call with
  | add address =>
    unfold Answers at one two
    cases found : known address.mid with
    | some entry =>
      simp only [found] at one two
      exact ⟨one.1.trans two.1.symm, one.2.trans two.2.symm⟩
    | none =>
      simp only [found] at one two
      split at one
      · rename_i full
        rw [if_pos full] at two
        exact ⟨one.1.trans two.1.symm, one.2.trans two.2.symm⟩
      · rename_i free
        rw [if_neg free] at two
        exact ⟨one.1.trans two.1.symm, one.2.trans two.2.symm⟩
  | update address | remove address =>
    unfold Answers at one two
    cases found : known address.mid with
    | none | some entry =>
      simp only [found] at one two
      exact ⟨one.1.trans two.1.symm, one.2.trans two.2.symm⟩
  | find | write | renew => exact ⟨one.1.trans two.1.symm, one.2.trans two.2.symm⟩
  | expire now =>
    refine ⟨one.1.trans two.1.symm, funext fun mid => Option.ext fun entry => ?_⟩
    exact (one.2 mid entry).trans (two.2 mid entry).symm
  | neighbours =>
    obtain ⟨rfl, list, rfl, sorted, members⟩ := one
    obtain ⟨rfl, same, rfl, sortedToo, membersToo⟩ := two
    have equal : list = same := by
      refine sorted.eq_of_mem_iff sortedToo fun entry => ?_
      exact (members entry).trans (membersToo entry).symm
    exact ⟨congrArg TableAnswer.entries equal, rfl⟩

theorem Runs.unique {room : Nat} {known after other : Stations} {calls : List TableCall}
    {answers seconds : List TableAnswer} (one : Runs room known calls answers after)
    (two : Runs room known calls seconds other) : answers = seconds ∧ after = other := by
  induction one generalizing seconds with
  | done =>
    cases two
    exact ⟨rfl, rfl⟩
  | next first rest ih =>
    cases two with
    | next firstToo restToo =>
      obtain ⟨rfl, rfl⟩ := first.unique firstToo
      obtain ⟨rfl, rfl⟩ := ih restToo
      exact ⟨rfl, rfl⟩

end Stations

/-! ### Entries in order -/

namespace LocationTable

def Ordered (table : LocationTable) : Prop := SortedStore.Sorted Entry.mid table.entries

/-- The entry of a station, sought by halving the table. -/
def lookup (table : LocationTable) (mid : Mid) : Option Entry :=
  match SortedStore.halve Entry.mid mid table.entries 0 table.size with
  | .found index => table.entries[index]?
  | .vacant _ => none

theorem Ordered.lookup_eq {table : LocationTable} (ordered : table.Ordered) (mid : Mid) :
    table.lookup mid = table.find? mid :=
  (SortedStore.Sorted.find?_eq_halve ordered mid).symm

theorem Ordered.find?_eq_some_iff {table : LocationTable} (ordered : table.Ordered) {mid : Mid}
    {entry : Entry} : table.find? mid = some entry ↔ entry ∈ table.entries ∧ entry.mid = mid :=
  SortedStore.Sorted.find?_eq_some_iff ordered

/-- As many stations have an entry of a kind as there are entries of that kind. -/
theorem Ordered.count_eq {table : LocationTable} (ordered : table.Ordered) (kind : Entry → Bool) :
    Stations.count table.find? (fun entry => kind entry = true) =
      (table.entries.filter kind).length := by
  have keys : {mid | ∃ entry, table.find? mid = some entry ∧ kind entry = true} =
      {mid | ∃ entry ∈ table.entries.filter kind, entry.mid = mid} := by
    ext mid
    simp only [Set.mem_ofPred_eq, ordered.find?_eq_some_iff, List.mem_filter, and_right_comm]
  rw [Stations.count, keys, (SortedStore.Sorted.filter ordered kind).ncard_keys]

theorem Ordered.size_eq {table : LocationTable} (ordered : table.Ordered) :
    Stations.count table.find? (fun _ => True) = table.size := by
  have every := ordered.count_eq fun _ => true
  simp only [List.filter_true] at every
  exact every

/-! ### Single calls -/

theorem Ordered.modify {table : LocationTable} (ordered : table.Ordered) {f : Entry → Entry}
    (keeps : ∀ entry, (f entry).mid = entry.mid) (mid : Mid) :
    (table.modify mid f).Ordered ∧ (table.modify mid f).capacity = table.capacity ∧
      (table.modify mid f).find? mid = (table.find? mid).map f ∧
      (table.modify mid f).find? = Function.update table.find? mid ((table.find? mid).map f) := by
  refine ⟨?_, table.capacity_modify mid f, (find?_modify table keeps ..).trans (if_pos rfl), ?_⟩
  · rw [modify_eq]
    exact ordered.modifyFirst keeps _
  · funext other
    rw [find?_modify table keeps, Function.update_apply]

theorem Ordered.add_of_absent {table : LocationTable} (ordered : table.Ordered) {address : Address}
    (absent : table.find? address.mid = none) :
    (Stations.count table.find? (fun _ => True) = table.capacity ∧
      table.add address = .error .noSpace) ∨
    (Stations.count table.find? (fun _ => True) ≠ table.capacity ∧
      ∃ grown, table.add address = .ok grown ∧ grown.Ordered ∧ grown.capacity = table.capacity ∧
        grown.find? address.mid = some (.ofAddress address) ∧
        grown.find? = Function.update table.find? address.mid (some (.ofAddress address))) := by
  rw [ordered.size_eq]
  by_cases full : table.Full
  · exact .inl ⟨full, add_of_full absent full⟩
  · obtain ⟨grown, added, slots, placed⟩ := add_of_free absent full
    refine .inr ⟨full, grown, added, placed.sorted ordered, slots, ?_, ?_⟩
    · exact (placed.find? address.mid).trans (if_pos rfl)
    · funext mid
      rw [Function.update_apply]
      exact placed.find? mid

theorem Ordered.remove_of_found {table : LocationTable} (ordered : table.Ordered) {mid : Mid}
    {entry : Entry} (found : table.find? mid = some entry) :
    ∃ rest, table.remove mid = .ok (entry, rest) ∧ rest.Ordered ∧
      rest.capacity = table.capacity ∧ rest.find? = Function.update table.find? mid none := by
  have own : entry.mid = mid := mid_of_find? found
  obtain ⟨-, earlier, later, split, first⟩ := List.find?_eq_some_iff_append.mp found
  have place : table.index? mid = some earlier.length := by
    have ahead : earlier.findIdx? (fun other => decide (other.mid = mid)) = none := by
      rw [List.findIdx?_eq_none_iff]
      intro other member
      simpa using first other member
    rw [index?, split, List.findIdx?_append, ahead, List.findIdx?_cons, decide_eq_true own]
    simp
  have erased : table.entries.eraseIdx earlier.length = earlier ++ later := by
    rw [split, List.eraseIdx_append_of_length_le (Nat.le_refl _), Nat.sub_self]
    rfl
  have popped : table.store.pop earlier.length =
      some ⟨earlier ++ later, entry :: table.store.free⟩ := by
    have here : table.store.items[earlier.length]? = some entry := by
      show table.entries[earlier.length]? = some entry
      rw [split, List.getElem?_append_right (Nat.le_refl _), Nat.sub_self]
      rfl
    rw [SortedStore.pop, here]
    exact congrArg
      (fun items => some (⟨items, entry :: table.store.free⟩ : SortedStore Entry)) erased
  refine ⟨⟨⟨earlier ++ later, entry :: table.store.free⟩⟩, ?_, ?_, ?_, ?_⟩
  · rw [remove, found, place, Option.bind_some, popped]
  · have smaller := SortedStore.Sorted.eraseIdx ordered earlier.length
    rwa [erased] at smaller
  · have width : table.entries.length = earlier.length + (later.length + 1) := by
      rw [split, List.length_append, List.length_cons]
    simp only [capacity, SortedStore.capacity, List.length_append, List.length_cons]
    unfold entries at width
    omega
  · have others : ∀ other ∈ earlier ++ later, other.mid ≠ mid := by
      unfold Ordered at ordered
      rw [split] at ordered
      rw [← own]
      exact ordered.apart
    funext other
    rw [Function.update_apply]
    split
    · rename_i same
      rw [same]
      exact Entry.find?_of_other others
    · rename_i apart
      have passed : entry.mid ≠ other := fun same => apart (same.symm.trans own)
      show (earlier ++ later).find? _ = table.entries.find? _
      rw [split, List.find?_append, List.find?_append, List.find?_cons]
      simp [passed]

theorem remove_of_absent {table : LocationTable} {mid : Mid} (absent : table.find? mid = none) :
    table.remove mid = .error .entryNotFound := by
  rw [remove, absent]

theorem Ordered.expire {table : LocationTable} (ordered : table.Ordered) (now : Instant) :
    (table.expire now).1 = Stations.count table.find? (·.Expired now) ∧
      (table.expire now).2.Ordered ∧ (table.expire now).2.capacity = table.capacity ∧
      ∀ mid entry, (table.expire now).2.find? mid = some entry ↔
        table.find? mid = some entry ∧ ¬ entry.Expired now := by
  have past : ∀ entry : Entry, entry.Expired now ↔ (!entry.isAlive now) = true := by
    intro entry
    rw [Bool.not_eq_true', ← Bool.not_eq_true, Entry.isAlive_iff, Classical.not_not]
  have swept : (table.expire now).2.Ordered := by
    rw [expire_eq]
    exact SortedStore.Sorted.filter ordered _
  refine ⟨?_, swept, table.capacity_expire now, ?_⟩
  · simp only [past]
    rw [ordered.count_eq, expire_eq, List.countP_eq_length_filter]
  · intro mid entry
    have kept : entry ∈ (table.expire now).2.entries ↔
        entry ∈ table.entries ∧ ¬ entry.Expired now := by
      rw [expire_eq, ← Entry.isAlive_iff]
      exact List.mem_filter
    rw [swept.find?_eq_some_iff, ordered.find?_eq_some_iff, kept]
    exact and_right_comm

/-- Every call is answered as by a map, and leaves the entries in order and the slots there. -/
theorem Ordered.perform_answers {table : LocationTable} (ordered : table.Ordered)
    (call : TableCall) :
    (table.perform call).2.Ordered ∧ (table.perform call).2.capacity = table.capacity ∧
      Stations.Answers table.capacity table.find? call (table.perform call).1
        (table.perform call).2.find? := by
  cases call with
  | add address =>
    rw [perform]
    cases found : table.find? address.mid with
    | some entry =>
      rw [add_of_present (by rw [found]; rfl)]
      simp only [Stations.Answers, shown, found, and_self, and_true]
      exact ordered
    | none =>
      rcases ordered.add_of_absent found with
        ⟨full, refused⟩ | ⟨free, grown, added, kept, slots, own, seen⟩
      · simp only [Stations.Answers, refused, found, if_pos full, and_self, and_true]
        exact ordered
      · simp only [Stations.Answers, added, shown, found, if_neg free]
        exact ⟨kept, slots, congrArg TableAnswer.entry own, seen⟩
  | update address seen =>
    obtain ⟨kept, slots, own, changed⟩ := ordered.modify (f := (·.update seen)) (fun _ => rfl)
      address.mid
    rw [perform, LocationTable.update]
    cases found : table.find? address.mid with
    | none =>
      simp only [Stations.Answers, found, and_self, and_true]
      exact ordered
    | some entry =>
      rw [found] at own changed
      simp only [Stations.Answers, shown, found]
      exact ⟨kept, slots, congrArg TableAnswer.entry own, changed⟩
  | remove address =>
    rw [perform]
    cases found : table.find? address.mid with
    | none =>
      rw [remove_of_absent found]
      simp only [Stations.Answers, found, and_self, and_true]
      exact ordered
    | some entry =>
      obtain ⟨rest, removed, smaller, slots, without⟩ := ordered.remove_of_found found
      rw [removed]
      simp only [Stations.Answers, found, true_and]
      exact ⟨smaller, slots, without⟩
  | expire now =>
    obtain ⟨number, swept, slots, left⟩ := ordered.expire now
    exact ⟨swept, slots, congrArg TableAnswer.count number, left⟩
  | find address => exact ⟨ordered, rfl, rfl, rfl⟩
  | write address change =>
    obtain ⟨kept, slots, own, changed⟩ := ordered.modify (f := (·.rewritten change)) (fun _ => rfl)
      address.mid
    exact ⟨kept, slots, congrArg TableAnswer.entry own, changed⟩
  | renew address now lifetime =>
    obtain ⟨kept, slots, own, changed⟩ :=
      ordered.modify (f := (·.renew now lifetime)) (fun _ => rfl) address.mid
    exact ⟨kept, slots, congrArg TableAnswer.entry own, changed⟩
  | neighbours =>
    refine ⟨ordered, rfl, rfl, table.neighbours, rfl, SortedStore.Sorted.filter ordered _, ?_⟩
    intro entry
    rw [LocationTable.neighbours, List.mem_filter, ordered.find?_eq_some_iff]
    simp

/-! ### Runs of calls -/

theorem Ordered.calls_runs {table : LocationTable} (ordered : table.Ordered)
    (list : List TableCall) :
    (table.calls list).2.Ordered ∧ (table.calls list).2.capacity = table.capacity ∧
      Stations.Runs table.capacity table.find? list (table.calls list).1
        (table.calls list).2.find? := by
  induction list generalizing table with
  | nil => exact ⟨ordered, rfl, .done⟩
  | cons call rest ih =>
    obtain ⟨kept, slots, answers⟩ := ordered.perform_answers call
    obtain ⟨last, room, runs⟩ := ih kept
    rw [slots] at room runs
    exact ⟨last, room, .next answers runs⟩

/-- A table of free slots is empty, whatever is left in them. -/
theorem ordered_ofSlots (slots : List Entry) : (ofSlots slots).Ordered := List.Pairwise.nil

theorem capacity_ofSlots (slots : List Entry) : (ofSlots slots).capacity = slots.length :=
  Nat.zero_add _

/-- What was left in the slots never shows in an answer. -/
theorem calls_forget_slots {slots others : List Entry} (same : slots.length = others.length)
    (list : List TableCall) :
    ((ofSlots slots).calls list).1 = ((ofSlots others).calls list).1 := by
  obtain ⟨-, -, one⟩ := (ordered_ofSlots slots).calls_runs list
  obtain ⟨-, -, two⟩ := (ordered_ofSlots others).calls_runs list
  rw [capacity_ofSlots] at one two
  rw [← same] at two
  exact (one.unique two).1

/-- A table in storage of any kind, with anything left in its slots, is a map of stations: it has
their entries in order, never more than there are slots, finds them by halving, and answers every
run of calls as the empty map with room for that many stations does. -/
theorem calls_as_map (backing : Backing Entry) (list : List TableCall) :
    let table := ofSlots backing.toList
    let (answers, after) := table.calls list
    after.Ordered ∧ after.size ≤ after.capacity ∧ after.capacity = backing.toList.length ∧
      (∀ mid, after.lookup mid = after.find? mid) ∧
      Stations.Runs backing.toList.length (fun _ => none) list answers after.find? := by
  intro table
  obtain ⟨ordered, room, runs⟩ := (ordered_ofSlots backing.toList).calls_runs list
  rw [capacity_ofSlots] at room runs
  exact ⟨ordered, Nat.le_add_right .., room, ordered.lookup_eq, runs⟩

end LocationTable
end GeoRouter
