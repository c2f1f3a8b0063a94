import GeoRouter.Router.Duplicate
import GeoRouter.Proofs.Parsing

/-!
# The location table by station

What `find?` sees after each operation on the table, whatever the order of the entries: a change of
one entry is seen under its identifier and under no other. Where the entry stands in the list is
said by `Entry.Placed`, from which `find?` follows.
-/

namespace GeoRouter

namespace SortedStore

variable {α κ : Type}

theorem size_eq_capacity_iff {s : SortedStore α} : s.size = s.capacity ↔ s.free = [] := by
  rw [size, capacity, Nat.left_eq_add, List.length_eq_zero_iff]

theorem insert_of_free [LT κ] [DecidableLT κ] (key : α → κ) (a slot : α) {s : SortedStore α}
    {rest : List α} (free : s.free = slot :: rest) :
    s.insert key a = some (rank key (key a) s.items,
      ⟨s.items.take (rank key (key a) s.items) ++ a :: s.items.drop (rank key (key a) s.items),
        rest⟩) := by
  simp only [insert, write, free, push]

/-- The items in front of the rank of a key have smaller keys, and the one behind has not. -/
theorem rank_between [LT κ] [DecidableLT κ] (key : α → κ) (k : κ) (items : List α) :
    (∀ a ∈ items.take (rank key k items), key a < k) ∧
      ∀ a ∈ (items.drop (rank key k items)).head?, ¬ key a < k := by
  induction items with
  | nil => exact ⟨nofun, nofun⟩
  | cons a rest ih =>
    obtain ⟨below, above⟩ := ih
    rw [rank]
    split
    · rename_i less
      refine ⟨fun b member => ?_, above⟩
      rcases List.mem_cons.mp member with rfl | member
      · exact less
      · exact below b member
    · rename_i notLess
      refine ⟨nofun, fun b here => ?_⟩
      obtain rfl := Option.some.inj here
      exact notLess

theorem capacity_insert [LT κ] [DecidableLT κ] (key : α → κ) (a : α) {s after : SortedStore α}
    {index : Nat} (inserted : s.insert key a = some (index, after)) :
    after.capacity = s.capacity := by
  cases free : s.free with
  | nil => simp [insert, write, push, free] at inserted
  | cons slot rest =>
    rw [insert_of_free key a slot free] at inserted
    obtain ⟨-, rfl⟩ := Prod.mk.inj (Option.some.inj inserted)
    simp only [capacity, free, List.length_append, List.length_cons, List.length_take,
      List.length_drop]
    omega

theorem insert_of_full [LT κ] [DecidableLT κ] (key : α → κ) (a : α) {s : SortedStore α}
    (full : s.free = []) : s.insert key a = none := by
  simp only [insert, write, full, push]

/-- The items with the first that satisfies `p` changed by `f`. -/
def modifyFirst (p : α → Bool) (f : α → α) (items : List α) : List α :=
  match items.findIdx? p with
  | some index => items.modify index f
  | none => items

theorem modifyFirst_cons (p : α → Bool) (f : α → α) (a : α) (rest : List α) :
    modifyFirst p f (a :: rest) = if p a then f a :: rest else a :: modifyFirst p f rest := by
  rw [modifyFirst, modifyFirst, List.findIdx?_cons]
  cases p a with
  | true => rfl
  | false => cases rest.findIdx? p <;> rfl

theorem modifyFirst_of_first {p : α → Bool} (f : α → α) {a : α} (here : p a) {before : List α}
    (first : ∀ b ∈ before, p b = false) (rest : List α) :
    modifyFirst p f (before ++ a :: rest) = before ++ f a :: rest := by
  induction before with
  | nil => simp [modifyFirst_cons, here]
  | cons b before ih =>
    obtain ⟨apart, first⟩ := List.forall_mem_cons.mp first
    simp [modifyFirst_cons, apart, ih first]

/-- What is found is the item that is changed, and every other one stays. -/
theorem modifyFirst_of_found {p : α → Bool} {a : α} {items : List α}
    (found : items.find? p = some a) : ∃ earlier later, items = earlier ++ a :: later ∧
      p a = true ∧ (∀ b ∈ earlier, p b = false) ∧
      ∀ f : α → α, modifyFirst p f items = earlier ++ f a :: later := by
  obtain ⟨here, earlier, later, rfl, others⟩ := List.find?_eq_some_iff_append.mp found
  have first : ∀ b ∈ earlier, p b = false := by simpa using others
  exact ⟨earlier, later, rfl, here, first, fun f => modifyFirst_of_first f here first later⟩

theorem modify_of_first {p : α → Bool} {items : List α} {index : Nat}
    (place : items.findIdx? p = some index) : ∃ earlier a later, items = earlier ++ a :: later ∧
      p a = true ∧ (∀ b ∈ earlier, p b = false) ∧ items.find? p = some a ∧
      ∀ f : α → α, items.modify index f = earlier ++ f a :: later := by
  obtain ⟨inside, -⟩ := List.findIdx?_eq_some_iff_getElem.mp place
  have found : items.find? p = some items[index] := by
    rw [List.find?_eq_bind_findIdx?_getElem?, place, Option.bind_some,
      List.getElem?_eq_getElem inside]
  obtain ⟨earlier, later, split, here, first, changed⟩ := modifyFirst_of_found found
  refine ⟨earlier, items[index], later, split, here, first, found, fun f => ?_⟩
  have modified := changed f
  rwa [modifyFirst, place] at modified

theorem modifyFirst_modifyFirst {p : α → Bool} {f : α → α} (keeps : ∀ a, p (f a) = p a)
    (g : α → α) (items : List α) :
    modifyFirst p g (modifyFirst p f items) = modifyFirst p (g ∘ f) items := by
  induction items with
  | nil => rfl
  | cons a rest ih =>
    rw [modifyFirst_cons, modifyFirst_cons]
    cases here : p a with
    | true => simp [modifyFirst_cons, keeps, here]
    | false => simp [modifyFirst_cons, here, ih]

theorem find?_eraseFirst_other {p q : α → Bool} (apart : ∀ a, p a → q a = false) {items : List α}
    {index : Nat} (place : items.findIdx? p = some index) :
    (items.eraseIdx index).find? q = items.find? q := by
  induction items generalizing index with
  | nil => rfl
  | cons a rest ih =>
    rw [List.findIdx?_cons] at place
    cases here : p a with
    | true =>
      rw [here, if_pos rfl] at place
      obtain rfl := Option.some.inj place
      simp [apart a here]
    | false =>
      rw [here, if_neg Bool.false_ne_true, Option.map_eq_some_iff] at place
      obtain ⟨before, found, rfl⟩ := place
      simp [List.find?_cons, ih found]

end SortedStore

theorem Mid.lt_of_other {a b : Mid} (other : a ≠ b) (below : ¬ a < b) : b < a := by
  have apart : a.toNat ≠ b.toNat := fun same =>
    other (congrArg Mid.mk (BitVec.eq_of_toNat_eq same))
  show b.toNat < a.toNat
  have order : ¬ a.toNat < b.toNat := below
  omega

/-- An entry comes to stand where the one of its station stood, or else between those whose
identifiers are smaller and those whose are not. All others stay as they are. -/
inductive Entry.Placed (entry : Entry) : List Entry → List Entry → Prop where
  | overwritten {earlier later : List Entry} {old : Entry} (same : old.mid = entry.mid)
    (first : ∀ other ∈ earlier, other.mid ≠ entry.mid) :
    Placed entry (earlier ++ old :: later) (earlier ++ entry :: later)
  | inserted {earlier later : List Entry} (below : ∀ other ∈ earlier, other.mid < entry.mid)
    (above : ∀ other ∈ later.head?, entry.mid < other.mid)
    (absent : ∀ other ∈ earlier ++ later, other.mid ≠ entry.mid) :
    Placed entry (earlier ++ later) (earlier ++ entry :: later)

theorem Entry.find?_of_other {mid : Mid} {entries : List Entry}
    (other : ∀ entry ∈ entries, entry.mid ≠ mid) :
    entries.find? (fun entry => decide (entry.mid = mid)) = none := by
  rw [List.find?_eq_none]
  intro entry member
  simpa using other entry member

/-- An entry that was placed is seen under its own identifier and nowhere else. -/
theorem Entry.Placed.find? {entry : Entry} {before after : List Entry}
    (placed : entry.Placed before after) (mid : Mid) :
    after.find? (fun other => decide (other.mid = mid)) =
      if mid = entry.mid then some entry
      else before.find? fun other => decide (other.mid = mid) := by
  have here : decide (entry.mid = entry.mid) = true := decide_eq_true rfl
  cases placed with
  | overwritten same first =>
    split
    · rename_i own
      rw [own, List.find?_append, Entry.find?_of_other first, List.find?_cons, here]
      rfl
    · rename_i apart
      have new : entry.mid ≠ mid := fun same => apart same.symm
      simp [List.find?_append, same, new]
  | @inserted earlier later below above absent =>
    have first : ∀ other ∈ earlier, other.mid ≠ entry.mid :=
      fun other member => absent other (List.mem_append_left later member)
    split
    · rename_i own
      rw [own, List.find?_append, Entry.find?_of_other first, List.find?_cons, here]
      rfl
    · rename_i apart
      have new : entry.mid ≠ mid := fun same => apart same.symm
      simp [List.find?_append, new]

/-- What stands among the entries afterwards is the one that was placed or was there before. -/
theorem Entry.Placed.mem {entry other : Entry} {before after : List Entry}
    (placed : entry.Placed before after) (member : other ∈ after) :
    other = entry ∨ other ∈ before := by
  cases placed with
  | overwritten | inserted =>
    rcases List.mem_append.mp member with front | back
    · exact .inr (List.mem_append_left _ front)
    · rcases List.mem_cons.mp back with rfl | back
      · exact .inl rfl
      · exact .inr (List.mem_append_right _ (by simp [back]))

theorem Entry.Placed.length_le {entry : Entry} {before after : List Entry}
    (placed : entry.Placed before after) : after.length ≤ before.length + 1 := by
  cases placed with
  | overwritten | inserted =>
    simp only [List.length_append, List.length_cons]
    omega

namespace LocationTable

def Full (table : LocationTable) : Prop := table.size = table.capacity

instance (table : LocationTable) : Decidable table.Full :=
  inferInstanceAs (Decidable (table.size = table.capacity))

theorem full_iff {table : LocationTable} : table.Full ↔ table.store.free = [] :=
  SortedStore.size_eq_capacity_iff

/-! ### Changing and making entries -/

theorem modify_eq (table : LocationTable) (mid : Mid) (f : Entry → Entry) :
    table.modify mid f = ⟨{ table.store with
      items := SortedStore.modifyFirst (·.mid = mid) f table.entries }⟩ := by
  unfold modify
  rw [SortedStore.modifyFirst, index?]
  cases table.entries.findIdx? fun entry => entry.mid = mid with
  | none => rfl
  | some index => rfl

theorem modify_modify (table : LocationTable) {f : Entry → Entry}
    (keeps : ∀ entry, (f entry).mid = entry.mid) (g : Entry → Entry) (mid : Mid) :
    (table.modify mid f).modify mid g = table.modify mid (g ∘ f) := by
  have items := SortedStore.modifyFirst_modifyFirst (p := (decide <| ·.mid = mid)) (f := f)
    (fun entry => by rw [keeps]) g table.entries
  rw [modify_eq, modify_eq table mid f, modify_eq table mid (g ∘ f), ← items]
  rfl

theorem modify_of_absent {table : LocationTable} {mid : Mid} (absent : table.find? mid = none)
    (f : Entry → Entry) : table.modify mid f = table := by
  have nowhere : table.index? mid = none := by
    unfold find? at absent
    rw [List.find?_eq_none] at absent
    unfold index?
    rw [List.findIdx?_eq_none_iff]
    exact fun entry member => by simpa using absent entry member
  unfold modify
  rw [nowhere]

theorem mem_modify {table : LocationTable} {mid : Mid} {f : Entry → Entry} {entry : Entry}
    (member : entry ∈ (table.modify mid f).entries) :
    entry ∈ table.entries ∨ ∃ old ∈ table.entries, entry = f old := by
  unfold modify at member
  split at member
  · obtain ⟨place, here⟩ := List.getElem?_of_mem member
    rw [entries, SortedStore.modify, List.getElem?_modify] at here
    obtain ⟨old, there, rfl⟩ := Option.map_eq_some_iff.mp here
    have known : old ∈ table.entries := List.mem_of_getElem? there
    split
    · exact .inr ⟨old, known, rfl⟩
    · exact .inl known
  · exact .inl member

theorem capacity_modify (table : LocationTable) (mid : Mid) (f : Entry → Entry) :
    (table.modify mid f).capacity = table.capacity := by
  unfold modify
  cases table.index? mid with
  | none => rfl
  | some index =>
    simp only [capacity, SortedStore.capacity, SortedStore.modify, List.length_modify]

theorem mid_of_find? {table : LocationTable} {mid : Mid} {entry : Entry}
    (found : table.find? mid = some entry) : entry.mid = mid := by
  obtain ⟨own, -⟩ := List.find?_eq_some_iff_append.mp found
  exact of_decide_eq_true own

theorem placed_of_find? {table : LocationTable} {mid : Mid} {entry : Entry}
    (found : table.find? mid = some entry) : entry.Placed table.entries table.entries := by
  have own := mid_of_find? found
  obtain ⟨-, earlier, later, split, first⟩ := List.find?_eq_some_iff_append.mp found
  rw [split]
  refine .overwritten rfl fun other member => ?_
  have apart := first other member
  rw [own]
  simpa using apart

/-- A changed entry stays where it was placed, as do all others. -/
theorem modify_of_placed {table : LocationTable} {before : List Entry} {entry : Entry}
    {f : Entry → Entry} (keeps : ∀ entry, (f entry).mid = entry.mid)
    (placed : entry.Placed before table.entries) :
    (f entry).Placed before (table.modify entry.mid f).entries := by
  rw [modify_eq]
  show (f entry).Placed before
    (SortedStore.modifyFirst (fun other => decide (other.mid = entry.mid)) f table.entries)
  generalize table.entries = after at placed
  have here : decide (entry.mid = entry.mid) = true := decide_eq_true rfl
  cases placed with
  | overwritten same first =>
    rw [SortedStore.modifyFirst_of_first f here fun other member =>
      decide_eq_false (first other member)]
    rw [← keeps entry] at same first
    exact .overwritten same first
  | inserted below above absent =>
    rw [SortedStore.modifyFirst_of_first f here fun other member =>
      decide_eq_false (absent other (List.mem_append_left _ member))]
    rw [← keeps entry] at below above absent
    exact .inserted below above absent

/-- A change of one entry that keeps its station is seen there and nowhere else. -/
theorem find?_modify (table : LocationTable) {f : Entry → Entry}
    (keeps : ∀ entry, (f entry).mid = entry.mid) (mid other : Mid) :
    (table.modify mid f).find? other =
      if other = mid then (table.find? mid).map f else table.find? other := by
  cases found : table.find? mid with
  | none =>
    rw [modify_of_absent found]
    split
    · rename_i same
      rw [same, found]
      rfl
    · rfl
  | some entry =>
    have seen := (modify_of_placed keeps (placed_of_find? found)).find? other
    rw [keeps, mid_of_find? found] at seen
    exact seen

theorem add_of_present {table : LocationTable} {address : Address}
    (present : (table.find? address.mid).isSome) : table.add address = .ok table := by
  obtain ⟨entry, found⟩ := Option.isSome_iff_exists.mp present
  unfold add
  rw [found]

theorem add_of_full {table : LocationTable} {address : Address}
    (absent : table.find? address.mid = none) (full : table.Full) :
    table.add address = .error .noSpace := by
  unfold add
  rw [absent, SortedStore.insert_of_full _ _ (full_iff.mp full)]

theorem add_of_free {table : LocationTable} {address : Address}
    (absent : table.find? address.mid = none) (free : ¬ table.Full) :
    ∃ grown, table.add address = .ok grown ∧ grown.capacity = table.capacity ∧
      (Entry.ofAddress address).Placed table.entries grown.entries := by
  obtain ⟨slot, rest, slots⟩ := List.exists_cons_of_ne_nil (mt full_iff.mpr free)
  have others : ∀ other ∈ table.entries, other.mid ≠ address.mid := by
    intro other member
    have differ := List.find?_eq_none.mp absent other member
    simpa using differ
  obtain ⟨below, above⟩ := SortedStore.rank_between Entry.mid address.mid table.entries
  have inserted := SortedStore.insert_of_free Entry.mid (.ofAddress address) slot slots
  refine ⟨_, by rw [add, absent, inserted], SortedStore.capacity_insert _ _ inserted, ?_⟩
  have next : ∀ other ∈ (table.entries.drop
      (SortedStore.rank Entry.mid address.mid table.entries)).head?, address.mid < other.mid := by
    intro other here
    have member := List.mem_of_mem_drop (List.mem_of_mem_head? here)
    exact Mid.lt_of_other (others other member) (above other here)
  have placed : (Entry.ofAddress address).Placed _ _ := .inserted below next (by
    rw [List.take_append_drop]
    exact others)
  rwa [List.take_append_drop] at placed

theorem find?_remove {table rest : LocationTable} {mid other : Mid} {entry : Entry}
    (removed : table.remove mid = .ok (entry, rest)) (differ : other ≠ mid) :
    rest.find? other = table.find? other := by
  unfold remove at removed
  split at removed
  · rename_i found store popped
    obtain ⟨rfl, rfl⟩ := Prod.mk.inj (Except.ok.inj removed)
    obtain ⟨index, place, popped⟩ := Option.bind_eq_some_iff.mp popped
    unfold SortedStore.pop at popped
    split at popped
    · obtain rfl := Option.some.inj popped
      refine SortedStore.find?_eraseFirst_other (fun entry here => ?_) place
      have same : entry.mid = mid := of_decide_eq_true here
      rw [same]
      exact decide_eq_false (Ne.symm differ)
    · cases popped
  · cases removed

theorem mem_remove {table rest : LocationTable} {mid : Mid} {entry other : Entry}
    (removed : table.remove mid = .ok (entry, rest)) (member : other ∈ rest.entries) :
    other ∈ table.entries := by
  unfold remove at removed
  split at removed
  · rename_i found store popped
    obtain ⟨rfl, rfl⟩ := Prod.mk.inj (Except.ok.inj removed)
    obtain ⟨index, -, popped⟩ := Option.bind_eq_some_iff.mp popped
    unfold SortedStore.pop at popped
    split at popped
    · obtain rfl := Option.some.inj popped
      exact List.mem_of_mem_eraseIdx member
    · cases popped
  · cases removed

theorem find?_add {table grown : LocationTable} {address : Address} {mid : Mid} {entry : Entry}
    (added : table.add address = .ok grown) (found : table.find? mid = some entry) :
    grown.find? mid = some entry := by
  cases present : table.find? address.mid with
  | some other =>
    rw [add_of_present (by rw [present]; rfl)] at added
    obtain rfl := Except.ok.inj added
    exact found
  | none =>
    by_cases full : table.Full
    · rw [add_of_full present full] at added
      cases added
    · obtain ⟨_, again, -, placed⟩ := add_of_free present full
      obtain rfl := Except.ok.inj (added.symm.trans again)
      have differ : mid ≠ address.mid := by
        rintro rfl
        rw [present] at found
        cases found
      exact (placed.find? mid).trans ((if_neg differ).trans found)

/-- An entry that is asked for is there afterwards, a new one only if there was none. -/
theorem find?_added {table grown : LocationTable} {address : Address}
    (added : table.add address = .ok grown) (mid : Mid) :
    grown.find? mid = if mid = address.mid then
      some ((table.find? address.mid).getD (.ofAddress address)) else table.find? mid := by
  cases present : table.find? address.mid with
  | some other =>
    rw [add_of_present (by rw [present]; rfl)] at added
    obtain rfl := Except.ok.inj added
    split
    · rename_i own
      rw [own, present]
      rfl
    · rfl
  | none =>
    by_cases full : table.Full
    · rw [add_of_full present full] at added
      cases added
    · obtain ⟨_, again, -, placed⟩ := add_of_free present full
      obtain rfl := Except.ok.inj (added.symm.trans again)
      exact placed.find? mid

/-- The table with an entry of a station, if it has one or there is a slot for one. -/
def entered (table : LocationTable) (address : Address) : LocationTable :=
  match table.add address with
  | .ok grown => grown
  | .error _ => table

section Entering

variable {table : LocationTable} {address : Address}

theorem find?_entered_of_found {mid : Mid} {entry : Entry} (found : table.find? mid = some entry) :
    (table.entered address).find? mid = some entry := by
  unfold entered
  cases added : table.add address with
  | ok grown => exact find?_add added found
  | error reason => exact found

/-- The table without the entry of a station, if it had one. -/
def without (table : LocationTable) (mid : Mid) : LocationTable :=
  match table.remove mid with
  | .ok (_, rest) => rest
  | .error _ => table

theorem find?_without_other {mid other : Mid} (differ : other ≠ mid) :
    (table.without mid).find? other = table.find? other := by
  unfold without
  split
  · rename_i removed
    exact find?_remove removed differ
  · rfl

end Entering

theorem mem_add {table grown : LocationTable} {address : Address} {entry : Entry}
    (added : table.add address = .ok grown) (member : entry ∈ grown.entries) :
    entry = .ofAddress address ∨ entry ∈ table.entries := by
  cases present : table.find? address.mid with
  | some other =>
    rw [add_of_present (by rw [present]; rfl)] at added
    obtain rfl := Except.ok.inj added
    exact .inr member
  | none =>
    by_cases full : table.Full
    · rw [add_of_full present full] at added
      cases added
    · obtain ⟨_, again, -, placed⟩ := add_of_free present full
      obtain rfl := Except.ok.inj (added.symm.trans again)
      exact placed.mem member

end LocationTable
end GeoRouter
