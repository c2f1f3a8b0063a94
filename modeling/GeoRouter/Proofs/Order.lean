import Mathlib.Data.Set.Card
import GeoRouter.Proofs.Locations

/-!
# Items in the order of their keys

What enters a sorted storage goes to the place that its key has there, and nothing else changes
places. So the keys stay strictly increasing, which is what lets a search halve the items over and
over: it finds what a look at all of them finds.
-/

namespace GeoRouter

instance : IsStrictTotalOrder Mid (· < ·) where
  trichotomous _ _ notBelow notAbove := Classical.byContradiction fun other =>
    notAbove (Mid.lt_of_other other notBelow)
  irrefl a := Nat.lt_irrefl a.toNat
  trans _ _ _ := Nat.lt_trans

namespace SortedStore

variable {α κ : Type} [LT κ]

/-- The keys are strictly increasing. -/
def Sorted (key : α → κ) (items : List α) : Prop := items.Pairwise fun a b => key a < key b

variable {key : α → κ} {items : List α}

theorem Sorted.getElem_lt (sorted : Sorted key items) {i j : Nat} (before : i < j)
    (inside : j < items.length) : key items[i] < key items[j] :=
  List.pairwise_iff_getElem.mp sorted i j (Nat.lt_trans before inside) inside before

theorem Sorted.eraseIdx (sorted : Sorted key items) (index : Nat) :
    Sorted key (items.eraseIdx index) :=
  List.Pairwise.sublist (List.eraseIdx_sublist items index) sorted

theorem Sorted.filter (sorted : Sorted key items) (keep : α → Bool) :
    Sorted key (items.filter keep) :=
  List.Pairwise.sublist List.filter_sublist sorted

/-- No key is smaller than one in front of it. -/
def Ascending (key : α → κ) (items : List α) : Prop := items.Pairwise fun a b => ¬ key b < key a

theorem Ascending.of_keys (ascending : Ascending key items) {others : List α}
    (keys : others.map key = items.map key) : Ascending key others := by
  rw [Ascending, ← List.pairwise_map (f := key) (R := fun k l => ¬ l < k), keys]
  exact List.pairwise_map.mpr ascending

section Total

variable [IsStrictTotalOrder κ (· < ·)]

theorem Sorted.ascending (sorted : Sorted key items) : Ascending key items :=
  sorted.imp fun {a b} (below : key a < key b) => asymm below

theorem Ascending.not_lt (ascending : Ascending key items) {i j : Nat} {a b : α}
    (one : items[i]? = some a) (other : items[j]? = some b) (order : i ≤ j) :
    ¬ key b < key a := by
  obtain ⟨front, rfl⟩ := List.getElem?_eq_some_iff.mp one
  obtain ⟨back, rfl⟩ := List.getElem?_eq_some_iff.mp other
  rcases Nat.lt_or_eq_of_le order with before | rfl
  · exact List.pairwise_iff_getElem.mp ascending i j front back before
  · exact irrefl _

end Total

/-! ### Searching by halves -/

/-- Where an item may be is closed in by smaller keys in front and greater keys behind. -/
structure Closed (key : α → κ) (k : κ) (items : List α) (low high : Nat) : Prop where
  order : low ≤ high
  inside : high ≤ items.length
  below : ∀ index a, items[index]? = some a → index < low → key a < k
  above : ∀ index a, items[index]? = some a → high ≤ index → k < key a

theorem Closed.whole (key : α → κ) (k : κ) (items : List α) :
    Closed key k items 0 items.length where
  order := Nat.zero_le _
  inside := Nat.le_refl _
  below := nofun
  above index a here behind := by
    rw [List.getElem?_eq_none behind] at here
    cases here

section Search

variable [DecidableLT κ]

/-- Halves the part of the items from `low` to `high` until the key is found or no item is left. -/
def halve (key : α → κ) (k : κ) (items : List α) (low high : Nat) : Position :=
  if low < high then
    match items[low + (high - low) / 2]? with
    | none => .vacant low
    | some a =>
      if key a < k then halve key k items (low + (high - low) / 2 + 1) high
      else if k < key a then halve key k items low (low + (high - low) / 2)
      else .found (low + (high - low) / 2)
  else .vacant low
termination_by high - low

variable [IsStrictTotalOrder κ (· < ·)]

/-- Halving comes upon an item with the key, whichever of several, or closes in a place where none
is. -/
theorem Closed.halve {k : κ} {low high : Nat} (closed : Closed key k items low high)
    (ascending : Ascending key items) :
    match SortedStore.halve key k items low high with
    | .found index => ∃ a, items[index]? = some a ∧ key a = k
    | .vacant index => Closed key k items index index := by
  fun_induction SortedStore.halve key k items low high with
  | case1 low high left none =>
    rw [List.getElem?_eq_none_iff] at none
    have inside := closed.inside
    omega
  | case2 low high left a here below ih =>
    refine ih ⟨by omega, closed.inside, ?_, closed.above⟩
    intro index b there before
    exact trans_trichotomous_left (ascending.not_lt there here (Nat.le_of_lt_succ before)) below
  | case3 low high left a here reached above ih =>
    have inside := closed.inside
    refine ih ⟨by omega, by omega, closed.below, ?_⟩
    intro index b there behind
    exact trans_trichotomous_right above (ascending.not_lt here there behind)
  | case4 low high left a here reached notAbove =>
    exact ⟨a, here, Std.Trichotomous.trichotomous _ _ reached notAbove⟩
  | case5 low high empty =>
    obtain rfl : low = high := Nat.le_antisymm closed.order (Nat.not_lt.mp empty)
    exact closed

/-- Of different keys there is one place, which halving finds as a look at all items does. -/
theorem Sorted.findIdx?_eq_halve [DecidableEq κ] (sorted : Sorted key items) (k : κ) :
    items.findIdx? (fun a => decide (key a = k)) =
      match halve key k items 0 items.length with
      | .found index => some index
      | .vacant _ => none := by
  have closed := (Closed.whole key k items).halve sorted.ascending
  cases told : halve key k items 0 items.length with
  | found index =>
    rw [told] at closed
    obtain ⟨a, here, rfl⟩ := closed
    obtain ⟨inside, rfl⟩ := List.getElem?_eq_some_iff.mp here
    rw [List.findIdx?_eq_some_iff_getElem]
    refine ⟨inside, decide_eq_true rfl, fun earlier before same => ?_⟩
    have below := sorted.getElem_lt before inside
    rw [of_decide_eq_true same] at below
    exact irrefl _ below
  | vacant index =>
    rw [told] at closed
    rw [List.findIdx?_eq_none_iff]
    intro a member
    obtain ⟨place, here⟩ := List.getElem?_of_mem member
    refine decide_eq_false fun same => ?_
    rcases Nat.lt_or_ge place index with before | behind
    · have below := closed.below place a here before
      rw [same] at below
      exact irrefl _ below
    · have above := closed.above place a here behind
      rw [same] at above
      exact irrefl _ above

/-- A search by halves finds the item that a look at all of them finds, and finds none otherwise. -/
theorem Sorted.find?_eq_halve [DecidableEq κ] (sorted : Sorted key items) (k : κ) :
    items.find? (fun a => decide (key a = k)) = match halve key k items 0 items.length with
      | .found index => items[index]?
      | .vacant _ => none := by
  rw [List.find?_eq_bind_findIdx?_getElem?, sorted.findIdx?_eq_halve]
  cases halve key k items 0 items.length <;> rfl

end Search

/-! ### Single items -/

theorem Sorted.find?_of_mem [DecidableEq κ] [IsStrictTotalOrder κ (· < ·)]
    (sorted : Sorted key items) {a : α} (member : a ∈ items) :
    items.find? (fun b => decide (key b = key a)) = some a := by
  induction items with
  | nil => cases member
  | cons b rest ih =>
    obtain ⟨first, sorted⟩ := List.pairwise_cons.mp sorted
    rw [List.find?_cons]
    rcases List.mem_cons.mp member with rfl | later
    · simp
    · have other : key b ≠ key a := fun same => by
        have before := first a later
        rw [same] at before
        exact irrefl _ before
      simp only [other, decide_false]
      exact ih sorted later

theorem Sorted.find?_eq_some_iff [DecidableEq κ] [IsStrictTotalOrder κ (· < ·)]
    (sorted : Sorted key items) {k : κ} {a : α} :
    items.find? (fun b => decide (key b = k)) = some a ↔ a ∈ items ∧ key a = k := by
  constructor
  · intro found
    exact ⟨List.mem_of_find?_eq_some found, by simpa using List.find?_some found⟩
  · rintro ⟨member, rfl⟩
    exact sorted.find?_of_mem member

theorem Sorted.nodup [IsStrictTotalOrder κ (· < ·)] (sorted : Sorted key items) :
    (items.map key).Nodup := by
  rw [List.Nodup, List.pairwise_map]
  refine sorted.imp fun below same => ?_
  rw [same] at below
  exact irrefl _ below

theorem Sorted.ncard_keys [IsStrictTotalOrder κ (· < ·)] (sorted : Sorted key items) :
    {k | ∃ a ∈ items, key a = k}.ncard = items.length := by
  classical
  have keys : {k | ∃ a ∈ items, key a = k} = ((items.map key).toFinset : Set κ) := by
    ext k
    simp
  rw [keys, Set.ncard_coe_finset, List.toFinset_card_of_nodup sorted.nodup, List.length_map]

theorem Sorted.eq_of_mem_iff [IsStrictTotalOrder κ (· < ·)] {others : List α}
    (sorted : Sorted key items) (sortedToo : Sorted key others)
    (same : ∀ a, a ∈ items ↔ a ∈ others) : items = others := by
  have distinct : ∀ {list : List α}, Sorted key list → list.Nodup := fun sorted =>
    List.Pairwise.of_map key (fun _ _ apart same => apart (congrArg key same)) sorted.nodup
  have perm : items.Perm others :=
    (List.perm_ext_iff_of_nodup (distinct sorted) (distinct sortedToo)).mpr same
  refine perm.eq_of_pairwise (fun a b _ _ below above => ?_) sorted sortedToo
  exact absurd (Trans.trans below above : key a < key a) (irrefl _)

/-- What is taken out of the middle was not there twice. -/
theorem Sorted.apart [IsStrictTotalOrder κ (· < ·)] {earlier later : List α} {a : α}
    (sorted : Sorted key (earlier ++ a :: later)) : ∀ b ∈ earlier ++ later, key b ≠ key a := by
  obtain ⟨-, behind, across⟩ := List.pairwise_append.mp sorted
  obtain ⟨after, -⟩ := List.pairwise_cons.mp behind
  intro b member same
  rcases List.mem_append.mp member with front | back
  · have before := across b front a (List.mem_cons_self ..)
    rw [same] at before
    exact irrefl _ before
  · have before := after b back
    rw [same] at before
    exact irrefl _ before

/-- An item goes between those that may stand in front of it and those that may stand behind, of
which the first tells for all. -/
theorem pairwise_place {r : α → α → Prop} {earlier later : List α} {a : α}
    (goesOn : ∀ {b c}, r a b → r b c → r a c) (pairwise : (earlier ++ later).Pairwise r)
    (below : ∀ b ∈ earlier, r b a) (above : ∀ b ∈ later.head?, r a b) :
    (earlier ++ a :: later).Pairwise r := by
  obtain ⟨front, back, across⟩ := List.pairwise_append.mp pairwise
  have after : ∀ b ∈ later, r a b := by
    cases later with
    | nil => exact nofun
    | cons next rest =>
      obtain ⟨first, -⟩ := List.pairwise_cons.mp back
      have here : r a next := above next rfl
      intro b member
      rcases List.mem_cons.mp member with rfl | member
      · exact here
      · exact goesOn here (first b member)
  refine List.pairwise_append.mpr ⟨front, List.pairwise_cons.mpr ⟨after, back⟩, ?_⟩
  intro b early c late
  rcases List.mem_cons.mp late with rfl | late
  · exact below b early
  · exact across b early c late

theorem Sorted.place [IsStrictTotalOrder κ (· < ·)] {earlier later : List α} {a : α}
    (sorted : Sorted key (earlier ++ later)) (below : ∀ b ∈ earlier, key b < key a)
    (above : ∀ b ∈ later.head?, key a < key b) : Sorted key (earlier ++ a :: later) :=
  pairwise_place (fun first second => Trans.trans first second) sorted below above

theorem Ascending.place [IsStrictTotalOrder κ (· < ·)] {earlier later : List α} {a : α}
    (ascending : Ascending key (earlier ++ later)) (below : ∀ b ∈ earlier, ¬ key a < key b)
    (above : ∀ b ∈ later.head?, ¬ key b < key a) : Ascending key (earlier ++ a :: later) :=
  pairwise_place (fun first second less => first (trans_trichotomous_left second less))
    ascending below above

theorem Sorted.of_keys (sorted : Sorted key items) {others : List α}
    (keys : others.map key = items.map key) : Sorted key others := by
  rw [Sorted, ← List.pairwise_map (f := key) (R := (· < ·)), keys]
  exact List.pairwise_map.mpr sorted

theorem Sorted.modifyFirst (sorted : Sorted key items) {f : α → α}
    (keeps : ∀ a, key (f a) = key a) (p : α → Bool) :
    Sorted key (SortedStore.modifyFirst p f items) := by
  apply sorted.of_keys
  clear sorted
  induction items with
  | nil => rfl
  | cons a rest ih =>
    rw [modifyFirst_cons]
    cases p a with
    | true => simp [keeps]
    | false => simp [ih]

/-! ### Keeping items -/

/-- Items that are not kept come in front of the free slots, the last of them first. -/
theorem retain_eq (s : SortedStore α) (keep : α → Bool) :
    s.retain keep = ⟨s.items.filter keep, (s.items.filter (!keep ·)).reverse ++ s.free⟩ := by
  obtain ⟨items, free⟩ := s
  show Id.run (retainM (fun a => pure (keep a)) items free) = _
  induction items generalizing free with
  | nil => rfl
  | cons a rest ih =>
    rw [retainM]
    cases kept : keep a with
    | true =>
      simp only [Id.run_bind, Id.run_pure, if_true, ih, List.filter_cons, kept]
      rfl
    | false =>
      simp only [Id.run_bind, Id.run_pure, Bool.false_eq_true, if_false, ih, List.filter_cons, kept]
      simp

end SortedStore

namespace LocationTable

/-- The sweep takes out what is not alive, and tells how much that was. -/
theorem expire_eq (table : LocationTable) (now : Instant) :
    table.expire now = (table.entries.countP (!·.isAlive now),
      ⟨⟨table.entries.filter (·.isAlive now),
        (table.entries.filter (!·.isAlive now)).reverse ++ table.store.free⟩⟩) := by
  refine Prod.ext ?_ (congrArg LocationTable.mk (SortedStore.retain_eq ..))
  rw [expire, SortedStore.retain_eq]
  show table.entries.length - (table.entries.filter (·.isAlive now)).length = _
  rw [List.length_eq_countP_add_countP (·.isAlive now), ← List.countP_eq_length_filter,
    Nat.add_sub_cancel_left]
  exact List.countP_congr fun entry _ => by simp

theorem expire_of_alive {table : LocationTable} {now : Instant}
    (alive : ∀ entry ∈ table.entries, entry.isAlive now = true) :
    (table.expire now).2 = table := by
  have kept : table.entries.filter (·.isAlive now) = table.entries :=
    List.filter_eq_self.mpr alive
  have out : table.entries.filter (!·.isAlive now) = [] :=
    List.filter_eq_nil_iff.mpr fun entry member => by simp [alive entry member]
  rw [expire_eq, kept, out]
  rfl

theorem find?_expire {table : LocationTable} {now : Instant} {mid : Mid}
    (lasts : ∀ entry ∈ table.find? mid, entry.isAlive now = true) :
    (table.expire now).2.find? mid = table.find? mid := by
  unfold find? at lasts ⊢
  rw [expire_eq]
  show (table.entries.filter (·.isAlive now)).find? (fun entry => decide (entry.mid = mid)) = _
  generalize table.entries = entries at lasts ⊢
  induction entries with
  | nil => rfl
  | cons first rest ih =>
    by_cases own : first.mid = mid
    · have alive : first.isAlive now = true := lasts first (by simp [own])
      simp [alive, own]
    · have behind := ih (by simpa [own] using lasts)
      cases alive : first.isAlive now with
      | true => simpa [List.filter_cons, alive, own] using behind
      | false => simpa [List.filter_cons, alive, own] using behind

theorem capacity_expire (table : LocationTable) (now : Instant) :
    (table.expire now).2.capacity = table.capacity := by
  have parted := (List.filter_append_perm (·.isAlive now) table.entries).length_eq
  rw [List.length_append] at parted
  simp only [expire_eq, capacity, SortedStore.capacity, List.length_append, List.length_reverse]
  rw [← Nat.add_assoc, parted]
  rfl

end LocationTable

theorem Entry.Placed.sorted {entry : Entry} {before after : List Entry}
    (placed : entry.Placed before after) (sorted : SortedStore.Sorted Entry.mid before) :
    SortedStore.Sorted Entry.mid after := by
  cases placed with
  | overwritten same first =>
    apply sorted.of_keys
    rw [List.map_append, List.map_append, List.map_cons, List.map_cons, same]
  | inserted below above absent => exact sorted.place below above

end GeoRouter
