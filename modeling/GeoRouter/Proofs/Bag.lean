import Mathlib.Data.List.Perm.Basic
import GeoRouter.Proofs.Order
import GeoRouter.Storage.Backing

/-!
# Sorted storage as a bag

Several items may have one key, and a search may then tell the place of any of them. Whichever it
tells, the items stay in the order of their keys, and what is in the storage stays there until a slot
is written. `Answers` says call by call what is answered and left behind; the loop that takes items
out while it goes over them ends, asks for each item once and keeps the others as they stood.
-/

namespace GeoRouter
namespace SortedStore

variable {α κ : Type}

/-! ### Calls -/

/-- What may be asked of a sorted storage. A change of an item leaves its key. -/
inductive Call (key : α → κ) where
  /-- Shows the slot that is pushed next, and writes it. -/
  | init (item : Option α)
  | push
  | pop (index : Nat)
  /-- Whether an item is kept may depend on those that were asked for before it. -/
  | retain (keep : List α → α → Bool)
  | change (index : Nat) (f : α → α) (keeps : ∀ a, key (f a) = key a)
  | changeAll (f : α → α) (keeps : ∀ a, key (f a) = key a)

inductive Answer (α : Type) where
  | item (found : Option α)
  | index (index : Option Nat)
  | taken (answer : Bool)
  | asked (items : List α)
  | changed

def Position.index : Position → Nat
  | .found index => index
  | .vacant index => index

/-- Moves the first free slot to where a search among the items sends it. -/
def pushBy (key : α → κ) (find : List α → κ → Position) (s : SortedStore α) :
    Option (Nat × SortedStore α) :=
  match s.free with
  | [] => none
  | a :: rest =>
    let index := (find s.items (key a)).index
    some (index, ⟨s.items.take index ++ a :: s.items.drop index, rest⟩)

/-- Asks whether to keep an item, and notes that it was asked for. -/
def asking (keep : List α → α → Bool) (a : α) : StateM (List α) Bool :=
  modifyGet fun asked => (keep asked a, asked ++ [a])

/-- Takes out from an index on what is not kept. Where an item was taken out the next one has come,
so that the index goes on only past an item that is kept. -/
def sift {m : Type → Type} [Monad m] (keep : α → m Bool) (s : SortedStore α) (index : Nat) :
    m (SortedStore α) :=
  match here : s.items[index]? with
  | none => pure s
  | some a => do
    if ← keep a then sift keep s (index + 1)
    else sift keep ((s.pop index).getD s) index
termination_by s.size - index
decreasing_by
  · have inside := (List.getElem?_eq_some_iff.mp here).1
    rw [size]
    omega
  · have inside := (List.getElem?_eq_some_iff.mp here).1
    simp only [pop, here, Option.getD_some, size, List.length_eraseIdx_of_lt inside]
    omega

def perform {key : α → κ} (find : List α → κ → Position) (s : SortedStore α) :
    Call key → Answer α × SortedStore α
  | .init item => (.item s.slot?, match item with
    | some a => s.write a
    | none => s)
  | .push =>
    match s.pushBy key find with
    | some (index, after) => (.index (some index), after)
    | none => (.index none, s)
  | .pop index =>
    match s.pop index with
    | some after => (.taken true, after)
    | none => (.taken false, s)
  | .retain keep =>
    let (after, asked) := ((retainM (asking keep) s.items s.free).run []).run
    (.asked asked, after)
  | .change index f _ => (.item s.items[index]?, s.modify index f)
  | .changeAll f _ => (.changed, s.map f)

/-- A call with the storage before and after it. -/
structure Step (key : α → κ) where
  before : SortedStore α
  call : Call key
  answer : Answer α
  after : SortedStore α

def calls {key : α → κ} (find : List α → κ → Position) (s : SortedStore α) :
    List (Call key) → List (Step key) × SortedStore α
  | [] => ([], s)
  | call :: rest =>
    let (answer, after) := s.perform find call
    let (later, last) := after.calls find rest
    (⟨s, call, answer, after⟩ :: later, last)

/-! ### What is promised -/

/-- The items of which each is kept when it is asked for behind those in front of it. -/
def kept (keep : List α → α → Bool) (items : List α) : List α :=
  (items.zipIdx.filter fun item => keep (items.take item.2) item.1).map (·.1)

/-- What a call answers, and what it leaves in the storage. -/
def Answers {key : α → κ} (before : SortedStore α) : Call key → Answer α → SortedStore α → Prop
  | .init item, answer, after =>
    answer = .item before.slots[before.size]? ∧ after.items = before.items ∧
      after.slots = match item with
        | some a => before.slots.set before.size a
        | none => before.slots
  | .push, answer, after =>
    if before.size = before.capacity then answer = .index none ∧ after = before
    else ∃ a index, before.slots[before.size]? = some a ∧ index ≤ before.size ∧
      answer = .index (some index) ∧ after.items = before.items.insertIdx index a ∧
      after.slots.Perm before.slots
  | .pop index, answer, after =>
    if before.size ≤ index then answer = .taken false ∧ after = before
    else answer = .taken true ∧ after.items = before.items.eraseIdx index ∧
      after.slots.Perm before.slots
  | .retain keep, answer, after =>
    ((before.sift (asking keep) 0).run []).run = (after, before.items) ∧
      answer = .asked before.items ∧ after.items = kept keep before.items ∧
      after.slots.Perm before.slots
  | .change index f _, answer, after =>
    answer = .item before.items[index]? ∧ after.items = before.items.modify index f ∧
      after.free = before.free
  | .changeAll f _, answer, after =>
    answer = .changed ∧ after.items = before.items.map f ∧ after.free = before.free

namespace Step

variable {key : α → κ}

/-- What was in the places that a call writes. -/
def overwritten (step : Step key) : List α :=
  match step.call with
  | .init (some _) => step.before.slots[step.before.size]?.toList
  | .change index _ _ => step.before.items[index]?.toList
  | .changeAll _ _ => step.before.items
  | _ => []

/-- What is there instead. -/
def written (step : Step key) : List α :=
  match step.call with
  | .init (some a) => (step.before.slots[step.before.size]?.map fun _ => a).toList
  | .change index f _ => (step.before.items[index]?.map f).toList
  | .changeAll f _ => step.before.items.map f
  | _ => []

end Step

section Order

variable [LT κ] (key : α → κ)

/-- What is promised of a search among items in order: it tells where an item with the key is, or
else where one may go. -/
structure Finds (find : List α → κ → Position) : Prop where
  found {items : List α} {k : κ} {index : Nat} (ascending : Ascending key items)
    (told : find items k = .found index) : ∃ a, items[index]? = some a ∧ key a = k
  vacant {items : List α} {k : κ} {index : Nat} (ascending : Ascending key items)
    (told : find items k = .vacant index) : index ≤ items.length ∧
      ∀ a, key a = k → Ascending key (items.take index ++ a :: items.drop index)

/-- The search of the storage: by the number of items in front. -/
def searched [DecidableLT κ] (items : List α) (k : κ) : Position :=
  (⟨items, []⟩ : SortedStore α).search key k

end Order

/-! ### Places in order -/

section Searched

variable [LT κ] [DecidableLT κ] (key : α → κ)

theorem rank_le_length (key : α → κ) (k : κ) (items : List α) :
    rank key k items ≤ items.length := by
  induction items with
  | nil => exact Nat.le_refl 0
  | cons a rest ih =>
    rw [rank]
    split
    · exact Nat.succ_le_succ ih
    · exact Nat.zero_le _

theorem index_searched (items : List α) (k : κ) :
    (searched key items k).index = rank key k items := by
  simp only [searched, search]
  split
  · split <;> rfl
  · rfl

theorem push_eq_pushBy (s : SortedStore α) : s.push key = s.pushBy key (searched key) := by
  unfold push pushBy
  cases s.free with
  | nil => rfl
  | cons a rest => simp only [index_searched]

end Searched

section Ascending

variable [LT κ] {key : α → κ} [IsStrictTotalOrder κ (· < ·)]

/-- An item may go to where one with its key is. -/
theorem Ascending.place_same {items : List α} {a b : α} {index : Nat}
    (ascending : Ascending key items) (here : items[index]? = some b) (same : key b = key a) :
    Ascending key (items.take index ++ a :: items.drop index) := by
  have behind : (items.drop index).head? = some b := by rw [List.head?_drop, here]
  rw [← List.take_append_drop index items] at ascending
  refine ascending.place ?_ ?_
  · intro c early
    obtain ⟨-, -, across⟩ := List.pairwise_append.mp ascending
    rw [← same]
    exact across c early b (List.mem_of_head? behind)
  · intro c first
    obtain rfl := Option.some.inj (behind.symm.trans first)
    rw [same]
    exact irrefl _

variable [DecidableLT κ]

theorem finds_searched : Finds key (searched key) where
  found {items k index} ascending told := by
    have place := index_searched key items k
    rw [told] at place
    obtain rfl : index = rank key k items := place
    simp only [searched, search] at told
    split at told
    · rename_i a here
      split at told
      · cases told
      · rename_i notAbove
        have behind : (items.drop (rank key k items)).head? = some a := by
          rw [List.head?_drop, here]
        have notBelow := (rank_between key k items).2 a behind
        exact ⟨a, here, Std.Trichotomous.trichotomous _ _ notBelow notAbove⟩
    · cases told
  vacant {items k index} ascending told := by
    have place := index_searched key items k
    rw [told] at place
    obtain rfl : index = rank key k items := place
    obtain ⟨below, above⟩ := rank_between key k items
    refine ⟨rank_le_length key k items, ?_⟩
    rintro a rfl
    rw [← List.take_append_drop (rank key (key a) items) items] at ascending
    exact ascending.place (fun b early => asymm (below b early)) above

/-- So does a search by halves, which may come upon any of several items. -/
theorem finds_halve : Finds key fun items k => halve key k items 0 items.length where
  found {items k index} ascending told := by
    have closed := (Closed.whole key k items).halve ascending
    rw [told] at closed
    exact closed
  vacant {items k index} ascending told := by
    have closed := (Closed.whole key k items).halve ascending
    rw [told] at closed
    refine ⟨closed.inside, ?_⟩
    rintro a rfl
    rw [← List.take_append_drop index items] at ascending
    refine ascending.place ?_ ?_
    · intro b early
      obtain ⟨place, inside, rfl⟩ := List.mem_take_iff_getElem.mp early
      have front := Nat.lt_min.mp inside
      exact asymm (closed.below place _ (List.getElem?_eq_getElem front.2) front.1)
    · intro b first
      rw [List.head?_drop] at first
      exact asymm (closed.above index b first (Nat.le_refl _))

end Ascending

/-! ### Going over the items -/

/-- Taking items out one by one comes to the same as going over all of them. -/
theorem sift_eq {m : Type → Type} [Monad m] [LawfulMonad m] (keep : α → m Bool)
    (s : SortedStore α) (index : Nat) : sift keep s index = (do
      let rest ← retainM keep (s.items.drop index) s.free
      pure { rest with items := s.items.take index ++ rest.items }) := by
  fun_induction sift keep s index with
  | case1 s index none =>
    rw [List.getElem?_eq_none_iff] at none
    simp [List.drop_eq_nil_of_le none, List.take_of_length_le none, retainM]
  | case2 s index a here goesOn goesOut =>
    obtain ⟨inside, rfl⟩ := List.getElem?_eq_some_iff.mp here
    have out : (s.pop index).getD s = ⟨s.items.eraseIdx index, s.items[index] :: s.free⟩ := by
      simp only [pop, here, Option.getD_some]
    have width : (s.items.take index).length = index := List.length_take_of_le (Nat.le_of_lt inside)
    have front : (s.items.eraseIdx index).take index = s.items.take index := by
      rw [List.eraseIdx_eq_take_drop_succ, List.take_left' width]
    have back : (s.items.eraseIdx index).drop index = s.items.drop (index + 1) := by
      rw [List.eraseIdx_eq_take_drop_succ, List.drop_left' width]
    have longer : s.items.take (index + 1) = s.items.take index ++ [s.items[index]] :=
      List.take_succ_eq_append_getElem inside
    rw [out, front, back] at goesOut
    rw [List.drop_eq_getElem_cons inside, retainM, out, goesOn, goesOut, longer, bind_assoc]
    refine congrArg (keep s.items[index] >>= ·) (funext fun answer => ?_)
    cases answer with
    | true =>
      simp only [if_true, bind_assoc, pure_bind, List.append_assoc, List.singleton_append]
    | false => rfl

theorem sift_zero {m : Type → Type} [Monad m] [LawfulMonad m] (keep : α → m Bool)
    (s : SortedStore α) : sift keep s 0 = retainM keep s.items s.free := by
  rw [sift_eq]
  exact bind_pure _

theorem retainM_asking_cons (keep : List α → α → Bool) (earlier : List α) (a : α)
    (rest free : List α) : ((retainM (asking keep) (a :: rest) free).run earlier).run =
      if keep earlier a then
        let later := ((retainM (asking keep) rest free).run (earlier ++ [a])).run
        ({ later.1 with items := a :: later.1.items }, later.2)
      else ((retainM (asking keep) rest (a :: free)).run (earlier ++ [a])).run := by
  rw [retainM]
  cases kept : keep earlier a with
  | true | false =>
    simp only [asking, StateT.run_bind, StateT.run_modifyGet, kept]
    rfl

/-- Each item is asked for once, in its turn, and those that are kept stay as they stood. -/
theorem retainM_asking (keep : List α → α → Bool) (earlier rest free : List α) :
    let all := ((retainM (asking keep) rest free).run earlier).run
    all.2 = earlier ++ rest ∧ all.1.slots.Perm (rest ++ free) ∧
      all.1.items = ((rest.zipIdx earlier.length).filter fun item =>
        keep ((earlier ++ rest).take item.2) item.1).map (·.1) := by
  induction rest generalizing earlier free with
  | nil => exact ⟨(List.append_nil _).symm, List.Perm.refl _, rfl⟩
  | cons a rest ih =>
    have whole : (earlier ++ [a]) ++ rest = earlier ++ a :: rest := by simp
    have width : (earlier ++ [a]).length = earlier.length + 1 := by simp
    have front : (earlier ++ a :: rest).take earlier.length = earlier := List.take_left
    rw [retainM_asking_cons, List.zipIdx_cons, List.filter_cons]
    simp only [front]
    cases kept : keep earlier a with
    | true =>
      obtain ⟨asked, slots, items⟩ := ih (earlier ++ [a]) free
      rw [whole, width] at items
      rw [whole] at asked
      refine ⟨asked, slots.cons a, congrArg (a :: ·) items⟩
    | false =>
      obtain ⟨asked, slots, items⟩ := ih (earlier ++ [a]) (a :: free)
      rw [whole, width] at items
      rw [whole] at asked
      exact ⟨asked, slots.trans List.perm_middle, items⟩

/-! ### Single calls -/

theorem slot?_eq (s : SortedStore α) : s.slot? = s.slots[s.size]? := by
  rw [slot?, slots, size, List.getElem?_append_right (Nat.le_refl _), Nat.sub_self,
    List.head?_eq_getElem?]

theorem slots_write (s : SortedStore α) (a : α) : (s.write a).slots = s.slots.set s.size a := by
  rw [slots, slots, size, List.set_append_right _ _ (Nat.le_refl _), Nat.sub_self, write]
  cases free : s.free with
  | nil => rw [free, List.set_nil]
  | cons slot rest => rfl

theorem items_write (s : SortedStore α) (a : α) : (s.write a).items = s.items := by
  rw [write]
  cases s.free <;> rfl

theorem insertIdx_eq {items : List α} {index : Nat} (inside : index ≤ items.length) (a : α) :
    items.insertIdx index a = items.take index ++ a :: items.drop index := by
  induction items generalizing index with
  | nil =>
    obtain rfl := Nat.le_zero.mp inside
    rfl
  | cons b rest ih =>
    cases index with
    | zero => rfl
    | succ index =>
      rw [List.insertIdx_succ_cons, ih (Nat.le_of_succ_le_succ inside)]
      rfl

theorem modify_exchange (items : List α) (index : Nat) (f : α → α) :
    (items.modify index f ++ items[index]?.toList).Perm
      (items ++ (items[index]?.map f).toList) := by
  cases here : items[index]? with
  | none =>
    rw [List.modify_eq_self (List.getElem?_eq_none_iff.mp here)]
    exact List.Perm.refl _
  | some a =>
    obtain ⟨inside, rfl⟩ := List.getElem?_eq_some_iff.mp here
    have changed : (items.modify index f).Perm (f items[index] :: items.eraseIdx index) := by
      rw [List.modify_eq_set_get f inside]
      exact List.set_perm_cons_eraseIdx inside _
    have others : (items.eraseIdx index ++ [items[index]]).Perm items :=
      List.perm_append_comm.trans (List.getElem_cons_eraseIdx_perm inside)
    exact (changed.append_right _).trans ((others.cons _).trans (List.perm_append_singleton ..).symm)

theorem perm_append_swap (front one other : List α) :
    (front ++ one ++ other).Perm (front ++ other ++ one) := by
  rw [List.append_assoc, List.append_assoc]
  exact List.perm_append_comm.append_left front

theorem exchange_front {before after out back : List α}
    (exchanged : (after ++ out).Perm (before ++ back)) (behind : List α) :
    (after ++ behind ++ out).Perm (before ++ behind ++ back) := by
  apply (perm_append_swap after behind out).trans
  apply (exchanged.append_right behind).trans
  exact perm_append_swap before back behind

section Calls

variable {key : α → κ}

/-- What was in the storage is there, but for what was written over. -/
theorem Answers.exchange {before after : SortedStore α} {call : Call key} {answer : Answer α}
    (answers : before.Answers call answer after) :
    let step : Step key := ⟨before, call, answer, after⟩
    (after.slots ++ step.overwritten).Perm (before.slots ++ step.written) := by
  have unwritten {list : List α} (perm : list.Perm before.slots) :
      (list ++ []).Perm (before.slots ++ []) := perm.append_right []
  cases call with
  | init item =>
    obtain ⟨-, -, slots⟩ := answers
    dsimp only
    rw [slots]
    cases item with
    | none => exact List.Perm.refl _
    | some a =>
      have written := modify_exchange before.slots before.size fun _ => a
      rwa [← List.set_eq_modify] at written
  | push =>
    simp only [Answers] at answers
    split at answers
    · obtain ⟨-, rfl⟩ := answers
      exact List.Perm.refl _
    · obtain ⟨a, index, -, -, -, -, slots⟩ := answers
      exact unwritten slots
  | pop index =>
    simp only [Answers] at answers
    split at answers
    · obtain ⟨-, rfl⟩ := answers
      exact List.Perm.refl _
    · exact unwritten answers.2.2
  | retain keep => exact unwritten answers.2.2.2
  | change index f keeps =>
    obtain ⟨-, items, free⟩ := answers
    dsimp only
    rw [slots, slots, items, free]
    exact exchange_front (modify_exchange before.items index f) before.free
  | changeAll f keeps =>
    obtain ⟨-, items, free⟩ := answers
    dsimp only
    rw [slots, slots, items, free]
    exact exchange_front List.perm_append_comm before.free

theorem Step.length_written (step : Step key) :
    step.written.length = step.overwritten.length := by
  obtain ⟨before, call, answer, after⟩ := step
  cases call with
  | init item =>
    cases item with
    | none => rfl
    | some a =>
      simp only [written, overwritten, Option.length_toList, Option.isSome_map]
  | change index f => simp only [written, overwritten, Option.length_toList, Option.isSome_map]
  | changeAll f => exact List.length_map f
  | push | pop | retain => rfl

theorem length_slots (s : SortedStore α) : s.slots.length = s.capacity := List.length_append

/-- What is taken out becomes the first free slot. -/
theorem pop_answers (s : SortedStore α) (index : Nat) (find : List α → κ → Position) :
    s.Answers (.pop index : Call key) (s.perform find (.pop index : Call key)).1
      (s.perform find (.pop index : Call key)).2 := by
  cases here : s.items[index]? with
  | none =>
    have behind : s.size ≤ index := List.getElem?_eq_none_iff.mp here
    simp only [perform, pop, here, Answers, if_pos behind, and_self]
  | some a =>
    obtain ⟨inside, rfl⟩ := List.getElem?_eq_some_iff.mp here
    have ahead : ¬ s.size ≤ index := Nat.not_le.mpr inside
    simp only [perform, pop, here, Answers, if_neg ahead, true_and]
    exact List.perm_middle.trans ((List.getElem_cons_eraseIdx_perm inside).append_right _)

variable [LT κ] [IsStrictTotalOrder κ (· < ·)] {find : List α → κ → Position}

/-- A slot comes to stand in order, whichever of the items with its key is found. -/
theorem Finds.pushBy (finds : Finds key find) {s : SortedStore α}
    (ascending : Ascending key s.items) {a : α} {rest : List α} (free : s.free = a :: rest) :
    ∃ index after, s.pushBy key find = some (index, after) ∧ index ≤ s.size ∧
      after.items = s.items.insertIdx index a ∧ after.free = rest ∧ Ascending key after.items := by
  have sent : (find s.items (key a)).index ≤ s.size ∧
      Ascending key (s.items.take (find s.items (key a)).index ++
        a :: s.items.drop (find s.items (key a)).index) := by
    cases told : find s.items (key a) with
    | found index =>
      obtain ⟨b, here, same⟩ := finds.found ascending told
      exact ⟨Nat.le_of_lt (List.getElem?_eq_some_iff.mp here).1, ascending.place_same here same⟩
    | vacant index =>
      obtain ⟨inside, place⟩ := finds.vacant ascending told
      exact ⟨inside, place a rfl⟩
  obtain ⟨inside, placed⟩ := sent
  refine ⟨_, _, by rw [SortedStore.pushBy, free], inside, ?_, rfl, placed⟩
  exact (insertIdx_eq inside a).symm

theorem perform_answers (finds : Finds key find) {s : SortedStore α}
    (ascending : Ascending key s.items) (call : Call key) :
    s.Answers call (s.perform find call).1 (s.perform find call).2 := by
  cases call with
  | init item =>
    cases item with
    | none => exact ⟨congrArg Answer.item s.slot?_eq, rfl, rfl⟩
    | some a => exact ⟨congrArg Answer.item s.slot?_eq, s.items_write a, s.slots_write a⟩
  | push =>
    cases free : s.free with
    | nil =>
      have full := size_eq_capacity_iff.mpr free
      simp only [perform, pushBy, free, Answers, if_pos full, and_self]
    | cons a rest =>
      have room : s.size ≠ s.capacity := fun full => by
        rw [size_eq_capacity_iff.mp full] at free
        cases free
      obtain ⟨index, after, pushed, inside, items, left, -⟩ := finds.pushBy ascending free
      have slot : s.slots[s.size]? = some a := by
        rw [← slot?_eq, slot?, free]
        rfl
      simp only [perform, pushed, Answers, if_neg room]
      refine ⟨a, index, slot, inside, rfl, items, ?_⟩
      rw [slots, slots, items, left, free]
      exact ((List.perm_insertIdx a s.items inside).append_right rest).trans List.perm_middle.symm
  | pop index => exact s.pop_answers index find
  | retain keep =>
    obtain ⟨asked, slots, items⟩ := retainM_asking keep [] s.items s.free
    refine ⟨?_, congrArg Answer.asked asked, items, slots⟩
    rw [sift_zero]
    exact Prod.ext rfl asked
  | change index f keeps => exact ⟨rfl, rfl, rfl⟩
  | changeAll f keeps => exact ⟨rfl, rfl, rfl⟩

theorem Ascending.perform (finds : Finds key find) {s : SortedStore α}
    (ascending : Ascending key s.items) (call : Call key) :
    Ascending key (s.perform find call).2.items := by
  have answers := perform_answers finds ascending call
  cases call with
  | init item =>
    obtain ⟨-, items, -⟩ := answers
    rw [items]
    exact ascending
  | push =>
    cases free : s.free with
    | nil =>
      simp only [SortedStore.perform, SortedStore.pushBy, free]
      exact ascending
    | cons a rest =>
      obtain ⟨index, after, pushed, -, -, -, placed⟩ := finds.pushBy ascending free
      simp only [SortedStore.perform, pushed]
      exact placed
  | pop index =>
    simp only [Answers] at answers
    split at answers
    · rw [answers.2]
      exact ascending
    · rw [answers.2.1]
      exact ascending.sublist (List.eraseIdx_sublist ..)
  | retain keep =>
    obtain ⟨-, -, items, -⟩ := answers
    rw [items]
    refine ascending.sublist ?_
    have part := (List.filter_sublist (l := s.items.zipIdx)
      (p := fun item => keep (s.items.take item.2) item.1)).map Prod.fst
    rwa [List.zipIdx_map_fst] at part
  | change index f keeps =>
    apply ascending.of_keys
    apply List.ext_getElem?
    intro place
    show ((s.items.modify index f).map key)[place]? = _
    rw [List.getElem?_map, List.getElem?_modify, List.getElem?_map]
    cases s.items[place]? with
    | none => rfl
    | some a =>
      show some (key (if index = place then f a else a)) = some (key a)
      split
      · rw [keeps]
      · rfl
  | changeAll f keeps =>
    apply ascending.of_keys
    show (s.items.map f).map key = _
    rw [List.map_map]
    exact List.map_congr_left fun a _ => keeps a

/-! ### Runs of calls -/

/-- What holds of every call in a run. -/
structure Step.Kept (step : Step key) : Prop where
  answers : step.before.Answers step.call step.answer step.after
  ascending : Ascending key step.after.items
  bounded : step.after.size ≤ step.after.capacity
  capacity : step.after.capacity = step.before.capacity

theorem Step.kept (finds : Finds key find) {s : SortedStore α} (ascending : Ascending key s.items)
    (call : Call key) :
    (Step.mk s call (s.perform find call).1 (s.perform find call).2).Kept := by
  have answers := perform_answers finds ascending call
  have size := answers.exchange.length_eq
  rw [List.length_append, List.length_append, length_written, length_slots, length_slots] at size
  exact ⟨answers, ascending.perform finds call, Nat.le_add_right .., Nat.add_right_cancel size⟩

theorem Ascending.calls (finds : Finds key find) {s : SortedStore α}
    (ascending : Ascending key s.items) (list : List (Call key)) :
    let (history, last) := s.calls find list
    Ascending key last.items ∧ last.capacity = s.capacity ∧ (∀ step ∈ history, step.Kept) ∧
      (last.slots ++ history.flatMap (·.overwritten)).Perm
        (s.slots ++ history.flatMap (·.written)) := by
  induction list generalizing s with
  | nil => 
    refine ⟨ascending, rfl, fun step none => ?_, List.Perm.refl _⟩
    cases none
  | cons call rest ih =>
    have kept := Step.kept finds ascending call
    obtain ⟨last, room, others, exchanged⟩ := ih kept.ascending
    have first := kept.answers.exchange
    refine ⟨last, room.trans kept.capacity, ?_, ?_⟩
    · intro step member
      rcases List.mem_cons.mp member with rfl | member
      · exact kept
      · exact others step member
    · rw [List.flatMap_cons, List.flatMap_cons, ← List.append_assoc, ← List.append_assoc]
      apply (perm_append_swap ..).trans
      apply (exchanged.append_right _).trans
      apply (perm_append_swap ..).trans
      exact first.append_right _

variable [DecidableLT κ]

/-- A storage of any kind, with anything left in its slots, is a bag of items in the order of their
keys, whichever search it uses that keeps its promise, such as its own. What is promised of each call
holds in every run, and all that was in the slots or is written to them is there in the end, but for
what was written over. -/
theorem storage_keeps_bag (finds : Finds key find) (backing : Backing α) (list : List (Call key)) :
    let (history, last) := (ofList backing.toList).calls find list
    (Finds key (searched key) ∧ ∀ s : SortedStore α, s.push key = s.pushBy key (searched key)) ∧
      Ascending key last.items ∧ last.size ≤ last.capacity ∧
      last.capacity = backing.toList.length ∧ (∀ step ∈ history, step.Kept) ∧
      (last.slots ++ history.flatMap (·.overwritten)).Perm
        (backing.toList ++ history.flatMap (·.written)) := by
  have start : Ascending key (ofList backing.toList).items := List.Pairwise.nil
  obtain ⟨ascending, room, kept, exchanged⟩ := start.calls finds list
  refine ⟨⟨finds_searched, push_eq_pushBy key⟩, ascending, Nat.le_add_right .., ?_, kept, exchanged⟩
  exact room.trans (Nat.zero_add _)

end Calls

/-- Three slots in borrowed memory and a search by halves: two items with one key come in and a third
in front of them, a push finds the storage full, the second item that is asked for goes, and the tag
of another is changed. -/
theorem storage_keeps_bag_of_equal_keys :
    let key : Mid × Nat → Mid := Prod.fst
    let find (items : List (Mid × Nat)) (k : Mid) := halve key k items 0 items.length
    let list : List (Call key) := [
      .init (some (⟨3⟩, 0)), .push, .init (some (⟨3⟩, 1)), .push, .init (some (⟨1⟩, 2)), .push, .push,
      .retain fun asked _ => asked.length ≠ 1, .pop 2,
      .change 1 (fun item => (item.1, 7)) fun _ => rfl]
    let (history, last) := (ofList [(⟨9⟩, 0), (⟨9⟩, 1), (⟨9⟩, 2)]).calls find list
    Finds key find ∧ last = ⟨[(⟨1⟩, 2), (⟨3⟩, 7)], [(⟨3⟩, 1)]⟩ ∧ (∀ step ∈ history, step.Kept) ∧
      history.flatMap (·.overwritten) = [(⟨9⟩, 0), (⟨9⟩, 1), (⟨9⟩, 2), (⟨3⟩, 0)] ∧
      history.flatMap (·.written) = [(⟨3⟩, 0), (⟨3⟩, 1), (⟨1⟩, 2), (⟨3⟩, 7)] := by
  intro key find list
  have finds : Finds key find := finds_halve
  obtain ⟨-, -, -, -, kept, -⟩ :=
    storage_keeps_bag finds (.borrowed [(⟨9⟩, 0), (⟨9⟩, 1), (⟨9⟩, 2)]) list
  refine ⟨finds, ?_, kept, ?_, ?_⟩
  · decide +kernel
  · decide +kernel
  · decide +kernel

end SortedStore
end GeoRouter
