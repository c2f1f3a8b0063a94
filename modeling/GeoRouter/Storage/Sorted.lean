/-!
# Sorted storage

A fixed number of slots, the first of which hold items sorted by a key while the others are free.
A free slot keeps whatever was last in it. An item enters through the first free slot, into which
it is written before `push` moves it to its place, and an item that leaves becomes the first free
slot. No operation creates or drops the contents of a slot, so only writing a slot loses something.
-/

namespace GeoRouter

structure SortedStore (α : Type) where
  items : List α
  free : List α
  deriving DecidableEq

namespace SortedStore

variable {α κ : Type}

def ofList (slots : List α) : SortedStore α := ⟨[], slots⟩

def size (s : SortedStore α) : Nat := s.items.length

def capacity (s : SortedStore α) : Nat := s.items.length + s.free.length

def slots (s : SortedStore α) : List α := s.items ++ s.free

def slot? (s : SortedStore α) : Option α := s.free.head?

def write (s : SortedStore α) (a : α) : SortedStore α :=
  match s.free with
  | [] => s
  | _ :: rest => { s with free := a :: rest }

/-- The outcome of a search: the index of an item with the key, or where one would go. -/
inductive Position where
  | found (index : Nat)
  | vacant (index : Nat)
  deriving DecidableEq

section Ordered

variable [LT κ] [DecidableLT κ] (key : α → κ)

/-- The number of leading items whose key comes before `k`. -/
def rank (k : κ) : List α → Nat
  | [] => 0
  | a :: rest => if key a < k then rank k rest + 1 else 0

def search (s : SortedStore α) (k : κ) : Position :=
  let index := rank key k s.items
  match s.items[index]? with
  | some a => if k < key a then .vacant index else .found index
  | none => .vacant index

/-- Moves the first free slot to its place among the items, and tells the index. -/
def push (s : SortedStore α) : Option (Nat × SortedStore α) :=
  match s.free with
  | [] => none
  | a :: rest =>
    let index := rank key (key a) s.items
    some (index, ⟨s.items.take index ++ a :: s.items.drop index, rest⟩)

def insert (s : SortedStore α) (a : α) : Option (Nat × SortedStore α) :=
  (s.write a).push key

end Ordered

/-- Takes the item at an index out, into the first free slot. -/
def pop (s : SortedStore α) (index : Nat) : Option (SortedStore α) :=
  match s.items[index]? with
  | some a => some ⟨s.items.eraseIdx index, a :: s.free⟩
  | none => none

/-- Asks for each item in order whether to keep it, and takes out those that are not kept. -/
def retainM {m : Type → Type} [Monad m] (keep : α → m Bool) :
    (items free : List α) → m (SortedStore α)
  | [], free => pure ⟨[], free⟩
  | a :: rest, free => do
    if ← keep a then
      let s ← retainM keep rest free
      pure { s with items := a :: s.items }
    else
      retainM keep rest (a :: free)

def retain (s : SortedStore α) (keep : α → Bool) : SortedStore α :=
  Id.run (retainM (fun a => pure (keep a)) s.items s.free)

/-- Changes the item at an index, whose key has to stay. -/
def modify (s : SortedStore α) (index : Nat) (f : α → α) : SortedStore α :=
  { s with items := s.items.modify index f }

def map (s : SortedStore α) (f : α → α) : SortedStore α :=
  { s with items := s.items.map f }

def range? (s : SortedStore α) (start stop : Nat) : Option (List α) :=
  if start ≤ stop ∧ stop ≤ s.size then some ((s.items.take stop).drop start) else none

end SortedStore
end GeoRouter
