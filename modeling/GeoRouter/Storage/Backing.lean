/-!
# Backing memory

A list of objects that lives in one of three places: inline, on the heap or in borrowed memory.
The place decides what may be done to its length. Comparison looks at the place first.
-/

namespace GeoRouter

inductive Backing (α : Type) where
  | one (item : α)
  | many (items : List α)
  /-- Memory that belongs to someone else. -/
  | borrowed (items : List α)
  deriving DecidableEq

namespace Backing

variable {α : Type}

def empty : Backing α := .borrowed []

def toList : Backing α → List α
  | .one item => [item]
  | .many items => items
  | .borrowed items => items

def map (f : α → α) : Backing α → Backing α
  | .one item => .one (f item)
  | .many items => .many (items.map f)
  | .borrowed items => .borrowed (items.map f)

/-- The place as a number, in the order of comparison. -/
def place : Backing α → Nat
  | .one _ => 0
  | .many _ => 1
  | .borrowed _ => 2

/-- The first difference decides, and of two lists without one the shorter comes first. -/
def cmpItems (cmp : α → α → Ordering) : List α → List α → Ordering
  | [], [] => .eq
  | [], _ :: _ => .lt
  | _ :: _, [] => .gt
  | a :: as, b :: bs => (cmp a b).then (cmpItems cmp as bs)

def cmp (cmpItem : α → α → Ordering) (a b : Backing α) : Ordering :=
  (compare a.place b.place).then (cmpItems cmpItem a.toList b.toList)

def text (item : α → String) : Backing α → String
  | .one a => s!"One({item a})"
  | .many items => "Many([" ++ ", ".intercalate (items.map item) ++ "])"
  | .borrowed items => "Borrowed([" ++ ", ".intercalate (items.map item) ++ "])"

end Backing
end GeoRouter
