/-!
# Decimal numbers

Reading whole numbers that have to lie within bounds. A number has at least one digit and may have
a plus sign in front of them; only one that can be negative may have a minus sign.
-/

namespace GeoRouter.Decimal

def digits? (before : Nat) : List Char → Option Nat
  | [] => some before
  | c :: rest =>
    if '0' ≤ c ∧ c ≤ '9' then digits? (before * 10 + (c.toNat - '0'.toNat)) rest else none

def magnitude? (text : List Char) : Option Nat :=
  if text.isEmpty then none else digits? 0 text

def natural? (count : Nat) (text : String) : Option Nat :=
  let magnitude := match text.toList with
    | '+' :: rest => magnitude? rest
    | all => magnitude? all
  magnitude.filter (· < count)

/-- One of `count` numbers around zero, half of which are negative. -/
def integer? (count : Nat) (text : String) : Option Int :=
  let number : Option Int := match text.toList with
    | '-' :: rest => (magnitude? rest).map fun n => - n
    | '+' :: rest => (magnitude? rest).map fun n => n
    | all => (magnitude? all).map fun n => n
  number.filter fun n => - (count : Int) ≤ 2 * n ∧ 2 * n < count

end GeoRouter.Decimal
