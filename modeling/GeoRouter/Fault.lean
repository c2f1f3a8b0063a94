/-!
# Faults and refusals

A step ends in one of three ways. It succeeds; it is refused, which is an ordinary answer that
says why and gives back what was handed in; or it faults, because it was asked for something that
has no meaning, such as an octet outside its buffer. The router is built so that no received frame
reaches a fault, and keeping faults in the types is what lets that be stated.
-/

namespace GeoRouter

/-- Why a step has no meaning. -/
inductive Fault where
  /-- An octet or an item outside its container. -/
  | outOfBounds
  /-- Ranges of a relocation that do not fit their frames. -/
  | badRelocation
  /-- Data that does not have the length of the place it has to fill. -/
  | lengthMismatch
  /-- A hop taken from an exhausted hop limit. -/
  | hopUnderflow
  deriving DecidableEq

/-- A refused operation: the reason, and the container as the operation left it. -/
structure Refusal (ε C : Type) where
  cause : ε
  left : C
  deriving DecidableEq

/-- The answer of an operation on a container of type `C` that may be refused. -/
abbrev Answer (ε C α : Type) := Except (Refusal ε C) α

end GeoRouter
