import GeoRouter.Buffer.Basic

/-!
# Containers of framed octets

What is common to a plain buffer and to a frame around another container: its view, which is the
octets it frames, overwriting within the view, and changing the length of the view. A length
change keeps the common prefix of the view, and so any range of octets that lies in it.
-/

namespace GeoRouter

class Container (C : Type) where
  view : C → Except Fault Bytes
  overwrite : C → (start : Nat) → Bytes → Except Fault C
  resize : C → (length : Nat) → Except Fault (Answer SizeError C C)

instance : Container Buffer where
  view buffer := .ok buffer.bytes
  overwrite buffer start data := do
    return { buffer with bytes := ← buffer.bytes.overwrite start data }
  resize buffer length := .ok (buffer.resize length)

/-- A half-open range of positions. -/
structure Range where
  start : Nat
  stop : Nat
  deriving DecidableEq

namespace Range

def size (r : Range) : Nat := r.stop - r.start

end Range

/-- A length change that has to keep a range of octets. -/
structure Reframe where
  length : Nat
  kept : Range
  deriving DecidableEq

namespace Reframe

/-- The same change seen from outside a header of `header` octets, which is kept as well. -/
def withinHeader (r : Reframe) (header : Nat) : Reframe :=
  ⟨r.length + header, ⟨0, r.kept.stop + header⟩⟩

end Reframe

namespace Container

variable {C : Type} [Container C]

/-- Changes the length and keeps a range. Every container keeps the whole common prefix, so the
range asks for nothing more. -/
def reframe (c : C) (r : Reframe) : Except Fault (Answer SizeError C C) :=
  resize c r.length

/-- Copies a range of the view to another position in it. The two places may overlap. -/
def copyWithin (c : C) (source : Range) (target : Nat) : Except Fault C := do
  if source.stop < source.start then throw .outOfBounds
  overwrite c target (← (← view c).slice source.start source.size)

end Container

/-- A length change in the course of which a payload moves from one range to another. -/
structure Relocation where
  length : Nat
  source : Range
  target : Range
  deriving DecidableEq

namespace Relocation

/-- The ranges are of one size and lie in the present and in the future view. -/
def fits (r : Relocation) (present : Nat) : Bool :=
  r.source.size = r.target.size && r.source.stop ≤ present && r.target.stop ≤ r.length

end Relocation

namespace Container

variable {C : Type} [Container C]

def resizeUnlessLength (c : C) (length : Nat) : Except Fault (Answer SizeError C C) := do
  if (← view c).length = length then return .ok c else resize c length

/-- Gives the view its new length, unless that would cut off the payload, which has yet to move. -/
def makeRoom (c : C) (r : Relocation) : Except Fault (Answer SizeError C C) := do
  unless r.fits (← view c).length do throw .badRelocation
  if r.source.stop ≤ r.length then resizeUnlessLength c r.length else return .ok c

/-- Moves a payload and changes the length. The octets move after the view has grown or before it
shrinks below them, so that none of the payload is cut off. -/
def relocate (c : C) (r : Relocation) : Except Fault (Answer SizeError C C) := do
  match ← makeRoom c r with
  | .error refusal => return .error refusal
  | .ok c => resizeUnlessLength (← copyWithin c r.source r.target.start) r.length

end Container
end GeoRouter
