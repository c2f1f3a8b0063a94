import GeoRouter.Address.Mid

/-!
# Random identifiers

The generator xoshiro256** with a state of four words, which SplitMix64 fills from a seed so that
no seed leaves all of them zero. Identifiers that are drawn from it are marked as locally
administered and never as a group.
-/

namespace GeoRouter

structure Generator where
  a : BitVec 64
  b : BitVec 64
  c : BitVec 64
  d : BitVec 64
  deriving DecidableEq

namespace Generator

def mix (z : BitVec 64) : BitVec 64 :=
  let z := (z ^^^ (z >>> 30)) * 0xbf58476d1ce4e5b9
  let z := (z ^^^ (z >>> 27)) * 0x94d049bb133111eb
  z ^^^ (z >>> 31)

/-- The distance of the words from which a state is made. -/
def stride : BitVec 64 := 0x9e3779b97f4a7c15

def ofSeed (seed : BitVec 64) : Generator :=
  ⟨mix (seed + stride), mix (seed + 2 * stride), mix (seed + 3 * stride),
    mix (seed + 4 * stride)⟩

def output (g : Generator) : BitVec 64 := (g.b * 5).rotateLeft 7 * 9

def advance (g : Generator) : Generator :=
  let c := g.c ^^^ g.a
  let d := g.d ^^^ g.b
  ⟨g.a ^^^ d, g.b ^^^ c, c ^^^ (g.b <<< 17), d.rotateLeft 45⟩

def draw (g : Generator) : BitVec 64 × Generator := (g.output, g.advance)

end Generator

namespace Mid

def localBit : BitVec 64 := 0x020000000000

def groupBit : BitVec 64 := 0x010000000000

/-- The lowest bits of a number, with the local bit set and the group bit clear. -/
def ofRandom (n : BitVec 64) : Mid := ⟨((n &&& ~~~groupBit) ||| localBit).setWidth 48⟩

def draw (g : Generator) : Mid × Generator := (ofRandom g.output, g.advance)

end Mid
end GeoRouter
