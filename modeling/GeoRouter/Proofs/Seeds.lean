import GeoRouter.Router.Generator
import Mathlib.Logic.Function.Iterate

/-!
# Seeds and states

Each step that makes a state from a seed, and each that leads from a state to the next one, can be
undone: a shift that is added to a word without carries, a product with an odd number, a rotation.
So no two seeds ever lead to one state, and since the state of zeros leads nowhere but to itself and
no seed starts there, no seed ever gets there.
-/

namespace GeoRouter.Generator

/-! ### Words -/

section Words

variable {w : Nat}

theorem xor_cancel (a b c : BitVec w) : a ^^^ b ^^^ (b ^^^ c) = a ^^^ c := by
  rw [BitVec.xor_assoc, ← BitVec.xor_assoc b, BitVec.xor_self, BitVec.zero_xor]

/-- Adding to a word, without carries, what a linear map makes of it can be undone if the map keeps
no word but zero. -/
theorem xor_injective {f : BitVec w → BitVec w} (linear : ∀ x y, f (x ^^^ y) = f x ^^^ f y)
    (moves : ∀ x, f x = x → x = 0) : Function.Injective fun x => x ^^^ f x := by
  intro x y equal
  have same : x ^^^ f x = y ^^^ f y := equal
  have kept : f (x ^^^ y) = x ^^^ y := by
    calc f (x ^^^ y) = f x ^^^ f y := linear x y
      _ = f x ^^^ y ^^^ (y ^^^ f y) := (xor_cancel ..).symm
      _ = x ^^^ f x ^^^ (f x ^^^ y) := by rw [same, BitVec.xor_comm]
      _ = x ^^^ y := xor_cancel ..
  exact BitVec.xor_eq_zero_iff.mp (moves _ kept)

theorem xor_shiftRight_injective {count : Nat} (some : 0 < count) :
    Function.Injective fun x : BitVec w => x ^^^ (x >>> count) := by
  refine xor_injective (fun x y => BitVec.ushiftRight_xor_distrib x y count) ?_
  intro x kept
  by_contra apart
  have positive : 0 < x.toNat := Nat.pos_of_ne_zero fun none => apart (BitVec.eq_of_toNat_eq none)
  have smaller : x.toNat >>> count < x.toNat := by
    rw [Nat.shiftRight_eq_div_pow]
    exact Nat.div_lt_self positive (Nat.one_lt_two_pow (Nat.ne_of_gt some))
  rw [← BitVec.toNat_ushiftRight, kept] at smaller
  exact Nat.lt_irrefl _ smaller

theorem xor_shiftLeft_injective {count : Nat} (some : 0 < count) :
    Function.Injective fun x : BitVec w => x ^^^ (x <<< count) := by
  refine xor_injective (fun x y => BitVec.shiftLeft_xor_distrib x y count) ?_
  intro x kept
  have clear (i : Nat) : x.getLsbD i = false := by
    -- Each bit is one of those below it, and below the lowest there are none.
    induction i using Nat.strongRecOn with
    | ind i ih =>
      rw [← kept, BitVec.getLsbD_shiftLeft]
      by_cases low : i < count
      · simp [low]
      · rw [ih (i - count) (by omega), Bool.and_false]
  exact BitVec.eq_of_getLsbD_eq fun i _ => (clear i).trans BitVec.getLsbD_zero.symm

theorem mul_injective {m n : BitVec w} (inverse : m * n = 1#w) :
    Function.Injective fun x : BitVec w => x * m := by
  intro x y equal
  have undone := congrArg (· * n) equal
  simpa only [BitVec.mul_assoc, inverse, BitVec.mul_one] using undone

theorem rotateRight_rotateLeft (x : BitVec w) (count : Nat) :
    (x.rotateLeft count).rotateRight count = x := by
  apply BitVec.eq_of_getLsbD_eq
  intro i inside
  have short : count % w < w := Nat.mod_lt count (by omega)
  rw [BitVec.getLsbD_rotateRight, BitVec.getLsbD_rotateLeft, BitVec.getLsbD_rotateLeft]
  by_cases front : i < w - count % w
  · have place : count % w + i < w := by omega
    have behind : ¬ count % w + i < count % w := by omega
    simp [front, place, behind]
  · have place : i - (w - count % w) < count % w := by omega
    have back : w - count % w + (i - (w - count % w)) = i := by omega
    simp [front, place, back, inside]

theorem rotateLeft_injective (count : Nat) :
    Function.Injective fun x : BitVec w => x.rotateLeft count := by
  intro x y equal
  have undone := congrArg (·.rotateRight count) equal
  simpa only [rotateRight_rotateLeft] using undone

end Words

/-! ### From a seed to a state -/

theorem mix_injective : Function.Injective mix := by
  have shift {count : Nat} (some : 0 < count) :
      Function.Injective fun z : BitVec 64 => z ^^^ (z >>> count) := xor_shiftRight_injective some
  have first : Function.Injective fun z : BitVec 64 => z * 0xbf58476d1ce4e5b9 :=
    mul_injective (n := 0x96de1b173f119089) (by decide)
  have second : Function.Injective fun z : BitVec 64 => z * 0x94d049bb133111eb :=
    mul_injective (n := 0x319642b2d24d8ec3) (by decide)
  exact (shift (show 0 < 31 by decide)).comp (second.comp
    ((shift (show 0 < 27 by decide)).comp (first.comp (shift (show 0 < 30 by decide)))))

theorem ofSeed_injective : Function.Injective ofSeed := by
  intro first second equal
  exact (BitVec.add_left_inj stride).mp (mix_injective (congrArg Generator.a equal))

/-- The words of a state come from different numbers, so that at most one of them is zero. -/
theorem ofSeed_ne_zero (seed : BitVec 64) : ofSeed seed ≠ ⟨0, 0, 0, 0⟩ := by
  intro none
  have first : mix (seed + stride) = 0 := congrArg Generator.a none
  have second : mix (seed + 2 * stride) = 0 := congrArg Generator.b none
  have same := mix_injective (first.trans second.symm)
  exact absurd ((BitVec.add_right_inj seed).mp same) (by decide)

/-! ### From a state to the next -/

theorem advance_injective : Function.Injective advance := by
  rintro ⟨a, b, c, d⟩ ⟨a', b', c', d'⟩ equal
  have outer : a ^^^ (d ^^^ b) = a' ^^^ (d' ^^^ b') := congrArg Generator.a equal
  have inner : b ^^^ (c ^^^ a) = b' ^^^ (c' ^^^ a') := congrArg Generator.b equal
  have shifted : c ^^^ a ^^^ (b <<< 17) = c' ^^^ a' ^^^ (b' <<< 17) := congrArg Generator.c equal
  have last : d ^^^ b = d' ^^^ b' := rotateLeft_injective 45 (congrArg Generator.d equal)
  have one : a = a' := by
    rw [last] at outer
    exact (BitVec.xor_left_inj _).mp outer
  have two : b = b' := by
    have both : b ^^^ (b <<< 17) = b' ^^^ (b' <<< 17) := by
      rw [← xor_cancel b (c ^^^ a), inner, shifted, xor_cancel]
    exact xor_shiftLeft_injective (show 0 < 17 by decide) both
  subst one two
  rw [(BitVec.xor_left_inj _).mp ((BitVec.xor_right_inj _).mp inner),
    (BitVec.xor_left_inj _).mp last]

theorem advance_ne_zero {g : Generator} (some : g ≠ ⟨0, 0, 0, 0⟩) : g.advance ≠ ⟨0, 0, 0, 0⟩ := by
  have fixed : advance ⟨0, 0, 0, 0⟩ = ⟨0, 0, 0, 0⟩ := by decide
  exact fun none => some (advance_injective (none.trans fixed.symm))

/-- The generator behind as many draws. -/
def after (g : Generator) (draws : Nat) : Generator := (fun g => g.draw.2)^[draws] g

theorem after_ne_zero {g : Generator} (some : g ≠ ⟨0, 0, 0, 0⟩) (draws : Nat) :
    g.after draws ≠ ⟨0, 0, 0, 0⟩ := by
  induction draws generalizing g with
  | zero => exact some
  | succ draws ih => exact ih (advance_ne_zero some)

/-- From no seed does a generator ever come to the state of zeros, in which it would stay. Different
seeds give different states, each draw keeps different states apart, and so generators of different
seeds never come to the same state by the same number of draws. -/
theorem seeds_stay_apart :
    (∀ seed draws, (ofSeed seed).after draws ≠ ⟨0, 0, 0, 0⟩) ∧ Function.Injective ofSeed ∧
      (Function.Injective fun g : Generator => g.draw.2) ∧
      ∀ draws, Function.Injective fun seed => (ofSeed seed).after draws := by
  refine ⟨fun seed => after_ne_zero (ofSeed_ne_zero seed), ofSeed_injective, advance_injective, ?_⟩
  intro draws
  exact (advance_injective.iterate draws).comp ofSeed_injective

end GeoRouter.Generator
