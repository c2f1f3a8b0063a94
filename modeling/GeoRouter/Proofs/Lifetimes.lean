import GeoRouter.Proofs.Preparation
import Mathlib.Order.Bounds.Defs

/-!
# Lifetimes

A lifetime is a multiple, of up to sixty-three, of one of four units. Putting a duration into it
rounds down to the finest unit that has such a multiple, and what was read from a lifetime is put
into it without loss, since each unit is a multiple of the finer ones. The lifetime of a packet is
the one that was asked for, or else the longest one within the maximum of the router.
-/

namespace GeoRouter

namespace Duration

theorem whole_eq (d : Duration) (count : Nat) :
    d.nanos / (ofMillis count).nanos = d.millis / count := by
  rw [millis, Nat.div_div_eq_div_mul, Nat.mul_comm, ofMillis]

theorem isGreatest_multiple (d : Duration) {count : Nat} (positive : 0 < count) :
    IsGreatest {m : Duration | (ofMillis count).nanos ∣ m.nanos ∧ m ≤ d}
      (ofMillis (d.millis / count * count)) := by
  have unit : 0 < (ofMillis count).nanos := Nat.mul_pos positive (by decide)
  have multiple : (ofMillis (d.millis / count * count)).nanos =
      d.nanos / (ofMillis count).nanos * (ofMillis count).nanos := by
    rw [whole_eq, ofMillis, ofMillis, Nat.mul_assoc]
  constructor
  · exact ⟨Dvd.intro_left _ multiple.symm, Nat.le_trans (Nat.le_of_eq multiple)
      (Nat.div_mul_le_self ..)⟩
  · rintro ⟨nanos⟩ ⟨⟨times, rfl⟩, within⟩
    have fewer : times ≤ d.nanos / (ofMillis count).nanos :=
      (Nat.le_div_iff_mul_le unit).mpr (Nat.mul_comm .. ▸ within)
    refine Nat.le_trans ?_ (Nat.le_of_eq multiple.symm)
    exact Nat.mul_comm (ofMillis count).nanos times ▸ Nat.mul_le_mul_right _ fewer

end Duration

namespace Lifetime

/-- The units that a lifetime is a multiple of, finest first. -/
def units : List Duration := [.ofMillis 50, .ofMillis 1000, .ofMillis 10000, .ofMillis 100000]

theorem mem_units_iff {d : Duration} : d ∈ units ↔ ∃ choice < 4, d = .ofMillis (unit choice) := by
  constructor
  · intro member
    simp only [units, List.mem_cons, List.not_mem_nil, or_false] at member
    rcases member with rfl | rfl | rfl | rfl
    · exact ⟨0, by decide, rfl⟩
    · exact ⟨1, by decide, rfl⟩
    · exact ⟨2, by decide, rfl⟩
    · exact ⟨3, by decide, rfl⟩
  · rintro ⟨choice, small, rfl⟩
    revert choice
    decide

theorem dvd_of_finer {finer coarser : Duration} (known : finer ∈ units) (other : coarser ∈ units)
    (within : finer ≤ coarser) : finer.nanos ∣ coarser.nanos := by
  have all : ∀ d ∈ units, ∀ e ∈ units, d ≤ e → d.nanos ∣ e.nanos := by decide
  exact all finer known coarser other within

/-! ### The choice of a unit -/

theorem choiceFor_spec (millis : Nat) : choiceFor millis < 4 ∧
    (∀ finer < choiceFor millis, maxMultiple < millis / unit finer) ∧
    (millis / unit (choiceFor millis) ≤ maxMultiple ∨ choiceFor millis = 3) := by
  unfold choiceFor
  split
  · rename_i fits
    exact ⟨by decide, fun finer below => absurd below (Nat.not_lt_zero finer), .inl fits⟩
  rename_i first
  split
  · rename_i fits
    refine ⟨by decide, fun finer below => ?_, .inl fits⟩
    obtain rfl : finer = 0 := by omega
    exact Nat.not_le.mp first
  rename_i second
  split
  · rename_i fits
    refine ⟨by decide, fun finer below => ?_, .inl fits⟩
    obtain rfl | rfl : finer = 0 ∨ finer = 1 := by omega
    · exact Nat.not_le.mp first
    · exact Nat.not_le.mp second
  · rename_i third
    refine ⟨by decide, fun finer below => ?_, .inr rfl⟩
    obtain rfl | rfl | rfl : finer = 0 ∨ finer = 1 ∨ finer = 2 := by omega
    · exact Nat.not_le.mp first
    · exact Nat.not_le.mp second
    · exact Nat.not_le.mp third

theorem duration_ofDuration (d : Duration) : (ofDuration d).duration =
    .ofMillis (min (d.unsignedMillis / unit (choiceFor d.unsignedMillis)) maxMultiple *
      unit (choiceFor d.unsignedMillis)) := by
  have small := (choiceFor_spec d.unsignedMillis).1
  have code : (ofDuration d).code.toNat =
      min (d.unsignedMillis / unit (choiceFor d.unsignedMillis)) maxMultiple * 4 +
        choiceFor d.unsignedMillis := by
    refine Nat.mod_eq_of_lt ?_
    have most := Nat.min_le_right (d.unsignedMillis / unit (choiceFor d.unsignedMillis)) maxMultiple
    have limit : maxMultiple = 63 := rfl
    omega
  have multiple : (ofDuration d).code.toNat / 4 =
      min (d.unsignedMillis / unit (choiceFor d.unsignedMillis)) maxMultiple := by omega
  have choice : (ofDuration d).code.toNat % 4 = choiceFor d.unsignedMillis := by omega
  rw [duration, multiple, choice]

theorem duration_ofDuration_le (d : Duration) : (ofDuration d).duration ≤ d := by
  rw [duration_ofDuration]
  generalize unit (choiceFor d.unsignedMillis) = unit
  have whole : min (d.unsignedMillis / unit) maxMultiple * unit ≤ d.nanos / 1000000 :=
    calc min (d.unsignedMillis / unit) maxMultiple * unit
      _ ≤ d.unsignedMillis / unit * unit := Nat.mul_le_mul_right unit (Nat.min_le_left ..)
      _ ≤ d.unsignedMillis := Nat.div_mul_le_self ..
      _ ≤ d.millis := Nat.mod_le ..
  exact (Nat.le_div_iff_mul_le (by decide)).mp whole

theorem unit_pos (choice : Nat) : 0 < unit choice := by
  unfold unit
  split <;> decide

theorem unit_mono {finer coarser : Nat} (small : coarser < 4) (order : finer ≤ coarser) :
    unit finer ≤ unit coarser := by
  have all : ∀ coarser < 4, ∀ finer ≤ coarser, unit finer ≤ unit coarser := by decide
  exact all coarser small finer order

/-- A duration is rounded down to the finest unit that is coarse enough, if there is one. -/
theorem rounds (d : Duration) (short : d < .ofMillis UInt64.size) :
    (∃ unit, IsLeast {unit : Duration | unit ∈ units ∧ d.nanos / unit.nanos ≤ 63} unit ∧
      IsGreatest {m : Duration | unit.nanos ∣ m.nanos ∧ m ≤ d} (ofDuration d).duration) ∨
    (∀ unit ∈ units, 63 < d.nanos / unit.nanos) ∧ (ofDuration d).duration = .ofSeconds 6300 := by
  have word : d.unsignedMillis = d.millis :=
    Nat.mod_eq_of_lt ((Nat.div_lt_iff_lt_mul (by decide)).mpr short)
  obtain ⟨small, finer, last⟩ := choiceFor_spec d.millis
  rw [duration_ofDuration, word]
  generalize choiceFor d.millis = choice at small finer last
  by_cases fits : d.millis / unit choice ≤ maxMultiple
  · have least : IsLeast {unit : Duration | unit ∈ units ∧ d.nanos / unit.nanos ≤ 63}
        (.ofMillis (unit choice)) := by
      constructor
      · refine ⟨mem_units_iff.mpr ⟨choice, small, rfl⟩, ?_⟩
        rw [d.whole_eq]
        exact fits
      · rintro _ ⟨member, within⟩
        obtain ⟨other, known, rfl⟩ := mem_units_iff.mp member
        rw [d.whole_eq] at within
        refine Nat.mul_le_mul_right _ (unit_mono known ?_)
        exact Nat.not_lt.mp fun below => Nat.not_lt.mpr within (finer other below)
    rw [Nat.min_eq_left fits]
    exact .inl ⟨_, least, d.isGreatest_multiple (unit_pos choice)⟩
  · obtain rfl := last.resolve_left fits
    rw [Nat.min_eq_right (Nat.le_of_not_le fits)]
    refine .inr ⟨fun coarse member => ?_, rfl⟩
    obtain ⟨other, known, rfl⟩ := mem_units_iff.mp member
    rw [d.whole_eq]
    rcases Nat.lt_succ_iff_lt_or_eq.mp known with below | rfl
    · exact finer other below
    · exact Nat.not_le.mp fits

/-! ### Lifetimes of their own -/

theorem count_eq (lifetime : Lifetime) : lifetime.duration.nanos /
    (Duration.ofMillis (unit (lifetime.code.toNat % 4))).nanos = lifetime.code.toNat / 4 := by
  have millis (n : Nat) : (Duration.ofMillis n).millis = n := Nat.mul_div_cancel n (by decide)
  rw [Duration.whole_eq, duration, millis, Nat.mul_div_cancel _ (unit_pos _)]

theorem duration_le (lifetime : Lifetime) : lifetime.duration ≤ .ofSeconds 6300 := by
  have multiple : lifetime.code.toNat / 4 ≤ 63 := by
    have octet := lifetime.code.toNat_lt
    omega
  have coarsest : unit (lifetime.code.toNat % 4) ≤ unit 3 :=
    unit_mono (by decide) (Nat.le_of_lt_succ (Nat.mod_lt _ (by decide)))
  have most : Duration.ofSeconds 6300 = .ofMillis (63 * unit 3) := by decide
  rw [most]
  exact Nat.mul_le_mul_right _ (Nat.mul_le_mul multiple coarsest)

/-- A lifetime is put into a lifetime as long: its unit is a multiple of every finer one. -/
theorem duration_ofDuration_duration (lifetime : Lifetime) :
    (ofDuration lifetime.duration).duration = lifetime.duration := by
  have own : Duration.ofMillis (unit (lifetime.code.toNat % 4)) ∈ units :=
    mem_units_iff.mpr ⟨_, Nat.mod_lt _ (by decide), rfl⟩
  have fits : lifetime.duration.nanos /
      (Duration.ofMillis (unit (lifetime.code.toNat % 4))).nanos ≤ 63 := by
    have octet := lifetime.code.toNat_lt
    rw [count_eq]
    omega
  have short : lifetime.duration < .ofMillis UInt64.size :=
    Nat.lt_of_le_of_lt lifetime.duration_le (by decide)
  rcases rounds lifetime.duration short with ⟨finest, least, greatest⟩ | ⟨long, -⟩
  · have finer := dvd_of_finer least.1.1 own (least.2 ⟨own, fits⟩)
    have divides : (Duration.ofMillis (unit (lifetime.code.toNat % 4))).nanos ∣
        lifetime.duration.nanos := by
      rw [duration, Duration.ofMillis, Duration.ofMillis, Nat.mul_assoc]
      exact Nat.dvd_mul_left ..
    have reached := greatest.2 ⟨Nat.dvd_trans finer divides, Nat.le_refl _⟩
    exact congrArg Duration.mk (Nat.le_antisymm greatest.1.2 reached)
  · exact absurd fits (Nat.not_le.mpr (long _ own))

/-! ### The lifetime of a packet -/

theorem duration_capped_le (lifetime : Lifetime) (most : Duration) :
    (lifetime.capped most).duration ≤ most := by
  unfold capped
  split
  · exact duration_ofDuration_le most
  · rename_i within
    exact Nat.not_lt.mp within

section Packets

variable {D : Type} [LT D] [LE D] [DecidableLT D] [DecidableLE D] (distance : Point → Point → D)

/-- Whoever reads a packet finds the lifetime that was settled for its request. -/
theorem lifetime_of_prepared {r after : Router} {request : Request} {mac : Mac} {buffer : Buffer}
    {packet : FramedPacket}
    (prepared : r.prepare distance request mac buffer = .ok (.ok (after, packet))) :
    packet.headers.lifetime = r.requestLifetime request ∧
      ∃ h, Headers.parse (packet.buffer.bytes.drop 14) = .ok (.ok h) ∧
        h.lifetime = r.requestLifetime request := by
  obtain ⟨h, made, -, rfl⟩ := Router.prepare_ok distance prepared
  obtain ⟨-, -, parsed⟩ := Router.laid_reads distance made buffer
  have lifetime : h.lifetime = r.requestLifetime request := by
    obtain ⟨extended, -, -, rfl⟩ := Router.headersFor_ok distance made
    rfl
  exact ⟨lifetime, h.transmitted, parsed, lifetime⟩

/-- A duration of less than 2⁶⁴ milliseconds is rounded down to a multiple of the finest unit of
which it has no more than sixty-three, and every longer one is the longest lifetime there is. What a
lifetime stands for is put into a lifetime without loss. A packet has the lifetime that was asked
for, or that of the settings, unless it is longer than the maximum, and then one within the
maximum. -/
theorem lifetimes_are_rounded_down_and_capped :
    (∀ d : Duration, d < .ofMillis UInt64.size →
      (∃ unit, IsLeast {unit : Duration | unit ∈ units ∧ d.nanos / unit.nanos ≤ 63} unit ∧
        IsGreatest {m : Duration | unit.nanos ∣ m.nanos ∧ m ≤ d} (ofDuration d).duration) ∨
      (∀ unit ∈ units, 63 < d.nanos / unit.nanos) ∧ (ofDuration d).duration = .ofSeconds 6300) ∧
    (∀ lifetime, (ofDuration (duration lifetime)).duration = lifetime.duration) ∧
    (∀ (r after : Router) request mac buffer packet,
      r.prepare distance request mac buffer = .ok (.ok (after, packet)) →
      ∃ h, Headers.parse (packet.buffer.bytes.drop 14) = .ok (.ok h) ∧
        packet.headers.lifetime = h.lifetime ∧
        h.lifetime.duration ≤ r.settings.maxPacketLifetime ∧
        let wanted := request.lifetime.getD (.ofDuration r.settings.defaultPacketLifetime)
        h.lifetime = if wanted.duration ≤ r.settings.maxPacketLifetime then wanted
          else .ofDuration r.settings.maxPacketLifetime) := by
  refine ⟨rounds, duration_ofDuration_duration, ?prepared⟩
  case prepared =>
    intro r after request mac buffer packet prepared
    obtain ⟨remembered, h, parsed, read⟩ := lifetime_of_prepared distance prepared
    refine ⟨h, parsed, remembered.trans read.symm, ?_, ?_⟩
    · rw [read]
      exact duration_capped_le _ _
    · rw [read]
      exact capped_eq _ _

/-- Even the usual lifetime of a router may be longer than its maximum, of which a packet then gets
the whole units. -/
theorem lifetimes_are_rounded_down_and_capped_of_short_maximum :
    let most : Duration := .ofMillis 3290
    let destination : Address := Address.zero.withMid ⟨3⟩
    let r : Router := {
      locations := ⟨⟨[.ofAddress destination], []⟩⟩
      links := ⟨⟨[{ address := Address.zero.withMid ⟨2⟩ }], []⟩⟩
      management := { time := some 1072915200005, position := some ⟨1, 2, 3, 4, true⟩ }
      settings := { maxPacketLifetime := most, defaultPacketLifetime := .ofSeconds 60 } }
    (∃ unit, IsLeast {unit : Duration | unit ∈ units ∧ most.nanos / unit.nanos ≤ 63} unit ∧
      IsGreatest {m : Duration | unit.nanos ∣ m.nanos ∧ m ≤ most} (ofDuration most).duration) ∧
    ∃ after packet h,
      r.prepare (fun _ _ => (0 : Nat)) (r.request destination .btpB 1) ⟨0, 0, 0, 0, 0, 2⟩
        (.ofAllocated []) = .ok (.ok (after, packet)) ∧
      Headers.parse (packet.buffer.bytes.drop 14) = .ok (.ok h) ∧ h.lifetime = ⟨3 * 4 + 1⟩ := by
  intro most destination r
  obtain ⟨rounded, -, prepared⟩ := lifetimes_are_rounded_down_and_capped fun _ _ => (0 : Nat)
  constructor
  · refine (rounded most (by decide)).resolve_right fun far => ?_
    exact absurd (far.1 (.ofMillis 1000) (by decide)) (by decide)
  · obtain ⟨h, parsed, -, -, lifetime⟩ := prepared r _ (r.request destination .btpB 1)
      ⟨0, 0, 0, 0, 0, 2⟩ (.ofAllocated []) _ rfl
    exact ⟨_, _, h, rfl, parsed, Eq.trans lifetime (by decide)⟩

end Packets
end Lifetime
end GeoRouter
