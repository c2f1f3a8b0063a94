import GeoRouter.Router.Settings
import Mathlib.Logic.Function.Basic

/-!
# Parameters by name

`Settings.get` and `Settings.set?` are two separate lists of cases over all parameters. That they
fit together is said once: a change that is done is `Function.update` on what can be read
(`get_of_set?`), and it is done just where the parameter admits the value (`isSome_set?_iff`).
Everything else follows from these two.

A change in place (`assign`) stores as it goes, so that what a refused change leaves is a result and
not a consequence of how it is written.
-/

namespace GeoRouter

namespace Value

/-- Numbers are narrowed only if they can be widened again. -/
theorem octet?_eq_some_iff {n : UInt32} {m : UInt8} : octet? n = some m ↔ m.toUInt32 = n := by
  unfold octet?
  constructor
  · intro fits
    split at fits
    · rename_i small
      obtain rfl := Option.some.inj fits
      apply UInt32.toNat_inj.mp
      rw [UInt8.toNat_toUInt32, UInt32.toNat_toUInt8]
      exact Nat.mod_eq_of_lt small
    · cases fits
  · rintro rfl
    have small : m.toUInt32.toNat < UInt8.size := m.toNat_lt
    rw [if_pos small, UInt8.toUInt8_toUInt32]

theorem word?_eq_some_iff {n : UInt32} {m : UInt16} : word? n = some m ↔ m.toUInt32 = n := by
  unfold word?
  constructor
  · intro fits
    split at fits
    · rename_i small
      obtain rfl := Option.some.inj fits
      apply UInt32.toNat_inj.mp
      rw [UInt16.toNat_toUInt32, UInt32.toNat_toUInt16]
      exact Nat.mod_eq_of_lt small
    · cases fits
  · rintro rfl
    have small : m.toUInt32.toNat < UInt16.size := m.toNat_lt
    rw [if_pos small, UInt16.toUInt16_toUInt32]

theorem isSome_octet?_iff {n : UInt32} : (octet? n).isSome ↔ n.toNat ≤ 0xff := by
  unfold octet?
  rw [Option.isSome_ite]
  exact Nat.lt_succ_iff

theorem isSome_word?_iff {n : UInt32} : (word? n).isSome ↔ n.toNat ≤ 0xffff := by
  unfold word?
  rw [Option.isSome_ite]
  exact Nat.lt_succ_iff

end Value

/-- The largest number that a parameter can be, if it is a number. -/
def Setting.most? : Setting → Option Nat
  | .defaultHopLimit | .locationServiceAttempts => some 0xff
  | .maxPayload | .maxHeaders | .forwardingBufferSize | .communicationRange
  | .locationServiceBufferSize => some 0xffff
  | .maxPacketRate => some 0xffffffff
  | .packetRateWeight => some 100
  | .version => some 0
  | _ => none

namespace Settings

/-- Whether a parameter may be set to a value, which is one of its kind and in its range. Each of
the two lifetimes of packets bounds the other. -/
def Admits (s : Settings) (key : Setting) : Value → Prop
  | .flag _ => key = .isMobile
  | .number n => ∃ most ∈ key.most?, n.toNat ≤ most
  | .duration d =>
    key ∈ [.entryLifetime, .beaconInterval, .beaconJitter, .locationServiceInterval] ∨
      key = .maxPacketLifetime ∧ s.defaultPacketLifetime ≤ d ∨
      key = .defaultPacketLifetime ∧ d ≤ s.maxPacketLifetime
  | .forwarding f => key = .forwarding ∧ f = .greedy
  | .stationType _ => key = .stationType
  | .trafficClass _ => key = .trafficClass

variable {s after : Settings} {key : Setting} {value : Value}

/-- A parameter that was set has its value, and every other one is what it was. -/
theorem get_of_set? (done : s.set? key value = some after) :
    after.get = Function.update s.get key value := by
  cases key <;> cases value
  all_goals first
    -- The value is of the wrong kind.
    | exact absurd done.symm (Option.some_ne_none _)
    -- It is stored as it is.
    | (obtain rfl := Option.some.inj done
       funext other
       cases other <;> rfl)
    -- It is stored in fewer bits.
    | (obtain ⟨m, fits, rfl⟩ := Option.map_eq_some_iff.mp done
       obtain rfl := Value.octet?_eq_some_iff.mp fits
       funext other
       cases other <;> rfl)
    | (obtain ⟨m, fits, rfl⟩ := Option.map_eq_some_iff.mp done
       obtain rfl := Value.word?_eq_some_iff.mp fits
       funext other
       cases other <;> rfl)
    | skip
  case maxPacketLifetime.duration | defaultPacketLifetime.duration =>
    obtain ⟨-, stored⟩ := Option.ite_none_left_eq_some.mp done
    obtain rfl := Option.some.inj stored
    funext other
    cases other <;> rfl
  case forwarding.forwarding method =>
    cases method with
    | greedy =>
      obtain rfl := Option.some.inj done
      funext other
      cases other <;> rfl
    | contentionBased => cases done
  case packetRateWeight.number n =>
    obtain ⟨-, stored⟩ := Option.ite_none_right_eq_some.mp done
    obtain ⟨m, fits, rfl⟩ := Option.map_eq_some_iff.mp stored
    obtain rfl := Value.octet?_eq_some_iff.mp fits
    funext other
    cases other <;> rfl
  case version.number n =>
    obtain ⟨rfl, stored⟩ := Option.ite_none_right_eq_some.mp done
    obtain rfl := Option.some.inj stored
    funext other
    cases other <;> rfl

theorem admits_number_iff {n : UInt32} {most : Nat} (bounded : key.most? = some most) :
    s.Admits key (.number n) ↔ n.toNat ≤ most := by
  simp only [Admits, bounded, Option.mem_some_iff, exists_eq_left']

theorem admits_maxPacketLifetime_iff :
    s.Admits .maxPacketLifetime value ↔ ∃ d, value = .duration d ∧ s.defaultPacketLifetime ≤ d := by
  cases value <;> simp [Admits, Setting.most?]

theorem admits_defaultPacketLifetime_iff :
    s.Admits .defaultPacketLifetime value ↔ ∃ d, value = .duration d ∧ d ≤ s.maxPacketLifetime := by
  cases value <;> simp [Admits, Setting.most?]

theorem admits_forwarding_iff : s.Admits .forwarding value ↔ value = .forwarding .greedy := by
  cases value <;> simp [Admits, Setting.most?]

theorem admits_version_iff : s.Admits .version value ↔ value = .number 0 := by
  cases value <;> simp [Admits, Setting.most?, UInt32.toNat_inj.symm]

/-- Just the values that a parameter admits can be stored. -/
theorem isSome_set?_iff : (s.set? key value).isSome ↔ s.Admits key value := by
  cases value with
  | flag b =>
    cases key
    case isMobile => exact iff_of_true rfl rfl
    all_goals exact iff_of_false Bool.false_ne_true nofun
  | number n =>
    cases key
    case defaultHopLimit | locationServiceAttempts =>
      exact (Option.isSome_map ▸ Value.isSome_octet?_iff).trans (admits_number_iff rfl).symm
    case maxPayload | maxHeaders | forwardingBufferSize | communicationRange |
        locationServiceBufferSize =>
      exact (Option.isSome_map ▸ Value.isSome_word?_iff).trans (admits_number_iff rfl).symm
    case maxPacketRate =>
      exact iff_of_true rfl ((admits_number_iff rfl).mpr (Nat.le_of_lt_succ n.toNat_lt))
    case packetRateWeight =>
      refine Iff.trans ?_ (admits_number_iff rfl).symm
      show (if n.toNat ≤ 100 then (Value.octet? n).map _ else none).isSome ↔ n.toNat ≤ 100
      split
      · rename_i small
        rw [Option.isSome_map, Value.isSome_octet?_iff]
        exact iff_of_true (Nat.le_trans small (by decide)) small
      · exact iff_of_false Bool.false_ne_true ‹_›
    case version =>
      refine Iff.trans ?_ (admits_number_iff rfl).symm
      show (if n = 0 then some _ else none).isSome ↔ n.toNat ≤ 0
      rw [Option.isSome_ite, Nat.le_zero]
      exact UInt32.toNat_inj.symm
    all_goals exact iff_of_false Bool.false_ne_true nofun
  | duration d =>
    cases key
    case entryLifetime | beaconInterval | beaconJitter | locationServiceInterval =>
      exact iff_of_true rfl (.inl (by decide))
    case maxPacketLifetime =>
      show (if d < s.defaultPacketLifetime then none else some _).isSome ↔ _
      rw [Option.isSome_ite', admits_maxPacketLifetime_iff]
      exact Nat.not_lt.trans ⟨fun le => ⟨d, rfl, le⟩, by rintro ⟨_, ⟨⟩, le⟩; exact le⟩
    case defaultPacketLifetime =>
      show (if s.maxPacketLifetime < d then none else some _).isSome ↔ _
      rw [Option.isSome_ite', admits_defaultPacketLifetime_iff]
      exact Nat.not_lt.trans ⟨fun le => ⟨d, rfl, le⟩, by rintro ⟨_, ⟨⟩, le⟩; exact le⟩
    all_goals exact iff_of_false Bool.false_ne_true (by simp [Admits])
  | forwarding method =>
    cases key
    case forwarding => cases method with
      | greedy => exact iff_of_true rfl ⟨rfl, rfl⟩
      | contentionBased => exact iff_of_false Bool.false_ne_true nofun
    all_goals exact iff_of_false Bool.false_ne_true nofun
  | stationType type =>
    cases key
    case stationType => exact iff_of_true rfl rfl
    all_goals exact iff_of_false Bool.false_ne_true nofun
  | trafficClass tc =>
    cases key
    case trafficClass => exact iff_of_true rfl rfl
    all_goals exact iff_of_false Bool.false_ne_true nofun

/-- Settings are what can be read of them. -/
theorem get_injective : Function.Injective get := by
  intro a b same
  have read (key : Setting) : a.get key = b.get key := congrFun same key
  have octet {m n : UInt8} (same : Value.number m.toUInt32 = .number n.toUInt32) : m = n :=
    UInt8.toUInt32_inj.mp (Value.number.inj same)
  have word {m n : UInt16} (same : Value.number m.toUInt32 = .number n.toUInt32) : m = n :=
    UInt16.toUInt32_inj.mp (Value.number.inj same)
  rw [Settings.mk.injEq]
  exact ⟨Value.flag.inj (read .isMobile), octet (read .defaultHopLimit),
    Value.duration.inj (read .maxPacketLifetime), Value.duration.inj (read .defaultPacketLifetime),
    Value.duration.inj (read .entryLifetime), word (read .maxPayload), word (read .maxHeaders),
    Value.forwarding.inj (read .forwarding), word (read .forwardingBufferSize),
    word (read .communicationRange), Value.duration.inj (read .beaconInterval),
    Value.duration.inj (read .beaconJitter), Value.duration.inj (read .locationServiceInterval),
    octet (read .locationServiceAttempts), word (read .locationServiceBufferSize),
    Value.number.inj (read .maxPacketRate), octet (read .packetRateWeight),
    Value.stationType.inj (read .stationType), octet (read .version),
    Value.trafficClass.inj (read .trafficClass)⟩

/-- A computation that changes settings in place and may refuse. What it stored before it refuses
stays. -/
abbrev Change := ExceptT OperationError (StateM Settings)

/-- A narrowed number, if it fits. -/
def narrowed {α : Type} : Option α → Change α
  | some n => pure n
  | none => throw .illegal

/-- Changes a parameter in place. -/
def assign (key : Setting) (value : Value) : Change Unit :=
  match key, value with
  | .isMobile, .flag b => modify fun s => { s with isMobile := b }
  | .defaultHopLimit, .number n => do
    let n ← narrowed (Value.octet? n)
    modify fun s => { s with defaultHopLimit := n }
  | .maxPacketLifetime, .duration d => do
    if d < (← getThe Settings).defaultPacketLifetime then
      throw .illegal
    modify fun s => { s with maxPacketLifetime := d }
  | .defaultPacketLifetime, .duration d => do
    if (← getThe Settings).maxPacketLifetime < d then
      throw .illegal
    modify fun s => { s with defaultPacketLifetime := d }
  | .entryLifetime, .duration d => modify fun s => { s with entryLifetime := d }
  | .maxPayload, .number n => do
    let n ← narrowed (Value.word? n)
    modify fun s => { s with maxPayload := n }
  | .maxHeaders, .number n => do
    let n ← narrowed (Value.word? n)
    modify fun s => { s with maxHeaders := n }
  | .forwarding, .forwarding .greedy => modify fun s => { s with forwarding := .greedy }
  | .forwardingBufferSize, .number n => do
    let n ← narrowed (Value.word? n)
    modify fun s => { s with forwardingBufferSize := n }
  | .communicationRange, .number n => do
    let n ← narrowed (Value.word? n)
    modify fun s => { s with communicationRange := n }
  | .beaconInterval, .duration d => modify fun s => { s with beaconInterval := d }
  | .beaconJitter, .duration d => modify fun s => { s with beaconJitter := d }
  | .locationServiceInterval, .duration d =>
    modify fun s => { s with locationServiceInterval := d }
  | .locationServiceAttempts, .number n => do
    let n ← narrowed (Value.octet? n)
    modify fun s => { s with locationServiceAttempts := n }
  | .locationServiceBufferSize, .number n => do
    let n ← narrowed (Value.word? n)
    modify fun s => { s with locationServiceBufferSize := n }
  | .maxPacketRate, .number n => modify fun s => { s with maxPacketRate := n }
  | .packetRateWeight, .number n =>
    if n ≤ 100 then do
      let n ← narrowed (Value.octet? n)
      modify fun s => { s with packetRateWeight := n }
    else
      throw .illegal
  | .stationType, .stationType type => modify fun s => { s with stationType := type }
  | .version, .number n =>
    if n = protocolVersion.toUInt32 then
      modify fun s => { s with version := protocolVersion }
    else
      throw .illegal
  | .trafficClass, .trafficClass tc => modify fun s => { s with trafficClass := tc }
  | _, _ => throw .illegal

/-- The answer to a change and what it leaves, where the settings are new or the change is
refused. -/
def outcome (s : Settings) : Option Settings → Except OperationError Unit × Settings
  | some after => (.ok (), after)
  | none => (.error .illegal, s)

theorem run_narrowed {α : Type} (n : Option α) (store : α → Settings → Settings) :
    (do modify (store (← narrowed n)) : Change Unit).run.run s =
      s.outcome (n.map (store · s)) := by
  cases n <;> rfl

theorem run_unless (refused : Settings → Prop) [DecidablePred refused]
    (store : Settings → Settings) :
    (do
      if refused (← getThe Settings) then
        throw .illegal
      modify store : Change Unit).run.run s =
      s.outcome (if refused s then none else some (store s)) := by
  show (if refused s then throw .illegal else modify store : Change Unit).run.run s = _
  split <;> rfl

theorem run_ite {p : Prop} [Decidable p] {change : Change Unit} {result : Option Settings}
    (run : change.run.run s = s.outcome result) :
    (if p then change else throw .illegal).run.run s =
      s.outcome (if p then result else none) := by
  split
  · exact run
  · rfl

theorem run_assign : (assign key value).run.run s = s.outcome (s.set? key value) := by
  cases key <;> cases value
  all_goals first
    | rfl
    | exact run_narrowed (Value.octet? _) _
    | exact run_narrowed (Value.word? _) _
    | skip
  case maxPacketLifetime.duration d => exact run_unless (d < ·.defaultPacketLifetime) _
  case defaultPacketLifetime.duration d => exact run_unless (·.maxPacketLifetime < d) _
  case forwarding.forwarding method => cases method <;> rfl
  case packetRateWeight.number n => exact run_ite (run_narrowed (Value.octet? n) _)
  case version.number n => exact run_ite rfl

/-- What every change keeps. -/
structure Consistent (s : Settings) : Prop where
  lifetimes : s.defaultPacketLifetime ≤ s.maxPacketLifetime
  greedy : s.forwarding = .greedy
  version : s.version = 0

theorem consistent_default : ({} : Settings).Consistent := ⟨by decide, rfl, rfl⟩

theorem Consistent.of_set? (consistent : s.Consistent) (done : s.set? key value = some after) :
    after.Consistent := by
  have admits : s.Admits key value := isSome_set?_iff.mp (Option.isSome_of_eq_some done)
  have stored : after.get key = value := by rw [get_of_set? done, Function.update_self]
  have kept (other : Setting) (ne : other ≠ key) : after.get other = s.get other := by
    rw [get_of_set? done, Function.update_of_ne ne]
  refine { lifetimes := ?_, greedy := ?_, version := ?_ }
  · rcases eq_or_ne .maxPacketLifetime key with rfl | notMost
    · obtain ⟨d, rfl, le⟩ := admits_maxPacketLifetime_iff.mp admits
      rw [Value.duration.inj stored, Value.duration.inj (kept .defaultPacketLifetime (by decide))]
      exact le
    rcases eq_or_ne .defaultPacketLifetime key with rfl | notUsual
    · obtain ⟨d, rfl, le⟩ := admits_defaultPacketLifetime_iff.mp admits
      rw [Value.duration.inj stored, Value.duration.inj (kept .maxPacketLifetime (by decide))]
      exact le
    · rw [Value.duration.inj (kept .maxPacketLifetime notMost),
        Value.duration.inj (kept .defaultPacketLifetime notUsual)]
      exact consistent.lifetimes
  · rcases eq_or_ne .forwarding key with rfl | notForwarding
    · obtain rfl := admits_forwarding_iff.mp admits
      exact Value.forwarding.inj stored
    · exact (Value.forwarding.inj (kept .forwarding notForwarding)).trans consistent.greedy
  · rcases eq_or_ne .version key with rfl | notVersion
    · obtain rfl := admits_version_iff.mp admits
      exact UInt8.toUInt32_inj.mp (Value.number.inj stored)
    · have same := UInt8.toUInt32_inj.mp (Value.number.inj (kept .version notVersion))
      exact same.trans consistent.version

/-- The settings that a change leaves, whatever its answer is. -/
def left (s : Settings) (call : Setting × Value) : Settings :=
  ((assign call.1 call.2).run.run s).2

/-- The settings that a run of changes leaves. -/
def assignAll (s : Settings) (calls : List (Setting × Value)) : Settings := calls.foldl left s

theorem left_eq (s : Settings) (call : Setting × Value) :
    s.left call = (s.set? call.1 call.2).getD s := by
  rw [left, run_assign]
  cases s.set? call.1 call.2 <;> rfl

theorem Consistent.step (consistent : s.Consistent) (call : Setting × Value) :
    (s.left call).Consistent := by
  rw [left_eq]
  cases done : s.set? call.1 call.2 with
  | none => exact consistent
  | some after => exact consistent.of_set? done

theorem Consistent.run (consistent : s.Consistent) (calls : List (Setting × Value)) :
    (s.assignAll calls).Consistent := by
  induction calls generalizing s with
  | nil => exact consistent
  | cons call calls ih => exact ih (consistent.step call)

/-- The value that a parameter has is one that it may be set to. -/
theorem Consistent.admits_get (consistent : s.Consistent) (weight : s.packetRateWeight ≤ 100)
    (key : Setting) : s.Admits key (s.get key) := by
  have octet (n : UInt8) : n.toUInt32.toNat ≤ 0xff := Nat.le_of_lt_succ n.toNat_lt
  have word (n : UInt16) : n.toUInt32.toNat ≤ 0xffff := Nat.le_of_lt_succ n.toNat_lt
  cases key
  case isMobile | stationType | trafficClass => exact rfl
  case defaultHopLimit | locationServiceAttempts => exact (admits_number_iff rfl).mpr (octet _)
  case maxPayload | maxHeaders | forwardingBufferSize | communicationRange |
      locationServiceBufferSize =>
    exact (admits_number_iff rfl).mpr (word _)
  case maxPacketRate => exact (admits_number_iff rfl).mpr (Nat.le_of_lt_succ (UInt32.toNat_lt _))
  case packetRateWeight => exact (admits_number_iff rfl).mpr weight
  case entryLifetime | beaconInterval | beaconJitter | locationServiceInterval =>
    exact .inl (by decide)
  case maxPacketLifetime => exact admits_maxPacketLifetime_iff.mpr ⟨_, rfl, consistent.lifetimes⟩
  case defaultPacketLifetime =>
    exact admits_defaultPacketLifetime_iff.mpr ⟨_, rfl, consistent.lifetimes⟩
  case forwarding => exact admits_forwarding_iff.mpr (congrArg Value.forwarding consistent.greedy)
  case version =>
    exact admits_version_iff.mpr (congrArg (fun v : UInt8 => Value.number v.toUInt32)
      consistent.version)

theorem set?_get (admits : s.Admits key (s.get key)) : s.set? key (s.get key) = some s := by
  obtain ⟨after, done⟩ := Option.isSome_iff_exists.mp (isSome_set?_iff.mpr admits)
  have same : after.get = s.get := by rw [get_of_set? done, Function.update_eq_self]
  rw [done, get_injective same]

/-- A parameter that can be changed has its new value and every other one is what it was. Where the
value is of the wrong kind or out of range, nothing changes. No run of changes breaks what is
consistent, and then every parameter may be set to the value that it has. -/
theorem parameters_answer_by_name (s : Settings) :
    (∀ key value, match (assign key value).run.run s with
      | (.ok (), after) =>
        s.set key value = .ok after ∧ s.Admits key value ∧ after.get key = value ∧
          ∀ other, other ≠ key → after.get other = s.get other
      | (.error reason, after) =>
        s.set key value = .error reason ∧ ¬s.Admits key value ∧ reason = .illegal ∧ after = s) ∧
    (s.Consistent → ∀ calls, (s.assignAll calls).Consistent) ∧
    (s.Consistent → s.packetRateWeight ≤ 100 →
      ∀ key, (assign key (s.get key)).run.run s = (.ok (), s)) := by
  refine ⟨fun key value => ?_, Consistent.run, fun consistent weight key => ?_⟩
  · rw [run_assign]
    cases done : s.set? key value with
    | some after =>
      refine ⟨by rw [set, done], isSome_set?_iff.mp (Option.isSome_of_eq_some done), ?_, ?_⟩
      · rw [get_of_set? done, Function.update_self]
      · intro other ne
        rw [get_of_set? done, Function.update_of_ne ne]
    | none =>
      refine ⟨by rw [set, done], fun admits => ?_, rfl, rfl⟩
      exact Option.isSome_iff_ne_none.mp (isSome_set?_iff.mpr admits) done
  · rw [run_assign, set?_get (consistent.admits_get weight key)]
    rfl

/-- Settings whose bounded parameters are all as large as they may be. -/
def atBounds : Settings :=
  { defaultHopLimit := 255, defaultPacketLifetime := .ofSeconds 600, maxPayload := 65535,
    packetRateWeight := 100 }

theorem parameters_answer_by_name_at_the_bounds :
    (atBounds.assignAll [(.defaultPacketLifetime, .duration (.ofSeconds 601)),
      (.defaultPacketLifetime, .duration (.ofSeconds 60)),
      (.maxPacketLifetime, .duration (.ofSeconds 60))]).Consistent ∧
    (assign .maxPacketLifetime (.duration (.ofSeconds 600))).run.run atBounds =
      (.ok (), atBounds) ∧
    (assign .packetRateWeight (.number 100)).run.run atBounds = (.ok (), atBounds) := by
  have consistent : atBounds.Consistent := ⟨by decide, rfl, rfl⟩
  have answers := parameters_answer_by_name atBounds
  have own := answers.2.2 consistent (by decide)
  exact ⟨answers.2.1 consistent _, own .maxPacketLifetime, own .packetRateWeight⟩

end Settings
end GeoRouter
