import GeoRouter.Device
import Mathlib.Data.List.Chain

/-!
# What a device hands out

The buffers of a device are told apart by their places alone. To see which of them are handed out,
each gets its place for a number, and whoever works with a buffer notes the number that it finds;
nothing else changes by that. Whatever is made of the split and of the counts in between, every
buffer that is handed out is there, those to receive come one after the other, and the one to send
stays the same until it is queued.
-/

namespace GeoRouter

/-! ### Calls -/

/-- What is done with a buffer that is handed out. Whoever remembers earlier buffers may do
something else on each call. -/
abbrev Work (B : Type) := Handle → B → Except Fault (Handle × B)

/-- A call that hands out nothing: the split is moved, or a phase starts again, or both. -/
inductive Adjustment where
  | split (place : Nat)
  | sendAgain
  | receiveAgain
  | receiveAll
  | sendAll
  deriving DecidableEq

inductive DeviceCall (B : Type) where
  | adjust (adjustment : Adjustment)
  | receive (most : Nat) (work : Work B)
  | transmit (most : Nat) (work : Work B)

namespace DeviceCall

variable {B : Type}

/-- Whether the first buffer may be received again after the call. -/
def startsReceiving : DeviceCall B → Bool
  | .adjust .receiveAgain | .adjust .receiveAll => true
  | _ => false

/-- Whether another place may be the next to send from after the call, without a buffer that was
queued. -/
def startsSending : DeviceCall B → Bool
  | .adjust .receiveAgain => false
  | .adjust _ => true
  | _ => false

/-- Whoever works with the buffer that is handed out ends in a fault. -/
def EndsIn (call : DeviceCall B) (d : Device B) (fault : Fault) : Prop :=
  match call with
  | .adjust _ => False
  | .receive _ work =>
    ∃ buffer, d.buffers[d.received]? = some buffer ∧ work (.ofTime d.time) buffer = .error fault
  | .transmit _ work => ∃ buffer, d.buffers[d.split + d.sent]? = some buffer ∧
    work (.ofTime d.time) buffer = .error fault

end DeviceCall

namespace Device

variable {B : Type}

def adjust (d : Device B) : Adjustment → Device B
  | .split place => d.setSplit place
  | .sendAgain => d.resetSent
  | .receiveAgain => d.resetReceived
  | .receiveAll => d.receiveAll
  | .sendAll => d.sendAll

def perform (d : Device B) : DeviceCall B → Except Fault (Nat × Device B)
  | .adjust adjustment => .ok (0, d.adjust adjustment)
  | .receive most work => d.receive most work
  | .transmit most work => d.transmit most work

/-- The answers to a run of calls, and the device behind it. -/
def run (d : Device B) : List (DeviceCall B) → Except Fault (List Nat × Device B)
  | [] => .ok ([], d)
  | call :: rest => do
    let (answer, after) ← d.perform call
    let (answers, last) ← after.run rest
    return (answer :: answers, last)

/-- Every buffer with its place. -/
def numbered (d : Device B) : Device (Nat × B) :=
  { d with buffers := d.buffers.mapIdx Prod.mk }

def unnumbered (d : Device (Nat × B)) : Device B :=
  { d with buffers := d.buffers.map Prod.snd }

end Device

/-- The number of a buffer that was handed out, and whether it came back queued. -/
structure Offer where
  index : Nat
  queued : Bool
  deriving DecidableEq

/-- Works with a buffer that bears a number, which is noted and stays where it is. -/
def Work.noting {B : Type} (work : Work B) (handle : Handle) (buffer : Nat × B) :
    StateT (List Offer) (Except Fault) (Handle × Nat × B) := do
  let (handle, returned) ← work handle buffer.2
  modify (⟨buffer.1, handle.wasQueued⟩ :: ·)
  return (handle, buffer.1, returned)

/-- A call of a device, and what was noted during it. -/
structure Service (B : Type) where
  before : Device B
  call : DeviceCall B
  offers : List Offer
  answer : Nat
  after : Device B

namespace Device

variable {B : Type}

/-- A call on numbered buffers. -/
def note (d : Device (Nat × B)) :
    DeviceCall B → StateT (List Offer) (Except Fault) (Nat × Device (Nat × B))
  | .adjust adjustment => return (0, d.adjust adjustment)
  | .receive most work => d.receive most (Work.noting work)
  | .transmit most work => d.transmit most (Work.noting work)

def serve (d : Device B) (call : DeviceCall B) : Except Fault (Service B) := do
  let ((answer, after), offers) ← (d.numbered.note call).run []
  return ⟨d, call, offers, answer, after.unnumbered⟩

/-- A run of calls, each of which is watched. -/
def watch (d : Device B) : List (DeviceCall B) → Except Fault (List (Service B) × Device B)
  | [] => .ok ([], d)
  | call :: rest => do
    let service ← d.serve call
    let (later, last) ← service.after.watch rest
    return (service :: later, last)

/-! ### Single calls -/

section Offering

variable {m : Type → Type} [Monad m] [MonadExceptOf Fault m] (d : Device B) {most : Nat}

theorem received_inside (waiting : 0 < d.toReceive) :
    d.received < min d.buffers.length d.split := by
  unfold toReceive at waiting
  omega

theorem sent_inside (waiting : 0 < d.toSend) : d.split + d.sent < d.buffers.length := by
  unfold toSend at waiting
  omega

theorem received_there (waiting : 0 < d.toReceive) :
    ∃ buffer, d.buffers[d.received]? = some buffer := by
  have inside := d.received_inside waiting
  exact ⟨_, List.getElem?_eq_getElem (Nat.lt_of_lt_of_le inside (Nat.min_le_left ..))⟩

theorem sent_there (waiting : 0 < d.toSend) :
    ∃ buffer, d.buffers[d.split + d.sent]? = some buffer :=
  ⟨_, List.getElem?_eq_getElem (d.sent_inside waiting)⟩

theorem receive_of_waiting (asked : 0 < most ∧ 0 < d.toReceive)
    (take : Handle → B → m (Handle × B)) : d.receive most take = (do
      let (handle, d) ← d.offer d.received take
      return (1, { d with
        received := d.received + 1
        requeued := d.requeued + if handle.wasQueued then 1 else 0 })) := by
  unfold receive
  rw [if_neg (by omega)]

theorem receive_of_none (none : ¬ (0 < most ∧ 0 < d.toReceive))
    (take : Handle → B → m (Handle × B)) : d.receive most take = pure (0, d) := by
  unfold receive
  rw [if_pos (by omega)]

theorem transmit_of_waiting (asked : 0 < most ∧ 0 < d.toSend)
    (fill : Handle → B → m (Handle × B)) : d.transmit most fill = (do
      let (handle, d) ← d.offer (d.split + d.sent) fill
      return (if handle.wasQueued then 1 else 0, { d with
        sent := d.sent + if handle.wasQueued then 1 else 0 })) := by
  unfold transmit
  rw [if_neg (by omega)]
  refine congrArg (d.offer (d.split + d.sent) fill >>= ·) (funext fun (handle, d) => ?_)
  dsimp only
  cases handle.wasQueued <;> rfl

theorem transmit_of_none (none : ¬ (0 < most ∧ 0 < d.toSend))
    (fill : Handle → B → m (Handle × B)) : d.transmit most fill = pure (0, d) := by
  unfold transmit
  rw [if_pos (by omega)]

end Offering

/-! ### Numbers make no difference -/

section Numbering

variable (d : Device B)

theorem snd_numbered : d.numbered.buffers.map Prod.snd = d.buffers := by
  apply List.ext_getElem?
  intro index
  rw [List.getElem?_map, numbered, List.getElem?_mapIdx, Option.map_map]
  exact Option.map_id_apply

theorem put_numbered (index : Nat) (returned : B) :
    d.numbered.put index (index, returned) = (d.put index returned).numbered := by
  unfold put numbered
  rw [List.mapIdx_set]

theorem length_numbered : d.numbered.buffers.length = d.buffers.length := List.length_mapIdx

theorem toReceive_numbered : d.numbered.toReceive = d.toReceive := by
  unfold toReceive
  rw [length_numbered]
  rfl

theorem toSend_numbered : d.numbered.toSend = d.toSend := by
  unfold toSend
  rw [length_numbered]
  rfl

theorem unnumbered_adjust (adjustment : Adjustment) :
    (d.numbered.adjust adjustment).unnumbered = d.adjust adjustment := by
  cases adjustment with
  | receiveAll =>
    unfold adjust receiveAll setSplit resetReceived unnumbered
    rw [length_numbered, snd_numbered]
    rfl
  | split | sendAgain | receiveAgain | sendAll =>
    unfold adjust unnumbered
    simp only [setSplit, resetSent, resetReceived, sendAll, snd_numbered]
    rfl

theorem unnumbered_numbered : d.numbered.unnumbered = d := by
  unfold unnumbered
  rw [snd_numbered]
  rfl

variable {index : Nat} {buffer : B} (there : d.buffers[index]? = some buffer) (work : Work B)
include there

theorem offer_eq : d.offer index work =
    (work (.ofTime d.time) buffer).map fun (handle, returned) =>
      (handle, d.put index returned) := by
  unfold offer
  rw [there]
  dsimp only
  cases work (.ofTime d.time) buffer <;> rfl

theorem offer_noting : (d.numbered.offer index (Work.noting work)).run [] =
    (work (.ofTime d.time) buffer).map fun (handle, returned) =>
      ((handle, (d.put index returned).numbered), [⟨index, handle.wasQueued⟩]) := by
  have bears : d.numbered.buffers[index]? = some (index, buffer) := by
    rw [numbered, List.getElem?_mapIdx, there]
    rfl
  have time : d.numbered.time = d.time := rfl
  simp only [← put_numbered]
  unfold offer Work.noting
  rw [bears, time]
  dsimp only
  cases work (.ofTime d.time) buffer <;> rfl

end Numbering

end Device

/-! ### What becomes of a call -/

/-- What becomes of a call of a device. -/
inductive Service.Told {B : Type} : Service B → Prop where
  | adjusted (d : Device B) (adjustment : Adjustment) :
      Told ⟨d, .adjust adjustment, [], 0, d.adjust adjustment⟩
  | received {d : Device B} {most : Nat} (asked : 0 < most ∧ 0 < d.toReceive) (work : Work B)
      (returned : B) (queued : Bool) :
      Told ⟨d, .receive most work, [⟨d.received, queued⟩], 1,
        { d.put d.received returned with
          received := d.received + 1
          requeued := d.requeued + if queued then 1 else 0 }⟩
  | transmitted {d : Device B} {most : Nat} (asked : 0 < most ∧ 0 < d.toSend) (work : Work B)
      (returned : B) (queued : Bool) :
      Told ⟨d, .transmit most work, [⟨d.split + d.sent, queued⟩], if queued then 1 else 0,
        { d.put (d.split + d.sent) returned with sent := d.sent + if queued then 1 else 0 }⟩
  | nothingReceived {d : Device B} {most : Nat} (none : ¬ (0 < most ∧ 0 < d.toReceive))
      (work : Work B) : Told ⟨d, .receive most work, [], 0, d⟩
  | nothingSent {d : Device B} {most : Nat} (none : ¬ (0 < most ∧ 0 < d.toSend))
      (work : Work B) : Told ⟨d, .transmit most work, [], 0, d⟩

namespace Device

variable {B : Type} (d : Device B)

theorem serve_receive {most : Nat} (asked : 0 < most ∧ 0 < d.toReceive) {buffer : B}
    (there : d.buffers[d.received]? = some buffer) (work : Work B) :
    d.serve (.receive most work) = (work (.ofTime d.time) buffer).map fun (handle, returned) =>
      ⟨d, .receive most work, [⟨d.received, handle.wasQueued⟩], 1,
        { d.put d.received returned with
          received := d.received + 1
          requeued := d.requeued + if handle.wasQueued then 1 else 0 }⟩ := by
  have same : d.numbered.received = d.received := rfl
  have numbered : 0 < most ∧ 0 < d.numbered.toReceive := by rwa [toReceive_numbered]
  rw [serve, note, d.numbered.receive_of_waiting numbered, StateT.run_bind, same,
    d.offer_noting there work]
  cases work (.ofTime d.time) buffer with
  | error fault => rfl
  | ok result =>
    obtain ⟨handle, returned⟩ := result
    exact congrArg (fun after => Except.ok (Service.mk d (.receive most work) _ 1 after))
      (unnumbered_numbered { d.put d.received returned with
        received := d.received + 1
        requeued := d.requeued + if handle.wasQueued then 1 else 0 })

theorem serve_transmit {most : Nat} (asked : 0 < most ∧ 0 < d.toSend) {buffer : B}
    (there : d.buffers[d.split + d.sent]? = some buffer) (work : Work B) :
    d.serve (.transmit most work) = (work (.ofTime d.time) buffer).map fun (handle, returned) =>
      ⟨d, .transmit most work, [⟨d.split + d.sent, handle.wasQueued⟩],
        if handle.wasQueued then 1 else 0,
        { d.put (d.split + d.sent) returned with
          sent := d.sent + if handle.wasQueued then 1 else 0 }⟩ := by
  have same : d.numbered.split + d.numbered.sent = d.split + d.sent := rfl
  have numbered : 0 < most ∧ 0 < d.numbered.toSend := by rwa [toSend_numbered]
  rw [serve, note, d.numbered.transmit_of_waiting numbered, StateT.run_bind, same,
    d.offer_noting there work]
  cases work (.ofTime d.time) buffer with
  | error fault => rfl
  | ok result =>
    obtain ⟨handle, returned⟩ := result
    exact congrArg (fun after => Except.ok (Service.mk d (.transmit most work) _ _ after))
      (unnumbered_numbered { d.put (d.split + d.sent) returned with
        sent := d.sent + if handle.wasQueued then 1 else 0 })

/-- Either whoever works with the buffer at hand ends in a fault, or the call is told, and numbers
and notes make no difference to it. -/
theorem serve_cases (call : DeviceCall B) :
    (∃ fault, call.EndsIn d fault ∧ d.serve call = .error fault ∧ d.perform call = .error fault) ∨
      ∃ service : Service B, d.serve call = .ok service ∧
        d.perform call = .ok (service.answer, service.after) ∧ service.before = d ∧
        service.call = call ∧ service.Told := by
  cases call with
  | adjust adjustment =>
    refine .inr ⟨_, ?_, rfl, rfl, rfl, .adjusted d adjustment⟩
    rw [← unnumbered_adjust]
    rfl
  | receive most work =>
    by_cases asked : 0 < most ∧ 0 < d.toReceive
    · obtain ⟨buffer, there⟩ := d.received_there asked.2
      rw [d.serve_receive asked there, perform, d.receive_of_waiting asked, d.offer_eq there]
      cases worked : work (.ofTime d.time) buffer with
      | error fault => exact .inl ⟨fault, ⟨buffer, there, worked⟩, rfl, rfl⟩
      | ok result => exact .inr ⟨_, rfl, rfl, rfl, rfl, .received asked work result.2 _⟩
    · rw [perform, d.receive_of_none asked]
      refine .inr ⟨_, ?_, rfl, rfl, rfl, .nothingReceived asked work⟩
      rw [← toReceive_numbered] at asked
      rw [serve, note, d.numbered.receive_of_none asked]
      exact congrArg (fun after => Except.ok (Service.mk d (.receive most work) [] 0 after))
        d.unnumbered_numbered
  | transmit most work =>
    by_cases asked : 0 < most ∧ 0 < d.toSend
    · obtain ⟨buffer, there⟩ := d.sent_there asked.2
      rw [d.serve_transmit asked there, perform, d.transmit_of_waiting asked, d.offer_eq there]
      cases worked : work (.ofTime d.time) buffer with
      | error fault => exact .inl ⟨fault, ⟨buffer, there, worked⟩, rfl, rfl⟩
      | ok result => exact .inr ⟨_, rfl, rfl, rfl, rfl, .transmitted asked work result.2 _⟩
    · rw [perform, d.transmit_of_none asked]
      refine .inr ⟨_, ?_, rfl, rfl, rfl, .nothingSent asked work⟩
      rw [← toSend_numbered] at asked
      rw [serve, note, d.numbered.transmit_of_none asked]
      exact congrArg (fun after => Except.ok (Service.mk d (.transmit most work) [] 0 after))
        d.unnumbered_numbered

end Device

namespace Service

variable {B : Type} {s : Service B}

/-- The buffers that were handed out to be received. -/
def received (s : Service B) : List Offer :=
  match s.call with
  | .receive _ _ => s.offers
  | _ => []

/-- The buffers that were handed out to be sent. -/
def sent (s : Service B) : List Offer :=
  match s.call with
  | .transmit _ _ => s.offers
  | _ => []

/-- What a call may hand out, and what it may count. -/
def Sound (s : Service B) : Prop :=
  s.after.requeued = s.before.requeued + s.received.countP (·.queued) ∧
    match s.call with
    | .adjust _ => s.offers = []
    | .receive most _ =>
      s.offers.length = (if 0 < most ∧ 0 < s.before.toReceive then 1 else 0) ∧
        s.answer = s.offers.length ∧
        ∀ offer ∈ s.offers, offer.index < min s.before.buffers.length s.before.split
    | .transmit most _ =>
      s.offers.length = (if 0 < most ∧ 0 < s.before.toSend then 1 else 0) ∧
        s.answer = s.offers.countP (·.queued) ∧
        ∀ offer ∈ s.offers, s.before.split ≤ offer.index ∧ offer.index < s.before.buffers.length

namespace Told

theorem sound (told : s.Told) : s.Sound := by
  cases told with
  | adjusted d adjustment =>
    refine ⟨?_, rfl⟩
    cases adjustment <;> rfl
  | received asked work returned queued =>
    refine ⟨?_, (if_pos asked).symm, rfl, ?_⟩
    · cases queued <;> rfl
    · intro offer one
      obtain rfl := List.mem_singleton.mp one
      exact Device.received_inside _ asked.2
  | transmitted asked work returned queued =>
    refine ⟨rfl, (if_pos asked).symm, ?_, ?_⟩
    · cases queued <;> rfl
    · intro offer one
      obtain rfl := List.mem_singleton.mp one
      exact ⟨Nat.le_add_right .., Device.sent_inside _ asked.2⟩
  | nothingReceived none work =>
    refine ⟨rfl, (if_neg none).symm, rfl, ?_⟩
    intro offer absent
    cases absent
  | nothingSent none work =>
    refine ⟨rfl, (if_neg none).symm, rfl, ?_⟩
    intro offer absent
    cases absent

/-- Receiving goes on from buffer to buffer. -/
theorem receives (told : s.Told) (on : s.call.startsReceiving = false) :
    s.received = [] ∧ s.after.received = s.before.received ∨
      ∃ queued, s.received = [⟨s.before.received, queued⟩] ∧
        s.after.received = s.before.received + 1 := by
  cases told with
  | adjusted d adjustment =>
    refine .inl ⟨rfl, ?_⟩
    cases adjustment with
    | split | sendAgain | sendAll => rfl
    | receiveAgain | receiveAll => cases on
  | received asked work returned queued => exact .inr ⟨queued, rfl, rfl⟩
  | transmitted | nothingReceived | nothingSent => exact .inl ⟨rfl, rfl⟩

/-- Sending goes on behind a buffer that was queued. -/
theorem sends (told : s.Told) (on : s.call.startsSending = false) :
    s.sent = [] ∧ s.after.split + s.after.sent = s.before.split + s.before.sent ∨
      ∃ queued, s.sent = [⟨s.before.split + s.before.sent, queued⟩] ∧
        s.after.split + s.after.sent =
          s.before.split + s.before.sent + if queued then 1 else 0 := by
  cases told with
  | adjusted d adjustment =>
    refine .inl ⟨rfl, ?_⟩
    cases adjustment with
    | receiveAgain => rfl
    | split | sendAgain | receiveAll | sendAll => cases on
  | transmitted asked work returned queued => exact .inr ⟨queued, rfl, (Nat.add_assoc ..).symm⟩
  | received | nothingReceived | nothingSent => exact .inl ⟨rfl, rfl⟩

end Told
end Service

/-! ### Runs of calls -/

namespace Device

variable {B : Type}

/-- Calls that follow each other, from one device to another. -/
inductive Serves : Device B → List (Service B) → Device B → Prop where
  | done (d : Device B) : Serves d [] d
  | next {service : Service B} {rest : List (Service B)} {last : Device B} (told : service.Told)
    (later : Serves service.after rest last) : Serves service.before (service :: rest) last

/-- Whoever works with the buffer that one of the calls hands out ends in a fault. -/
def EndsIn (d : Device B) (calls : List (DeviceCall B)) (fault : Fault) : Prop :=
  ∃ earlier call later answers middle, calls = earlier ++ call :: later ∧
    d.run earlier = .ok (answers, middle) ∧ call.EndsIn middle fault

theorem EndsIn.behind {d after : Device B} {call : DeviceCall B} {answer : Nat}
    (performed : d.perform call = .ok (answer, after)) {calls : List (DeviceCall B)} {fault : Fault}
    (ends : after.EndsIn calls fault) : d.EndsIn (call :: calls) fault := by
  obtain ⟨earlier, last, later, answers, middle, rfl, ran, faults⟩ := ends
  refine ⟨call :: earlier, last, later, answer :: answers, middle, rfl, ?_, faults⟩
  simp only [run, performed, bind, Except.bind, ran]
  rfl

theorem watch_cases (d : Device B) (calls : List (DeviceCall B)) :
    (∃ fault, d.EndsIn calls fault ∧ d.watch calls = .error fault ∧ d.run calls = .error fault) ∨
    ∃ history last, d.watch calls = .ok (history, last) ∧
      d.run calls = .ok (history.map (·.answer), last) ∧ history.map (·.call) = calls ∧
      Serves d history last := by
  induction calls generalizing d with
  | nil => exact .inr ⟨[], d, rfl, rfl, rfl, .done d⟩
  | cons call rest ih =>
    rcases d.serve_cases call with ⟨fault, ends, served, performed⟩ |
      ⟨service, served, performed, rfl, rfl, told⟩
    · refine .inl ⟨fault, ⟨[], call, rest, [], d, rfl, rfl, ends⟩, ?_, ?_⟩
      · simp only [watch, served, bind, Except.bind]
      · simp only [run, performed, bind, Except.bind]
    · rcases ih service.after with ⟨fault, ends, watched, ran⟩ |
        ⟨history, last, watched, ran, same, serves⟩
      · refine .inl ⟨fault, ends.behind performed, ?_, ?_⟩
        · simp only [watch, served, bind, Except.bind, watched]
        · simp only [run, performed, bind, Except.bind, ran]
      · refine .inr ⟨service :: history, last, ?_, ?_, ?_, .next told serves⟩
        · simp only [watch, served, bind, Except.bind, watched]
          rfl
        · simp only [run, performed, bind, Except.bind, ran]
          rfl
        · rw [List.map_cons, same]

namespace Serves

variable {d last : Device B} {history : List (Service B)}

theorem split {earlier later : List (Service B)} (serves : Serves d (earlier ++ later) last) :
    ∃ middle, Serves d earlier middle ∧ Serves middle later last := by
  induction earlier generalizing d with
  | nil => exact ⟨d, .done d, serves⟩
  | cons service rest ih =>
    cases serves with
    | next told after =>
      obtain ⟨middle, first, second⟩ := ih after
      exact ⟨middle, .next told first, second⟩

theorem sound (serves : Serves d history last) : ∀ service ∈ history, service.Sound := by
  induction serves with
  | done =>
    intro service none
    cases none
  | next told later ih =>
    intro service one
    rcases List.mem_cons.mp one with rfl | other
    · exact told.sound
    · exact ih service other

theorem requeued (serves : Serves d history last) :
    last.requeued = d.requeued + (history.flatMap Service.received).countP (·.queued) := by
  induction serves with
  | done => rfl
  | next told later ih =>
    rw [ih, told.sound.1, List.flatMap_cons, List.countP_append, Nat.add_assoc]

/-- As long as receiving does not start again, the buffers come one after the other. -/
theorem received (serves : Serves d history last)
    (on : ∀ service ∈ history, service.call.startsReceiving = false) :
    ∃ count, (history.flatMap Service.received).map (·.index) = List.range' d.received count := by
  induction serves with
  | done => exact ⟨0, rfl⟩
  | next told later ih =>
    obtain ⟨first, rest⟩ := List.forall_mem_cons.mp on
    obtain ⟨count, indices⟩ := ih rest
    rcases told.receives first with ⟨none, stays⟩ | ⟨queued, one, moves⟩
    · refine ⟨count, ?_⟩
      rw [List.flatMap_cons, none, List.nil_append, indices, stays]
    · refine ⟨count + 1, ?_⟩
      rw [List.flatMap_cons, one, List.cons_append, List.nil_append, List.map_cons, indices, moves,
        List.range'_succ]

/-- As long as sending does not start again, each buffer is the one after the last that was
queued. -/
theorem sent (serves : Serves d history last)
    (on : ∀ service ∈ history, service.call.startsSending = false) :
    (∀ offer ∈ (history.flatMap Service.sent).head?, offer.index = d.split + d.sent) ∧
      (history.flatMap Service.sent).IsChain fun offer next =>
        next.index = offer.index + if offer.queued then 1 else 0 := by
  induction serves with
  | done =>
    refine ⟨?_, .nil⟩
    intro offer none
    cases none
  | next told later ih =>
    obtain ⟨first, rest⟩ := List.forall_mem_cons.mp on
    obtain ⟨start, chain⟩ := ih rest
    rcases told.sends first with ⟨none, stays⟩ | ⟨queued, one, moves⟩
    · rw [List.flatMap_cons, none, List.nil_append, ← stays]
      exact ⟨start, chain⟩
    · rw [List.flatMap_cons, one, List.cons_append, List.nil_append]
      refine ⟨?_, List.isChain_cons.mpr ⟨?_, chain⟩⟩
      · intro offer same
        obtain rfl := Option.some.inj same
        rfl
      · intro next there
        rw [start next there, moves]

end Serves
end Device

/-! ### Queueing -/

/-- A handle that was asked so many times to queue its buffer. -/
def Handle.asked (handle : Handle) : Nat → Handle
  | 0 => handle
  | times + 1 => (handle.asked times).queue.2

theorem Handle.asked_ofTime (time : Instant) (times : Nat) :
    (ofTime time).asked times = if times = 0 then ofTime time else ⟨.queued, time⟩ := by
  induction times with
  | zero => rfl
  | succ times ih =>
    rw [asked, ih]
    cases times <;> rfl

theorem Handle.wasQueued_asked (time : Instant) (times : Nat) :
    ((ofTime time).asked times).wasQueued = true ↔ 0 < times := by
  rw [asked_ofTime]
  cases times <;> simp [ofTime, wasQueued]

/-- How the calls of a device hand out its buffers. -/
structure Device.Orderly {B : Type} (start : Device B) (calls : List (DeviceCall B))
    (history : List (Service B)) (last : Device B) : Prop where
  calls : history.map (·.call) = calls
  sound : ∀ service ∈ history, service.Sound
  requeued : last.requeued = start.requeued + (history.flatMap Service.received).countP (·.queued)
  /-- As long as receiving does not start again, each buffer is received once, in order. -/
  received : ∀ earlier phase later, history = earlier ++ phase ++ later →
    (∀ service ∈ phase, service.call.startsReceiving = false) →
    ∃ first count, (phase.flatMap Service.received).map (·.index) = List.range' first count
  /-- As long as sending does not start again, the next buffer comes once one was queued. -/
  sent : ∀ earlier phase later, history = earlier ++ phase ++ later →
    (∀ service ∈ phase, service.call.startsSending = false) →
    (phase.flatMap Service.sent).IsChain fun offer next =>
      next.index = offer.index + if offer.queued then 1 else 0

theorem Device.Serves.orderly {B : Type} {start last : Device B} {history : List (Service B)}
    (serves : Serves start history last) {calls : List (DeviceCall B)}
    (same : history.map (·.call) = calls) : start.Orderly calls history last where
  calls := same
  sound := serves.sound
  requeued := serves.requeued
  received := by
    rintro earlier phase later rfl on
    obtain ⟨last, first, -⟩ := serves.split
    obtain ⟨middle, -, between⟩ := first.split
    exact ⟨middle.received, between.received on⟩
  sent := by
    rintro earlier phase later rfl on
    obtain ⟨last, first, -⟩ := serves.split
    obtain ⟨middle, -, between⟩ := first.split
    exact (between.sent on).2

/-- Whatever the buffers and the counts of a device are, and whatever is done to the buffers and to
the split, a run of calls ends in no fault but one of whoever works with a buffer that is there, and
hands out the buffers in their order: of those to receive each one once, and of those to send the
next one as soon as the last was queued. Queued is a buffer whose handle was asked for that. -/
theorem Device.buffers_are_handed_out_in_order {B : Type} (start : Device B)
    (calls : List (DeviceCall B)) :
    (match start.watch calls with
      | .error fault => start.run calls = .error fault ∧ start.EndsIn calls fault
      | .ok (history, last) => start.run calls = .ok (history.map (·.answer), last) ∧
        start.Orderly calls history last) ∧
      ∀ time times, ((Handle.ofTime time).asked times).wasQueued = true ↔ 0 < times := by
  refine ⟨?_, Handle.wasQueued_asked⟩
  rcases start.watch_cases calls with ⟨fault, ends, watched, ran⟩ |
    ⟨history, last, watched, ran, same, serves⟩
  · rw [watched]
    exact ⟨ran, ends⟩
  · rw [watched]
    exact ⟨ran, serves.orderly same⟩

/-- Two buffers are received and one of them is queued, then all are to be sent, of which the first
one is handed out again until it is queued. -/
theorem Device.buffers_are_handed_out_in_order_of_requeued :
    let forward : Work Nat := fun handle buffer => .ok (handle.queue.2, buffer + 1)
    let leave : Work Nat := fun handle buffer => .ok (handle, buffer)
    let start : Device Nat := .forReceiving [10, 20]
    let calls : List (DeviceCall Nat) := [.receive 1 forward, .adjust (.split 7), .receive 1 leave,
      .receive 1 leave, .transmit 1 forward, .adjust .sendAll, .transmit 1 leave,
      .transmit 1 forward, .transmit 1 forward]
    ∃ history last, start.watch calls = .ok (history, last) ∧ start.Orderly calls history last ∧
      last.requeued = 1 ∧ history.flatMap (·.offers) =
        [⟨0, true⟩, ⟨1, false⟩, ⟨0, false⟩, ⟨0, true⟩, ⟨1, true⟩] := by
  intro forward leave start calls
  have told : (start.watch calls).toOption.map
      (fun (history, last) => (last.requeued, history.flatMap (·.offers))) =
      some (1, [⟨0, true⟩, ⟨1, false⟩, ⟨0, false⟩, ⟨0, true⟩, ⟨1, true⟩]) := by
    decide +kernel
  have handed := buffers_are_handed_out_in_order start calls
  generalize watched : start.watch calls = outcome at handed told
  cases outcome with
  | error fault => cases told
  | ok result =>
    obtain ⟨history, last⟩ := result
    obtain ⟨⟨-, orderly⟩, -⟩ := handed
    obtain ⟨requeued, offers⟩ := Prod.mk.inj (Option.some.inj told)
    exact ⟨history, last, rfl, orderly, requeued, offers⟩

end GeoRouter
