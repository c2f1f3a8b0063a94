import GeoRouter.Proofs.Run

/-!
# Turns of a host

Runs in which the application takes part: a delivered packet is handed to a handler, and a buffer
that may be sent to a sender, and both may write to the buffer at hand, lay out packets of the
router in it and queue it, each time with an eye on the answer. What they do is a `Conduct`, and the
handler may be another one on every turn. Like every other event, no turn ends in a fault.
-/

namespace GeoRouter

/-- What is done with a buffer at hand, step by step. -/
inductive Conduct where
  | done
  /-- The buffer gets other octets. -/
  | write (buffer : Buffer) (next : Conduct)
  /-- A packet is laid out in the buffer, up to its payload. -/
  | prepare (request : Request) (next : Except OperationError FramedPacket → Conduct)
  /-- The buffer is queued as a packet of the router. -/
  | send (next : Except OperationError Unit → Conduct)

inductive Turn where
  | receive (handle : Handle) (buffer : Buffer) (handler : FramedPacket → Conduct)
  | offer (handle : Handle) (buffer : Buffer) (sender : Conduct)
  | other (event : Event) (inside : ∀ handle buffer, event ≠ .receive handle buffer)

structure Episode where
  before : Host
  turn : Turn
  /-- What has become of the frame. A turn without one counts as one with a frame for others. -/
  outcome : Outcome := .ignored
  calls : List FramedPacket := []
  /-- How many packets of the router were queued. -/
  queued : Nat
  after : Host

def Report.queued : Report → Nat
  | .originated (.ok ()) _ => 1
  | _ => 0

section Turns

variable {D : Type} [LT D] [LE D] [DecidableLT D] [DecidableLE D] (distance : Point → Point → D)

namespace Conduct

def perform : Conduct → Workplace → Except Fault (Nat × Workplace)
  | .done, place => .ok (0, place)
  | .write buffer next, place => next.perform { place with buffer }
  | .prepare request next, place => do
    match ← place.router.prepare distance request place.adapter.address place.buffer with
    | .error refusal => (next (.error refusal.cause)).perform { place with buffer := refusal.left }
    | .ok (router, packet) =>
      (next (.ok packet)).perform { place with router, buffer := packet.buffer }
  | .send next, place => do
    let (answer, adapter, router) := place.router.send place.adapter
    let (queued, after) ← (next answer).perform { place with adapter, router }
    return (queued + (if answer.isOk then 1 else 0), after)

end Conduct

namespace Host

/-- Calls the handler with a delivered packet, and notes the call. -/
def attend (handler : FramedPacket → Conduct) (reception : Reception) :
    Except Fault (List FramedPacket × Nat × Workplace) :=
  match reception.outcome with
  | .delivered packet => return ([packet], ← (handler packet).perform distance reception.place)
  | _ => return ([], 0, reception.place)

def turn (host : Host) : Turn → Except Fault Episode
  | .receive handle buffer handler => do
    let reception ← Router.receive distance (host.workplace handle buffer)
    let (calls, queued, place) ← attend distance handler reception
    return {
      before := host
      turn := .receive handle buffer handler
      outcome := reception.outcome
      calls
      queued
      after := ofWorkplace place }
  | .offer handle buffer sender => do
    let (queued, place) ← sender.perform distance (host.workplace handle buffer)
    return { before := host, turn := .offer handle buffer sender, queued, after := ofWorkplace place }
  | .other event inside => do
    let (report, after) ← host.step distance event
    return { before := host, turn := .other event inside, queued := report.queued, after }

def turns (host : Host) : List Turn → Except Fault (List Episode × Host)
  | [] => .ok ([], host)
  | turn :: rest => do
    let episode ← host.turn distance turn
    let (later, last) ← episode.after.turns rest
    return (episode :: later, last)

end Host

/-- A conduct ends, and changes nothing of the router but its number and the count of packets that
were sent. -/
theorem Conduct.perform_frame (conduct : Conduct) (place : Workplace) : ∃ queued after sequence,
    conduct.perform distance place = .ok (queued, after) ∧
      after.router = { place.router with
        sequence
        counters.sent := place.router.counters.sent + queued } := by
  -- What comes next depends on the answer, so that the hypotheses are there for every answer.
  induction conduct generalizing place with
  | done => exact ⟨0, place, place.router.sequence, rfl, rfl⟩
  | write buffer next ih =>
    obtain ⟨queued, after, sequence, performed, frame⟩ := ih { place with buffer }
    exact ⟨queued, after, sequence, performed, frame⟩
  | prepare request next ih =>
    unfold perform
    rcases place.router.prepare_frame distance request place.adapter.address place.buffer with
      ⟨refusal, prepared⟩ | ⟨packet, prepared⟩
    · obtain ⟨queued, after, sequence, performed, frame⟩ :=
        ih (.error refusal.cause) { place with buffer := refusal.left }
      rw [prepared]
      exact ⟨queued, after, sequence, performed, frame⟩
    · obtain ⟨queued, after, sequence, performed, frame⟩ := ih (.ok packet)
        { place with
          router.sequence := place.router.sequence.next
          buffer := packet.buffer }
      rw [prepared]
      exact ⟨queued, after, sequence, performed, frame⟩
  | send next ih =>
    have once := place.router.send_frame place.adapter
    cases sent : place.router.send place.adapter with | mk answer rest
    obtain ⟨queued, after, sequence, performed, frame⟩ :=
      ih answer { place with adapter := rest.1, router := rest.2 }
    rw [sent] at once
    refine ⟨queued + if answer.isOk then 1 else 0, after, sequence, ?_, ?_⟩
    · simp only [perform, sent, bind, Except.bind, performed]
      rfl
    · rw [frame]
      dsimp only at once ⊢
      rw [once, Nat.add_comm queued, ← Nat.add_assoc]

def Outcome.packets : Outcome → List FramedPacket
  | .delivered packet => [packet]
  | _ => []

def Conduct.handler (conduct : FramedPacket → Conduct) : Handler := fun packet place =>
  ((conduct packet).perform distance place).map (·.2)

namespace Host

theorem handOver_handler (handler : FramedPacket → Conduct) (reception : Reception) :
    handOver (Conduct.handler distance handler) reception =
      (attend distance handler reception).map (·.2.2) := by
  unfold handOver attend
  cases reception.outcome with
  | delivered packet =>
    simp only [Conduct.handler]
    cases (handler packet).perform distance reception.place <;> rfl
  | ignored | forwarded | discarded => rfl

theorem attend_frame (handler : FramedPacket → Conduct) (reception : Reception) :
    ∃ queued after sequence,
      attend distance handler reception = .ok (reception.outcome.packets, queued, after) ∧
        after.router = { reception.place.router with
          sequence
          counters.sent := reception.place.router.counters.sent + queued } := by
  unfold attend
  cases reception.outcome with
  | delivered packet =>
    obtain ⟨queued, after, sequence, performed, frame⟩ :=
      (handler packet).perform_frame distance reception.place
    refine ⟨queued, after, sequence, ?_, frame⟩
    dsimp only
    rw [performed]
    rfl
  | ignored | forwarded | discarded =>
    exact ⟨0, reception.place, reception.place.router.sequence, rfl, rfl⟩

/-- What a turn does with a frame is what is done with one that the device hands over. -/
theorem take_of_turn {host : Host} {handle : Handle} {buffer : Buffer}
    {handler : FramedPacket → Conduct} {episode : Episode}
    (went : host.turn distance (.receive handle buffer handler) = .ok episode) :
    ∃ answer, (take distance (Conduct.handler distance handler) handle buffer).run host =
      .ok (answer, episode.after) := by
  obtain ⟨queued, after, sequence, attended, -⟩ :=
    attend_frame distance handler (Router.reception distance (host.workplace handle buffer))
  simp only [turn, Router.receive_eq, bind, Except.bind, attended] at went
  obtain rfl := Except.ok.inj went
  refine ⟨(after.adapter.handle, after.buffer), ?_⟩
  rw [take_run, handOver_handler, attended]
  rfl

/-! ### What comes of a turn -/

theorem turn_receive {host : Host} {handle : Handle} {buffer : Buffer} {reception : Reception}
    (received : Router.reception distance (host.workplace handle buffer) = reception)
    (handler : FramedPacket → Conduct) :
    ∃ queued after sequence, host.turn distance (.receive handle buffer handler) = .ok {
        before := host
        turn := .receive handle buffer handler
        outcome := reception.outcome
        calls := reception.outcome.packets
        queued
        after } ∧
      after.router = { reception.place.router with
        sequence
        counters.sent := reception.place.router.counters.sent + queued } := by
  obtain ⟨queued, after, sequence, attended, frame⟩ := attend_frame distance handler reception
  refine ⟨queued, ofWorkplace after, sequence, ?_, frame⟩
  simp only [turn, Router.receive_eq, received, bind, Except.bind, attended]
  rfl

theorem turn_offer (host : Host) (handle : Handle) (buffer : Buffer) (sender : Conduct) :
    ∃ queued after sequence, host.turn distance (.offer handle buffer sender) = .ok {
        before := host
        turn := .offer handle buffer sender
        queued
        after } ∧
      after.router = { host.router with
        sequence
        counters.sent := host.router.counters.sent + queued } := by
  obtain ⟨queued, after, sequence, performed, frame⟩ :=
    sender.perform_frame distance (host.workplace handle buffer)
  refine ⟨queued, ofWorkplace after, sequence, ?_, frame⟩
  simp only [turn, bind, Except.bind, performed]
  rfl

theorem turn_other (host : Host) (event : Event)
    (inside : ∀ handle buffer, event ≠ .receive handle buffer) :
    ∃ report after, host.step distance event = .ok (report, after) ∧
      host.turn distance (.other event inside) = .ok {
        before := host
        turn := .other event inside
        queued := report.queued
        after } := by
  obtain ⟨report, after, stepped⟩ := host.step_answers distance event
  refine ⟨report, after, stepped, ?_⟩
  simp only [turn, bind, Except.bind, stepped]
  rfl

end Host

/-! ### Conducts that send nothing -/

/-- Nothing is laid out and nothing is sent, whatever else is written to the buffer. -/
inductive Conduct.Silent : Conduct → Prop where
  | done : Silent .done
  | write (buffer : Buffer) {next : Conduct} (rest : Silent next) : Silent (.write buffer next)

theorem Conduct.Silent.perform_eq {conduct : Conduct} (silent : conduct.Silent)
    (place : Workplace) :
    ∃ buffer, conduct.perform distance place = .ok (0, { place with buffer }) := by
  induction silent generalizing place with
  | done => exact ⟨place.buffer, rfl⟩
  | write buffer rest ih => exact ih { place with buffer }

/-- Behind such a handler the host is as the reception has left it. -/
theorem Host.turn_silent (host : Host) (handle : Handle) (buffer : Buffer)
    {handler : FramedPacket → Conduct} (silent : ∀ packet, (handler packet).Silent) :
    let reception := Router.reception distance (host.workplace handle buffer)
    host.turn distance (.receive handle buffer handler) = .ok {
      before := host
      turn := .receive handle buffer handler
      outcome := reception.outcome
      calls := reception.outcome.packets
      queued := 0
      after := ofWorkplace reception.place } := by
  intro reception
  have attended : ∃ buffer, attend distance handler reception =
      .ok (reception.outcome.packets, 0, { reception.place with buffer }) := by
    unfold attend
    cases reception.outcome with
    | delivered packet =>
      obtain ⟨buffer, performed⟩ := (silent packet).perform_eq distance reception.place
      refine ⟨buffer, ?_⟩
      dsimp only
      rw [performed]
      rfl
    | ignored | forwarded | discarded => exact ⟨reception.place.buffer, rfl⟩
  obtain ⟨buffer, attended⟩ := attended
  simp only [turn, Router.receive_eq, bind, Except.bind]
  rw [attended]
  rfl

end Turns
end GeoRouter
