import GeoRouter.Proofs.Turns
import GeoRouter.Proofs.Numbering

/-!
# Numbers are used once each

A number is read when a packet is laid out, and the next one takes its place once the headers are
written. An `Attempt` is one call for a packet, with all that is at hand before and after it: one
that is refused changes nothing of that, and what else happens in a run takes no number. So the
packets of a run are numbered without a gap, by the octets that they go out with.
-/

namespace GeoRouter

/-- One call for a packet to be laid out. -/
structure Attempt where
  before : Workplace
  request : Request
  answer : Except OperationError FramedPacket
  after : Workplace

namespace Attempt

/-- The number in the octets that were laid out, behind the Ethernet header and the fixed header. -/
def emitted? (attempt : Attempt) : Option Nat :=
  match attempt.answer with
  | .ok _ => some (attempt.after.buffer.bytes.number 26 2)
  | .error _ => none

end Attempt

section Attempts

variable {D : Type} [LT D] [LE D] [DecidableLT D] [DecidableLE D] (distance : Point → Point → D)

def Workplace.attempt (place : Workplace) (request : Request) : Except Fault Attempt := do
  match ← place.router.prepare distance request place.adapter.address place.buffer with
  | .error refusal =>
    return ⟨place, request, .error refusal.cause, { place with buffer := refusal.left }⟩
  | .ok (router, packet) =>
    return ⟨place, request, .ok packet, { place with router, buffer := packet.buffer }⟩

/-- The attempts of a conduct, with the workplace after all of it. -/
def Conduct.trace : Conduct → Workplace → Except Fault (List Attempt × Workplace)
  | .done, place => .ok ([], place)
  | .write buffer next, place => next.trace { place with buffer }
  | .prepare request next, place => do
    let attempt ← place.attempt distance request
    let (later, after) ← (next attempt.answer).trace attempt.after
    return (attempt :: later, after)
  | .send next, place =>
    let (answer, adapter, router) := place.router.send place.adapter
    (next answer).trace { place with adapter, router }

namespace Host

def traceAttended (handler : FramedPacket → Conduct) (reception : Reception) :
    Except Fault (List Attempt × Workplace) :=
  match reception.outcome with
  | .delivered packet => (handler packet).trace distance reception.place
  | _ => .ok ([], reception.place)

/-- The attempts of a turn: those of the application, or the one behind a payload that is sent. -/
def traceTurn (host : Host) : Turn → Except Fault (List Attempt × Host)
  | .receive handle buffer handler => do
    let reception ← Router.receive distance (host.workplace handle buffer)
    let (attempts, place) ← traceAttended distance handler reception
    return (attempts, ofWorkplace place)
  | .offer handle buffer sender => do
    let (attempts, place) ← sender.trace distance (host.workplace handle buffer)
    return (attempts, ofWorkplace place)
  | .other event _ => do
    let (_, after) ← host.step distance event
    match event with
    | .originate handle request payload buffer =>
      let attempt ← (host.workplace handle buffer).attempt distance
        { request with payload := payload.length }
      return ([attempt], after)
    | _ => return ([], after)

def trace (host : Host) : List Turn → Except Fault (List Attempt × Host)
  | [] => .ok ([], host)
  | turn :: rest => do
    let (attempts, after) ← host.traceTurn distance turn
    let (later, last) ← after.trace rest
    return (attempts ++ later, last)

end Host

/-! ### One attempt -/

theorem Headers.number_sequence (b : Bytes) :
    (inOctets b).extended.sequence.val.toNat = b.number 12 2 := by
  have number : Bytes.number (b.drop 12) 0 2 = b.number 12 2 := b.number_drop 12 0 2
  have bound : b.number 12 2 < 65536 := b.number_lt 12 2
  show (BitVec.ofNat 16 (Bytes.number (b.drop 12) 0 2)).toNat = _
  rw [number, BitVec.toNat_ofNat]
  exact Nat.mod_eq_of_lt bound

theorem Packet.number_laid (buffer : Buffer) (header : FrameHeader) (h : Headers) (tail : Bytes) :
    (laid buffer header h tail).buffer.bytes.number 26 2 = h.extended.sequence.val.toNat := by
  have stamp := congrArg Stamp.sequence (h.stamp_encode tail)
  have front : header.encode.length ≤ 26 := (by decide : 14 ≤ 26)
  have skipped : Bytes.number (header.encode ++ (h.encode ++ tail)) 26 2 =
      Bytes.number (h.encode ++ tail) 12 2 := Bytes.number_append_right 2 front
  show Bytes.number (header.encode ++ (h.encode ++ tail)) 26 2 = _
  rw [skipped, ← Headers.number_sequence]
  exact congrArg (·.val.toNat) stamp

namespace Workplace

variable (place : Workplace) (request : Request)

theorem attempt_answers : ∃ attempt, place.attempt distance request = .ok attempt := by
  unfold attempt
  rcases place.router.prepare_frame distance request place.adapter.address place.buffer with
    ⟨refusal, prepared⟩ | ⟨packet, prepared⟩
  · rw [prepared]
    exact ⟨_, rfl⟩
  · rw [prepared]
    exact ⟨_, rfl⟩

variable {distance place request}

/-- An attempt is refused and nothing has changed, or a packet with the number of the router is in
the buffer and the number has been taken. -/
theorem attempt_cases {attempt : Attempt}
    (attempted : place.attempt distance request = .ok attempt) :
    attempt.before = place ∧ attempt.request = request ∧
      ((∃ reason, attempt.answer = .error reason) ∧ attempt.emitted? = none ∧
          attempt.after = place ∨
        attempt.emitted? = some place.router.sequence.val.toNat ∧
          attempt.after.router =
            { place.router with sequence := place.router.sequence.next }) := by
  unfold Workplace.attempt at attempted
  rw [Router.prepare_eq] at attempted
  cases made : place.router.headersFor distance request place.adapter.address with
  | error reason =>
    rw [made] at attempted
    obtain rfl := Except.ok.inj attempted
    exact ⟨rfl, rfl, .inl ⟨⟨reason, rfl⟩, rfl, rfl⟩⟩
  | ok h =>
    by_cases room : place.buffer.canTake h.frameLength
    · simp only [made, if_pos room] at attempted
      obtain rfl := Except.ok.inj attempted
      refine ⟨rfl, rfl, .inr ⟨?_, rfl⟩⟩
      have sequence : h.extended.sequence = place.router.sequence :=
        (Router.makes_of_headersFor distance made).sequence
      rw [← sequence]
      exact congrArg some (Packet.number_laid ..)
    · simp only [made, if_neg room] at attempted
      obtain rfl := Except.ok.inj attempted
      exact ⟨rfl, rfl, .inl ⟨⟨.badSize, rfl⟩, rfl, rfl⟩⟩

end Workplace

/-! ### One attempt after the other -/

/-- Attempts with the number of the router before the first and after the last of them. In between,
anything may become of the router that takes no number. -/
inductive Consumes : SequenceNumber → List Attempt → SequenceNumber → Prop where
  | done {number : SequenceNumber} : Consumes number [] number
  | next {place : Workplace} {request : Request} {attempt : Attempt} {rest : List Attempt}
    {last : SequenceNumber} (attempted : place.attempt distance request = .ok attempt)
    (later : Consumes attempt.after.router.sequence rest last) :
    Consumes place.router.sequence (attempt :: rest) last

namespace Consumes

variable {distance} {number middle last : SequenceNumber} {attempts others : List Attempt}

theorem append (first : Consumes distance number attempts middle)
    (second : Consumes distance middle others last) :
    Consumes distance number (attempts ++ others) last := by
  induction first with
  | done => exact second
  | next attempted later ih => exact .next attempted (ih second)

theorem attempted (consumes : Consumes distance number attempts last) :
    ∀ attempt ∈ attempts, attempt.before.attempt distance attempt.request = .ok attempt := by
  induction consumes with
  | done =>
    intro attempt none
    cases none
  | next attempted later ih =>
    intro attempt one
    rcases List.mem_cons.mp one with rfl | other
    · obtain ⟨before, request, -⟩ := Workplace.attempt_cases attempted
      rw [before, request]
      exact attempted
    · exact ih attempt other

/-- As many numbers are gone as packets were laid out, and these bear them in their order. -/
theorem emitted (consumes : Consumes distance number attempts last) :
    ∃ n, attempts.filterMap Attempt.emitted? =
      (List.range n).map (fun k => (number.later k).val.toNat) ∧ last = number.later n := by
  induction consumes with
  | done => exact ⟨0, rfl, rfl⟩
  | next attempted later ih =>
    obtain ⟨n, numbers, reached⟩ := ih
    obtain ⟨-, -, ⟨-, refused, kept⟩ | ⟨emitted, taken⟩⟩ := Workplace.attempt_cases attempted
    · rw [kept] at numbers reached
      exact ⟨n, (List.filterMap_cons_none refused).trans numbers, reached⟩
    · rw [taken] at numbers reached
      refine ⟨n + 1, ?_, reached⟩
      rw [List.filterMap_cons_some emitted, numbers, List.range_succ_eq_map, List.map_cons,
        List.map_map]
      rfl

end Consumes

/-! ### What takes numbers and what does not -/

theorem Conduct.perform_prepare {place : Workplace} {request : Request} {attempt : Attempt}
    (attempted : place.attempt distance request = .ok attempt)
    (next : Except OperationError FramedPacket → Conduct) :
    (prepare request next).perform distance place =
      (next attempt.answer).perform distance attempt.after := by
  unfold Workplace.attempt at attempted
  rw [perform]
  rcases place.router.prepare_frame distance request place.adapter.address place.buffer with
    ⟨refusal, prepared⟩ | ⟨packet, prepared⟩
  · rw [prepared] at attempted ⊢
    obtain rfl := Except.ok.inj attempted
    rfl
  · rw [prepared] at attempted ⊢
    obtain rfl := Except.ok.inj attempted
    rfl

theorem Conduct.consumes (conduct : Conduct) (place : Workplace) : ∃ queued attempts after,
    conduct.perform distance place = .ok (queued, after) ∧
      conduct.trace distance place = .ok (attempts, after) ∧
      Consumes distance place.router.sequence attempts after.router.sequence := by
  -- The hypotheses are for every workplace, as each step hands the next one another.
  induction conduct generalizing place with
  | done => exact ⟨0, [], place, rfl, rfl, .done⟩
  | write buffer next ih => exact ih { place with buffer }
  | prepare request next ih =>
    obtain ⟨attempt, attempted⟩ := place.attempt_answers distance request
    obtain ⟨queued, attempts, after, performed, traced, consumes⟩ :=
      ih attempt.answer attempt.after
    refine ⟨queued, attempt :: attempts, after, ?_, ?_, .next attempted consumes⟩
    · rw [perform_prepare distance attempted, performed]
    · simp only [trace, attempted, bind, Except.bind, traced]
      rfl
  | send next ih =>
    have kept := congrArg Router.sequence (place.router.send_frame place.adapter)
    cases sent : place.router.send place.adapter with | mk answer rest
    obtain ⟨queued, attempts, after, performed, traced, consumes⟩ :=
      ih answer { place with adapter := rest.1, router := rest.2 }
    rw [sent] at kept
    dsimp only at kept consumes
    rw [kept] at consumes
    refine ⟨queued + if answer.isOk then 1 else 0, attempts, after, ?_, ?_, consumes⟩
    · simp only [perform, sent, bind, Except.bind, performed]
      rfl
    · simp only [trace, sent, traced]

/-- A payload that is sent makes one attempt, and takes no other number. -/
theorem Router.attempt_of_originate {r : Router} {request : Request} {adapter : Adapter}
    {payload : Bytes} {buffer : Buffer} {answer : Except OperationError Unit} {place : Workplace}
    (sent : r.originate distance adapter request payload buffer = .ok (answer, place)) :
    ∃ attempt, Workplace.attempt distance ⟨r, adapter, buffer⟩ request = .ok attempt ∧
      place.router.sequence = attempt.after.router.sequence := by
  unfold Workplace.attempt
  rcases sequence_originate distance sent with
    ⟨after, packet, prepared, taken⟩ | ⟨⟨refusal, refused⟩, kept⟩
  · rw [prepared]
    exact ⟨_, rfl, taken⟩
  · rw [refused]
    exact ⟨_, rfl, kept⟩

namespace Host

theorem attend_consumes (handler : FramedPacket → Conduct) (reception : Reception) :
    ∃ calls queued attempts after,
      attend distance handler reception = .ok (calls, queued, after) ∧
        traceAttended distance handler reception = .ok (attempts, after) ∧
        Consumes distance reception.place.router.sequence attempts after.router.sequence := by
  unfold attend traceAttended
  cases reception.outcome with
  | delivered packet =>
    obtain ⟨queued, attempts, after, performed, traced, consumes⟩ :=
      (handler packet).consumes distance reception.place
    simp only [performed, traced]
    exact ⟨[packet], queued, attempts, after, rfl, rfl, consumes⟩
  | ignored | forwarded | discarded => exact ⟨[], 0, [], reception.place, rfl, rfl, .done⟩

theorem event_consumes {host after : Host} {event : Event} {report : Report}
    (stepped : host.step distance event = .ok (report, after))
    (inside : ∀ handle buffer, event ≠ .receive handle buffer) :
    ∃ attempts, host.traceTurn distance (.other event inside) = .ok (attempts, after) ∧
      Consumes distance host.router.sequence attempts after.router.sequence := by
  simp only [traceTurn, bind, Except.bind, stepped]
  cases event with
  | originate handle request payload buffer =>
    obtain ⟨answer, place, sequence, sent, -⟩ := host.router.originate_frame distance
      { request with payload := payload.length } ⟨host.address, handle⟩ payload buffer rfl
    rw [step, sent] at stepped
    obtain ⟨-, rfl⟩ := Prod.mk.inj (Except.ok.inj stepped)
    obtain ⟨attempt, attempted, taken⟩ := Router.attempt_of_originate distance sent
    simp only [workplace, attempted]
    refine ⟨[attempt], rfl, ?_⟩
    show Consumes distance host.router.sequence [attempt] place.router.sequence
    rw [taken]
    exact .next attempted .done
  | _ =>
    refine ⟨[], rfl, ?_⟩
    rw [sequence_step distance stepped rfl]
    exact .done

theorem turn_consumes (host : Host) (turn : Turn) : ∃ episode attempts,
    host.turn distance turn = .ok episode ∧
      host.traceTurn distance turn = .ok (attempts, episode.after) ∧
      Consumes distance host.router.sequence attempts episode.after.router.sequence := by
  cases turn with
  | receive handle buffer handler =>
    obtain ⟨calls, queued, attempts, after, attended, traced, consumes⟩ :=
      attend_consumes distance handler (Router.reception distance (host.workplace handle buffer))
    rw [Router.sequence_reception] at consumes
    simp only [Host.turn, traceTurn, Router.receive_eq, bind, Except.bind, attended, traced]
    exact ⟨_, attempts, rfl, rfl, consumes⟩
  | offer handle buffer sender =>
    obtain ⟨queued, attempts, after, performed, traced, consumes⟩ :=
      sender.consumes distance (host.workplace handle buffer)
    simp only [Host.turn, traceTurn, bind, Except.bind, performed, traced]
    exact ⟨_, attempts, rfl, rfl, consumes⟩
  | other event inside =>
    obtain ⟨report, after, stepped, turned⟩ := host.turn_other distance event inside
    obtain ⟨attempts, traced, consumes⟩ := event_consumes distance stepped inside
    exact ⟨_, attempts, turned, traced, consumes⟩

theorem turns_consume (host : Host) (turns : List Turn) : ∃ history last attempts,
    host.turns distance turns = .ok (history, last) ∧
      host.trace distance turns = .ok (attempts, last) ∧
      Consumes distance host.router.sequence attempts last.router.sequence := by
  induction turns generalizing host with
  | nil => exact ⟨[], host, [], rfl, rfl, .done⟩
  | cons turn rest ih =>
    obtain ⟨episode, attempts, turned, traced, consumes⟩ := host.turn_consumes distance turn
    obtain ⟨history, last, others, went, further, later⟩ := ih episode.after
    refine ⟨episode :: history, last, attempts ++ others, ?_, ?_, consumes.append later⟩
    · simp only [Host.turns, bind, Except.bind, turned, went]
      rfl
    · simp only [trace, bind, Except.bind, traced, further]
      rfl

end Host

/-! ### From the creation of a router -/

/-- The generator starts at one, and starts again there after the last number. -/
theorem SequenceNumber.toNat_later_first (n : Nat) :
    (first.later n).val.toNat = n % 65535 + 1 := by
  induction n with
  | zero => rfl
  | succ n ih =>
    rw [later_succ, toNat_next, ih]
    split <;> omega

/-- In whatever a new router takes part, the packets that it lays out bear the numbers from one to
65535, in this order and then again. Of an attempt that is refused, for whatever reason, nothing
remains. -/
theorem Host.numbers_are_used_once (locations : LocationTable) (links : Links)
    (settings : Settings) (management : Management) (address : Mac) (turns : List Turn) :
    let host : Host := ⟨{ locations, links, settings, management }, address⟩
    ∃ history last attempts n, host.turns distance turns = .ok (history, last) ∧
      host.trace distance turns = .ok (attempts, last) ∧
      attempts.filterMap Attempt.emitted? = (List.range n).map (· % 65535 + 1) ∧
      last.router.sequence.val.toNat = n % 65535 + 1 ∧
      ∀ attempt ∈ attempts,
        attempt.before.attempt distance attempt.request = .ok attempt ∧
        ∀ reason, attempt.answer = .error reason → attempt.after = attempt.before := by
  intro host
  obtain ⟨history, last, attempts, went, traced, consumes⟩ := host.turns_consume distance turns
  obtain ⟨n, numbers, reached⟩ := consumes.emitted
  refine ⟨history, last, attempts, n, went, traced, ?_, ?_, ?_⟩
  · rw [numbers]
    exact List.map_congr_left fun k _ => SequenceNumber.toNat_later_first k
  · rw [reached]
    exact SequenceNumber.toNat_later_first n
  · intro attempt one
    have attempted := consumes.attempted attempt one
    refine ⟨attempted, ?_⟩
    intro reason refused
    obtain ⟨-, -, ⟨-, -, kept⟩ | ⟨emitted, -⟩⟩ := Workplace.attempt_cases attempted
    · exact kept
    · unfold Attempt.emitted? at emitted
      rw [refused] at emitted
      cases emitted

end Attempts

/-- A payload too large for any packet, then two that are laid out. -/
theorem Host.numbers_are_used_once_of_refused :
    let distance : Point → Point → Nat := fun _ _ => 0
    let source : Address := Address.zero.withMid ⟨1⟩
    let destination : Address := Address.zero.withMid ⟨2⟩
    let host : Host := {
      router := {
        locations := ⟨⟨[.ofAddress destination], []⟩⟩
        links := ⟨⟨[{ address := source }], []⟩⟩
        settings := {}
        management := { time := some 1072915200005, position := some ⟨0, 0, 0, 0, false⟩ } }
      address := source.mac }
    let request (payload : Nat) : Request := { destination, next := .btpA, payload }
    let sender : Conduct := .prepare (request 0x10000) fun _ => .prepare (request 0) fun _ =>
      .prepare (request 1) fun _ => .done
    let turns : List Turn := [.offer (.ofTime ⟨0⟩) (.ofAllocated []) sender]
    ∃ history last attempts, host.turns distance turns = .ok (history, last) ∧
      host.trace distance turns = .ok (attempts, last) ∧
      attempts.map (·.emitted?) = [none, some 1, some 2] ∧
      last.router.sequence.val.toNat = 3 := by
  intro distance source destination host request sender turns
  obtain ⟨history, last, attempts, n, went, traced, numbers, next, -⟩ :=
    numbers_are_used_once distance ⟨⟨[.ofAddress destination], []⟩⟩
      ⟨⟨[{ address := source }], []⟩⟩ {}
      { time := some 1072915200005, position := some ⟨0, 0, 0, 0, false⟩ } source.mac turns
  have told : (host.trace distance turns).toOption.map (·.1.map (·.emitted?)) =
      some [none, some 1, some 2] := by
    decide +kernel
  rw [traced] at told
  have emitted : attempts.map (·.emitted?) = [none, some 1, some 2] := Option.some.inj told
  have both : attempts.filterMap Attempt.emitted? = [1, 2] := by
    have issued := congrArg (List.filterMap id) emitted
    rw [List.filterMap_map] at issued
    exact issued
  have two : n = 2 := by
    have length := congrArg List.length numbers
    rw [both, List.length_map, List.length_range] at length
    exact length.symm
  subst two
  exact ⟨history, last, attempts, went, traced, emitted, next⟩

end GeoRouter
