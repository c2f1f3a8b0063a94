import GeoRouter.Proofs.Host

/-!
# Runs of a host

Whatever may happen to a host, one event after the other: frames arrive, payloads are sent, time
passes, and the application changes table, links and settings. A run never faults, and its history
tells each event with the host before and after it.
-/

namespace GeoRouter

inductive Event where
  | receive (handle : Handle) (buffer : Buffer)
  | originate (handle : Handle) (request : Request) (payload : Bytes) (buffer : Buffer)
  | poll (now : Instant)
  | addLink (device : DeviceId) (configuration : Configuration) (type : StationType)
    (country : UInt16)
  | add (address : Address)
  | remove (mid : Mid)
  | configure (setting : Setting) (value : Value)
  | manage (management : Management)
  | reseed (seed : BitVec 64)

def Event.originates : Event → Bool
  | .originate .. => true
  | _ => false

theorem Event.receive_or_inside (event : Event) :
    (∃ handle buffer, event = .receive handle buffer) ∨
      ∀ handle buffer, event ≠ .receive handle buffer := by
  cases event with
  | receive handle buffer => exact .inl ⟨handle, buffer, rfl⟩
  | _ => exact .inr nofun

inductive Report where
  | received (outcome : Outcome)
  /-- The answer to a payload, and the buffer that it was to be laid out in. -/
  | originated (answer : Except OperationError Unit) (buffer : Buffer)
  | changed

/-- An event of a run, with the host before and after it. -/
structure Moment where
  before : Host
  event : Event
  report : Report
  after : Host

namespace Router

theorem reseed_frame (r : Router) (seed : BitVec 64) :
    ∃ generator, r.reseed seed = { r with generator } := ⟨_, rfl⟩

theorem addLink_frame (r : Router) (device : DeviceId) (configuration : Configuration)
    (type : StationType) (country : UInt16) : ∃ links generator,
      (r.addLink device configuration type country).2 = { r with links, generator } := by
  unfold addLink
  cases configuration.address r.generator type country with | mk address generator
  cases address with
  | error reason => exact ⟨r.links, generator, rfl⟩
  | ok address =>
    dsimp only
    cases r.links.bind device address with
    | error reason => exact ⟨r.links, generator, rfl⟩
    | ok links => exact ⟨links, generator, rfl⟩

/-- The table behind an event, if that is no reception. -/
def tableAfter (r : Router) : Event → LocationTable
  | .poll now => (r.poll now).2.locations
  | .add address => r.locations.entered address
  | .remove mid => r.locations.without mid
  | _ => r.locations

end Router

namespace Host

def changed (host : Host) (router : Router) : Report × Host := (.changed, { host with router })

section Steps

variable {D : Type} [LT D] [LE D] [DecidableLT D] [DecidableLE D] (distance : Point → Point → D)

def step (host : Host) : Event → Except Fault (Report × Host)
  | .receive handle buffer => do
    let reception ← Router.receive distance (host.workplace handle buffer)
    return (.received reception.outcome, ofWorkplace reception.place)
  | .originate handle request payload buffer => do
    let (answer, place) ← host.router.originate distance ⟨host.address, handle⟩
      { request with payload := payload.length } payload buffer
    return (.originated answer place.buffer, ofWorkplace place)
  | .poll now => return host.changed (host.router.poll now).2
  | .addLink device configuration type country =>
    return host.changed (host.router.addLink device configuration type country).2
  | .add address =>
    match host.router.locations.add address with
    | .ok locations => return host.changed { host.router with locations }
    | .error _ => return host.changed host.router
  | .remove mid =>
    match host.router.locations.remove mid with
    | .ok (_, locations) => return host.changed { host.router with locations }
    | .error _ => return host.changed host.router
  | .configure setting value =>
    match host.router.settings.set setting value with
    | .ok settings => return host.changed { host.router with settings }
    | .error _ => return host.changed host.router
  | .manage management => return host.changed { host.router with management }
  | .reseed seed => return host.changed (host.router.reseed seed)

def run (host : Host) : List Event → Except Fault (List Moment)
  | [] => .ok []
  | event :: rest => do
    let (report, after) ← host.step distance event
    return ⟨host, event, report, after⟩ :: (← after.run rest)

theorem step_receive (host : Host) (handle : Handle) (buffer : Buffer) :
    host.step distance (.receive handle buffer) =
      .ok (.received (Router.reception distance (host.workplace handle buffer)).outcome,
        ofWorkplace (Router.reception distance (host.workplace handle buffer)).place) := by
  rw [step, Router.receive_eq]
  rfl

theorem step_answers (host : Host) (event : Event) :
    ∃ report after, host.step distance event = .ok (report, after) := by
  cases event with
  | receive handle buffer => exact ⟨_, _, step_receive distance host handle buffer⟩
  | originate handle request payload buffer =>
    obtain ⟨answer, place, sequence, sent, -⟩ := host.router.originate_frame distance
      { request with payload := payload.length } ⟨host.address, handle⟩ payload buffer rfl
    rw [step, sent]
    exact ⟨_, _, rfl⟩
  | add address =>
    rw [step]
    cases host.router.locations.add address <;> exact ⟨_, _, rfl⟩
  | remove mid =>
    rw [step]
    cases host.router.locations.remove mid <;> exact ⟨_, _, rfl⟩
  | configure setting value =>
    rw [step]
    cases host.router.settings.set setting value <;> exact ⟨_, _, rfl⟩
  | poll | addLink | manage | reseed => exact ⟨_, _, rfl⟩

theorem locations_step {host after : Host} {event : Event} {report : Report}
    (stepped : host.step distance event = .ok (report, after))
    (inside : ∀ handle buffer, event ≠ .receive handle buffer) :
    after.router.locations = host.router.tableAfter event := by
  cases event with
  | receive handle buffer => exact absurd rfl (inside handle buffer)
  | originate handle request payload buffer =>
    obtain ⟨answer, place, sequence, sent, frame⟩ := host.router.originate_frame distance
      { request with payload := payload.length } ⟨host.address, handle⟩ payload buffer rfl
    rw [step, sent] at stepped
    obtain ⟨-, rfl⟩ := Prod.mk.inj (Except.ok.inj stepped)
    show place.router.locations = host.router.locations
    rw [frame]
  | addLink device configuration type country =>
    obtain ⟨links, generator, frame⟩ :=
      host.router.addLink_frame device configuration type country
    rw [step, frame] at stepped
    obtain ⟨-, rfl⟩ := Prod.mk.inj (Except.ok.inj stepped)
    rfl
  | add address =>
    rw [step] at stepped
    rw [Router.tableAfter, LocationTable.entered]
    cases added : host.router.locations.add address with
    | ok locations | error reason =>
      rw [added] at stepped
      obtain ⟨-, rfl⟩ := Prod.mk.inj (Except.ok.inj stepped)
      rfl
  | remove mid =>
    rw [step] at stepped
    rw [Router.tableAfter, LocationTable.without]
    cases removed : host.router.locations.remove mid with
    | ok rest | error reason =>
      rw [removed] at stepped
      obtain ⟨-, rfl⟩ := Prod.mk.inj (Except.ok.inj stepped)
      rfl
  | configure setting value =>
    rw [step] at stepped
    split at stepped <;> obtain ⟨-, rfl⟩ := Prod.mk.inj (Except.ok.inj stepped) <;> rfl
  | poll | manage | reseed =>
    obtain ⟨-, rfl⟩ := Prod.mk.inj (Except.ok.inj stepped)
    rfl

/-- What does not come from another station lets an entry be, unless it takes it out. -/
theorem find?_step {host after : Host} {event : Event} {report : Report}
    (stepped : host.step distance event = .ok (report, after))
    (inside : ∀ handle buffer, event ≠ .receive handle buffer) {mid : Mid} {entry : Entry}
    (found : host.router.locations.find? mid = some entry) (kept : event ≠ .remove mid)
    (spared : ∀ now, event = .poll now →
      (host.router.poll now).2.locations.find? mid = some entry) :
    after.router.locations.find? mid = some entry := by
  rw [locations_step distance stepped inside]
  cases event with
  | poll now => exact spared now rfl
  | add address => exact LocationTable.find?_entered_of_found found
  | remove other =>
    have differ : mid ≠ other := fun same => kept (congrArg Event.remove same.symm)
    exact (LocationTable.find?_without_other differ).trans found
  | _ => exact found

/-- What is neither received nor sent concerns neither the number nor the counters. -/
theorem step_frame {host after : Host} {event : Event} {report : Report}
    (stepped : host.step distance event = .ok (report, after))
    (inside : ∀ handle buffer, event ≠ .receive handle buffer) (silent : event.originates = false) :
    report = .changed ∧ ∃ locations links settings generator management sweep sweepTicket,
      after.router = { host.router with
        locations, links, settings, generator, management, sweep, sweepTicket } := by
  cases event with
  | receive handle buffer => exact absurd rfl (inside handle buffer)
  | originate handle request payload buffer => cases silent
  | poll now =>
    obtain ⟨locations, sweep, sweepTicket, frame⟩ := host.router.poll_frame now
    rw [step, frame] at stepped
    obtain ⟨rfl, rfl⟩ := Prod.mk.inj (Except.ok.inj stepped)
    exact ⟨rfl, _, _, _, _, _, _, _, rfl⟩
  | addLink device configuration type country =>
    obtain ⟨links, generator, frame⟩ :=
      host.router.addLink_frame device configuration type country
    rw [step, frame] at stepped
    obtain ⟨rfl, rfl⟩ := Prod.mk.inj (Except.ok.inj stepped)
    exact ⟨rfl, _, _, _, _, _, _, _, rfl⟩
  | add | remove | configure =>
    rw [step] at stepped
    split at stepped
    all_goals
      obtain ⟨rfl, rfl⟩ := Prod.mk.inj (Except.ok.inj stepped)
      exact ⟨rfl, _, _, _, _, _, _, _, rfl⟩
  | manage management =>
    obtain ⟨rfl, rfl⟩ := Prod.mk.inj (Except.ok.inj stepped)
    exact ⟨rfl, _, _, _, _, _, _, _, rfl⟩
  | reseed seed =>
    obtain ⟨generator, frame⟩ := host.router.reseed_frame seed
    rw [step, frame] at stepped
    obtain ⟨rfl, rfl⟩ := Prod.mk.inj (Except.ok.inj stepped)
    exact ⟨rfl, _, _, _, _, _, _, _, rfl⟩

/-- Nothing but a packet of the router itself takes a number. -/
theorem sequence_step {host after : Host} {event : Event} {report : Report}
    (stepped : host.step distance event = .ok (report, after)) (silent : event.originates = false) :
    after.router.sequence = host.router.sequence := by
  rcases event.receive_or_inside with ⟨handle, buffer, rfl⟩ | inside
  · rw [step_receive] at stepped
    obtain ⟨-, rfl⟩ := Prod.mk.inj (Except.ok.inj stepped)
    exact Router.sequence_reception distance (host.workplace handle buffer)
  · obtain ⟨-, locations, links, settings, generator, management, sweep, sweepTicket, frame⟩ :=
      step_frame distance stepped inside silent
    rw [frame]

theorem run_answers (host : Host) (events : List Event) :
    ∃ history, host.run distance events = .ok history := by
  induction events generalizing host with
  | nil => exact ⟨[], rfl⟩
  | cons event rest ih =>
    obtain ⟨report, after, stepped⟩ := host.step_answers distance event
    obtain ⟨history, ran⟩ := ih after
    refine ⟨⟨host, event, report, after⟩ :: history, ?_⟩
    simp only [run, stepped, bind, Except.bind, ran]
    rfl

end Steps
end Host

section Moments

variable {D : Type} [LT D] [LE D] [DecidableLT D] [DecidableLE D] (distance : Point → Point → D)

def Moment.Follows (moment : Moment) : Prop :=
  moment.before.step distance moment.event = .ok (moment.report, moment.after)

/-- A run of at least one event starts with a step and goes on from there. -/
theorem Host.run_cons {host : Host} {event : Event} {rest : List Event} {history : List Moment}
    (ran : host.run distance (event :: rest) = .ok history) :
    ∃ report after later, Moment.Follows distance ⟨host, event, report, after⟩ ∧
      after.run distance rest = .ok later ∧
      history = ⟨host, event, report, after⟩ :: later := by
  obtain ⟨report, after, stepped⟩ := host.step_answers distance event
  obtain ⟨later, went⟩ := after.run_answers distance rest
  refine ⟨report, after, later, stepped, went, ?_⟩
  simp only [run, stepped, bind, Except.bind, went] at ran
  exact (Except.ok.inj ran).symm

end Moments
end GeoRouter
