import GeoRouter.Router.Receive
import GeoRouter.Proofs.Learning

/-!
# The decision on a fresh packet

Verdict and state after the decision, branch by branch: a collision changes links and generator but
neither table nor settings, learning changes the table alone, and the way on is chosen from the
table with the source in it.
-/

namespace GeoRouter

def NextHop.mac : NextHop → Mac
  | .neighbour mid => mid.mac
  | .broadcast | .buffer => .broadcast

/-- The causes for which a packet is dropped whose source was learned. -/
def Cause.followsLearning : Cause → Bool
  | .queue | .noTransport | .hopLimit | .noPosition | .noRoute => true
  | _ => false

namespace Router

/-! ### For this station -/

theorem resolveCollision_frame (r : Router) (mac : Mac) (source : Mid) :
    ∃ links generator regenerated, r.counters.regenerated ≤ regenerated ∧
      (r.resolveCollision mac source).1 =
        { r with links, generator, counters.regenerated := regenerated } := by
  simp only [resolveCollision, Mid.draw]
  split
  · split
    · exact ⟨r.links, _, r.counters.regenerated, Nat.le_refl _, rfl⟩
    · exact ⟨_, _, _, Nat.le_succ _, rfl⟩
  · exact ⟨r.links, r.generator, r.counters.regenerated, Nat.le_refl _, rfl⟩

theorem locations_resolveCollision (r : Router) (mac : Mac) (source : Mid) :
    (r.resolveCollision mac source).1.locations = r.locations := by
  obtain ⟨links, generator, regenerated, -, same⟩ := r.resolveCollision_frame mac source
  rw [same]

theorem learned_resolveCollision (r : Router) (mac : Mac) (source : Mid) (now : Instant)
    (h : Headers) : (r.resolveCollision mac source).1.learned now h = r.learned now h := by
  obtain ⟨links, generator, regenerated, -, same⟩ := r.resolveCollision_frame mac source
  simp only [same, learned, learn]
  cases (r.locations.add h.extended.source.address).bind
    (·.update h.extended.source.address.mid (sighting h)) <;> rfl

theorem decideLocal_eq (r : Router) (mac : Mac) (now : Instant) (h : Headers) :
    r.decideLocal mac now h =
      let resolved := r.resolveCollision mac h.origin
      if r.locations.HasRoom h.origin then
        (if h.next.transport?.isSome then .deliver else .drop .noTransport,
          { resolved.1 with locations := resolved.1.learned now h }, resolved.2)
      else (.drop .locationTableFull, resolved) := by
  have locations := locations_resolveCollision r mac h.origin
  unfold decideLocal
  rw [← Headers.origin]
  simp only [learn_eq, locations]
  by_cases room : r.locations.HasRoom h.origin
  · simp only [if_pos room]
    cases h.next.transport? <;> rfl
  · simp only [if_neg room]

/-! ### For another station -/

section Transit

variable {D : Type} [LT D] [LE D] [DecidableLT D] [DecidableLE D] (distance : Point → Point → D)

/-- A packet for another station is learned, unless its source is this one, and goes on. -/
theorem decideTransit_eq (r : Router) (now : Instant) (h : Headers) :
    r.decideTransit distance now h =
      if r.links.owns h.origin then (.drop .ownPacket, r)
      else if r.locations.HasRoom h.origin then
        (route distance { r with locations := r.learned now h } h,
          { r with locations := r.learned now h })
      else (.drop .locationTableFull, r) := by
  unfold decideTransit
  rw [← Headers.origin, learn_eq]
  by_cases room : r.locations.HasRoom h.origin
  · simp only [if_pos room]
  · simp only [if_neg room]

theorem route_of_neighbour {r : Router} {h : Headers} {own : LocalPosition} {mid : Mid}
    (position : r.management.position = some own) (greedy : r.settings.forwarding = .greedy)
    (chosen : r.locations.nextHop distance own.point h.extended.destination.point h.trafficClass =
      .neighbour mid) :
    r.route distance h = if h.remainingHops ≤ 1 then .drop .hopLimit else .forward mid.mac := by
  unfold route
  split
  · rfl
  · rw [position]
    simp only [greedy, chosen]
    rfl

theorem route_drops {r : Router} {h : Headers} {cause : Cause}
    (dropped : r.route distance h = .drop cause) : cause.followsLearning = true := by
  unfold route at dropped
  split at dropped
  · obtain rfl := Verdict.drop.inj dropped
    rfl
  split at dropped
  · obtain rfl := Verdict.drop.inj dropped
    rfl
  split at dropped
  · obtain rfl := Verdict.drop.inj dropped
    rfl
  split at dropped
  · cases dropped
  · cases dropped
  · obtain rfl := Verdict.drop.inj dropped
    rfl

theorem route_forwards {r : Router} {h : Headers} {nextHop : Mac}
    (forwards : r.route distance h = .forward nextHop) :
    1 < h.remainingHops ∧ ∃ own choice, r.management.position = some own ∧
      r.locations.nextHop distance own.point h.extended.destination.point h.trafficClass =
        choice ∧ choice ≠ .buffer ∧ choice.mac = nextHop := by
  unfold route at forwards
  split at forwards
  · cases forwards
  rename_i hops
  split at forwards
  · cases forwards
  rename_i own position
  split at forwards
  · cases forwards
  split at forwards
  · rename_i mid choice
    exact ⟨UInt8.not_le.mp hops, own, _, position, choice, nofun, Verdict.forward.inj forwards⟩
  · rename_i choice
    exact ⟨UInt8.not_le.mp hops, own, _, position, choice, nofun, Verdict.forward.inj forwards⟩
  · cases forwards

theorem decide_eq (r : Router) (mac : Mac) (now : Instant) (h : Headers) :
    r.decide distance mac now h =
      if r.links.owns h.target then r.decideLocal mac now h
      else ((r.decideTransit distance now h).1, (r.decideTransit distance now h).2, mac) := rfl

/-- A decision teaches the table the source of the packet, unless that is this station or there is
no room for it. -/
theorem locations_decide (r : Router) (mac : Mac) (now : Instant) (h : Headers) :
    (r.locations.HasRoom h.origin ∧
      (r.decide distance mac now h).2.1.locations = r.learned now h ∧
      ∀ cause, (r.decide distance mac now h).1 = .drop cause → cause.followsLearning = true) ∨
    ((r.decide distance mac now h).2.1.locations = r.locations ∧
      (r.decide distance mac now h).1 = .drop .ownPacket) ∨
    (¬ r.locations.HasRoom h.origin ∧
      (r.decide distance mac now h).2.1.locations = r.locations ∧
      (r.decide distance mac now h).1 = .drop .locationTableFull) := by
  rw [decide_eq]
  split
  · rw [decideLocal_eq]
    dsimp only
    split
    · rename_i room
      refine .inl ⟨room, learned_resolveCollision r mac h.origin now h, fun cause dropped => ?_⟩
      dsimp only at dropped
      split at dropped
      · cases dropped
      · obtain rfl := Verdict.drop.inj dropped
        rfl
    · rename_i crowded
      exact .inr (.inr ⟨crowded, locations_resolveCollision r mac h.origin, rfl⟩)
  · rw [decideTransit_eq]
    split
    · exact .inr (.inl ⟨rfl, rfl⟩)
    · split
      · rename_i room
        exact .inl ⟨room, rfl, fun cause dropped => route_drops distance dropped⟩
      · rename_i crowded
        exact .inr (.inr ⟨crowded, rfl, rfl⟩)

/-- But for the table a decision does what the collision does, if the packet is for this station,
and nothing otherwise. -/
theorem decide_resolves (r : Router) (mac : Mac) (now : Instant) (h : Headers) :
    ∃ locations, (r.decide distance mac now h).2 =
      let resolved := if r.links.owns h.target then r.resolveCollision mac h.origin else (r, mac)
      ({ resolved.1 with locations }, resolved.2) := by
  rw [decide_eq]
  split
  · rw [decideLocal_eq]
    dsimp only
    split <;> exact ⟨_, rfl⟩
  · rw [decideTransit_eq]
    split
    · exact ⟨_, rfl⟩
    · split <;> exact ⟨_, rfl⟩

/-- A decision concerns the table, the links and what goes with an address that is given up. -/
theorem decide_frame (r : Router) (mac : Mac) (now : Instant) (h : Headers) :
    ∃ locations links generator regenerated, r.counters.regenerated ≤ regenerated ∧
      (r.decide distance mac now h).2.1 =
        { r with locations, links, generator, counters.regenerated := regenerated } := by
  obtain ⟨locations, resolved⟩ := r.decide_resolves distance mac now h
  rw [resolved]
  split
  · obtain ⟨links, generator, regenerated, grown, same⟩ := r.resolveCollision_frame mac h.origin
    refine ⟨locations, links, generator, regenerated, grown, ?_⟩
    dsimp only
    rw [same]
  · exact ⟨locations, r.links, r.generator, _, Nat.le_refl _, rfl⟩

theorem decide_forwards {r : Router} {mac : Mac} {now : Instant} {h : Headers} {nextHop : Mac}
    (forwards : (r.decide distance mac now h).1 = .forward nextHop) :
    r.decide distance mac now h =
        (.forward nextHop, { r with locations := r.learned now h }, mac) ∧
      route distance { r with locations := r.learned now h } h = .forward nextHop := by
  rw [decide_eq] at forwards ⊢
  split at forwards
  · -- A packet for this station never goes on.
    rw [decideLocal_eq] at forwards
    dsimp only at forwards
    split at forwards
    · split at forwards <;> cases forwards
    · cases forwards
  · rename_i away
    rw [decideTransit_eq] at forwards ⊢
    split at forwards
    · cases forwards
    rename_i foreign
    split at forwards
    · rename_i room
      rw [if_neg away, if_neg foreign, if_pos room]
      exact ⟨by rw [forwards], forwards⟩
    · cases forwards

end Transit
end Router
end GeoRouter
