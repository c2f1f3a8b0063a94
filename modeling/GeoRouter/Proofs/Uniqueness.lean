import GeoRouter.Proofs.Renewal

/-!
# How far a collision is resolved

A fresh packet for this station that bears an identifier of this station makes one link give way,
and the number that is drawn for it is not compared with the identifier it had. So the identifier is
left to the other station just if one link had it and something else was drawn: links that share an
identifier go on sharing it with the sender, all but one.
-/

namespace GeoRouter

/-- How many links have an identifier. -/
def Links.sharing (links : Links) (mid : Mid) : Nat :=
  links.toList.countP fun link => link.mid = mid

theorem Links.owns_eq_false_iff {links : Links} {mid : Mid} :
    links.owns mid = false ↔ links.sharing mid = 0 := by
  rw [← Bool.not_eq_true, owns_iff, sharing, List.countP_eq_zero]
  simp

theorem Link.Renewed.sharing {mid fresh : Mid} {link : Link} {before after : Links}
    (renewed : Link.Renewed mid fresh link before.toList after.toList) :
    after.sharing mid + 1 = before.sharing mid + if fresh = mid then 1 else 0 := by
  unfold Links.sharing
  generalize before.toList = old at renewed
  generalize after.toList = new at renewed
  cases renewed with
  | first own =>
    have drawn : ({ link with address := link.address.withMid fresh } : Link).mid = fresh := rfl
    rw [List.countP_append, List.countP_append, List.countP_cons, List.countP_cons,
      if_pos (decide_eq_true own), drawn]
    simp only [decide_eq_true_eq]
    omega

theorem Naming.sharing_yielded (n : Naming) (mid : Mid) :
    (n.yielded mid).links.sharing mid =
      if n.links.sharing mid = 0 then 0
      else n.links.sharing mid - if (Mid.draw n.generator).1 = mid then 0 else 1 := by
  cases owned : n.links.owns mid with
  | false =>
    have none := Links.owns_eq_false_iff.mp owned
    rw [yielded_of_foreign owned, if_pos none]
    exact none
  | true =>
    obtain ⟨link, links, renewed, yielded⟩ := yielded_of_owned owned
    have some : n.links.sharing mid ≠ 0 := fun none => by
      rw [Links.owns_eq_false_iff.mpr none] at owned
      cases owned
    have count := renewed.sharing
    rw [yielded, if_neg some]
    dsimp only
    -- What is drawn may be the very identifier that was given up.
    split at count <;> rename_i drawn
    · rw [if_pos drawn]
      omega
    · rw [if_neg drawn]
      omega

namespace Router

section Reception

variable {D : Type} [LT D] [LE D] [DecidableLT D] [DecidableLE D] (distance : Point → Point → D)

theorem sharing_reception {place : Workplace}
    (admitted : Admitted place.adapter.address place.buffer.bytes)
    (clear : Headers.objection? (place.buffer.bytes.drop FrameHeader.size) = none)
    (fresh : (place.router.poll place.adapter.time).2.locations.knows
      place.buffer.packet.headers.origin place.buffer.packet.headers.stamp = false)
    (owned : place.router.links.owns place.buffer.packet.headers.target = true) :
    let source := place.buffer.packet.headers.origin
    (reception distance place).place.router.links.sharing source =
      if place.router.links.sharing source = 0 then 0
      else place.router.links.sharing source -
        if (Mid.draw place.router.generator).1 = source then 0 else 1 := by
  have yielded := naming_of_fresh distance admitted clear fresh
  rw [if_pos owned] at yielded
  have left := place.router.naming.sharing_yielded place.buffer.packet.headers.origin
  rw [← yielded] at left
  exact left

/-- After a fresh packet for this station none of its links has the identifier of the sender just if
none had it before, or one had it and something else was drawn for that. -/
theorem collision_resolved_iff {place : Workplace}
    (admitted : Admitted place.adapter.address place.buffer.bytes)
    (clear : Headers.objection? (place.buffer.bytes.drop FrameHeader.size) = none)
    (fresh : (place.router.poll place.adapter.time).2.locations.knows
      place.buffer.packet.headers.origin place.buffer.packet.headers.stamp = false)
    (owned : place.router.links.owns place.buffer.packet.headers.target = true) :
    let source := place.buffer.packet.headers.origin
    ∃ reception, receive distance place = .ok reception ∧
      ((∀ link ∈ reception.place.router.links.toList, link.mid ≠ source) ↔
        place.router.links.sharing source = 0 ∨
          place.router.links.sharing source = 1 ∧
            (Mid.draw place.router.generator).1 ≠ source) := by
  have left := sharing_reception distance admitted clear fresh owned
  dsimp only at left ⊢
  refine ⟨reception distance place, receive_eq distance place, ?_⟩
  generalize place.buffer.packet.headers.origin = source at left ⊢
  have gone : (∀ link ∈ (reception distance place).place.router.links.toList, link.mid ≠ source) ↔
      (reception distance place).place.router.links.sharing source = 0 := by
    simp [Links.sharing, List.countP_eq_zero]
  rw [gone, left]
  split
  · rename_i none
    exact iff_of_true rfl (.inl none)
  · rename_i some
    split <;> rename_i drawn
    · refine iff_of_false some ?_
      rintro (none | ⟨-, other⟩)
      · exact some none
      · exact other drawn
    · constructor
      · intro one
        exact .inr ⟨by omega, drawn⟩
      · rintro (none | ⟨one, -⟩)
        · exact absurd none some
        · omega

end Reception

/-- A station with links that all have the address of its adapter, and a packet that comes from
there as well. -/
def mirrored (devices : List DeviceId) : Workplace :=
  let own : Mac := ⟨2, 0, 0, 0, 0, 1⟩
  { router := {
      locations := .ofCapacity 1
      links := ⟨⟨devices.map fun device => ⟨device, Address.zero.withMid (.ofMac own)⟩, []⟩⟩ }
    adapter := ⟨own, .ofTime ⟨0⟩⟩
    buffer := emptyFrame own (.ofMac own) ⟨⟨7⟩, ⟨1⟩⟩ }

theorem collision_resolved_iff_of_single : ∃ reception,
    receive (fun _ _ => (0 : Nat)) (mirrored [0]) = .ok reception ∧
      ∀ link ∈ reception.place.router.links.toList,
        link.mid ≠ (mirrored [0]).buffer.packet.headers.origin := by
  obtain ⟨reception, received, resolved⟩ := collision_resolved_iff (fun _ _ => (0 : Nat))
    (show Admitted (mirrored [0]).adapter.address (mirrored [0]).buffer.bytes by decide +kernel)
    (by decide +kernel) (by decide +kernel) (by decide +kernel)
  exact ⟨reception, received, resolved.mpr (.inr (by decide +kernel))⟩

/-- Of two links with one identifier the second keeps it, although the sender has it too. -/
theorem collision_left_of_shared :
    ¬ ∀ place : Workplace, Admitted place.adapter.address place.buffer.bytes →
      Headers.objection? (place.buffer.bytes.drop FrameHeader.size) = none →
      (place.router.poll place.adapter.time).2.locations.knows place.buffer.packet.headers.origin
        place.buffer.packet.headers.stamp = false →
      place.router.links.owns place.buffer.packet.headers.target = true →
      ∃ reception, receive (fun _ _ => (0 : Nat)) place = .ok reception ∧
        ∀ link ∈ reception.place.router.links.toList,
          link.mid ≠ place.buffer.packet.headers.origin := by
  intro resolved
  obtain ⟨reception, received, gone⟩ := resolved (mirrored [0, 1]) (by decide +kernel)
    (by decide +kernel) (by decide +kernel) (by decide +kernel)
  have kept : (receive (fun _ _ => (0 : Nat)) (mirrored [0, 1])).toOption.map (fun reception =>
      reception.place.router.links.toList.any fun link =>
        link.mid = (mirrored [0, 1]).buffer.packet.headers.origin) = some true := by
    decide +kernel
  rw [received] at kept
  obtain ⟨link, member, same⟩ := List.any_eq_true.mp (Option.some.inj kept)
  exact gone link member (of_decide_eq_true same)

end Router
end GeoRouter
