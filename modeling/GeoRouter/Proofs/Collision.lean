import GeoRouter.Proofs.Canonical
import GeoRouter.Proofs.Decision
import GeoRouter.Proofs.Framing

/-!
# Collisions of addresses

When another station sends with an identifier of this one, the first link that has it draws another,
and every other link keeps its own. The adapter follows if it had the Ethernet address of that
identifier, which says the same as the identifier.
-/

namespace GeoRouter

namespace Mid

theorem octets_mac (mid : Mid) : mid.mac.octets = BigEndian.encode 6 mid.toNat := rfl

theorem ofMac_mac (mid : Mid) : ofMac mid.mac = mid := by
  have bound : mid.toNat < 1 <<< (8 * 6) := mid.val.isLt
  rw [ofMac, octets_mac, BigEndian.decode_encode, Nat.mod_eq_of_lt bound, ofNat, toNat,
    BitVec.ofNat_toNat, BitVec.setWidth_eq]

theorem mac_ofMac (mac : Mac) : (ofMac mac).mac = mac := by
  have bound : BigEndian.decode mac.octets < 1 <<< 48 := BigEndian.decode_lt mac.octets
  have number : (ofMac mac).toNat = BigEndian.decode mac.octets := Nat.mod_eq_of_lt bound
  apply Mac.octets_injective
  rw [octets_mac, number]
  exact BigEndian.encode_decode rfl

theorem ofMac_eq_iff {mac : Mac} {mid : Mid} : ofMac mac = mid ↔ mac = mid.mac := by
  constructor
  · rintro rfl
    exact (mac_ofMac mac).symm
  · rintro rfl
    exact ofMac_mac mid

end Mid

/-! ### The link that gives way -/

/-- The first link with an identifier has a fresh one, and the others are what they were. -/
inductive Link.Renewed (mid fresh : Mid) : Link → List Link → List Link → Prop where
  | first {earlier later : List Link} {link : Link} (own : link.mid = mid)
    (apart : ∀ other ∈ earlier, other.mid ≠ mid) :
    Renewed mid fresh link (earlier ++ link :: later)
      (earlier ++ { link with address := link.address.withMid fresh } :: later)

namespace Links

theorem owns_iff {links : Links} {mid : Mid} :
    links.owns mid = true ↔ ∃ link ∈ links.toList, link.mid = mid := by
  simp [owns, find?]

theorem replaceMid_of_owned {links : Links} {mid : Mid} (owned : links.owns mid = true)
    (fresh : Mid) : ∃ link after, Link.Renewed mid fresh link links.toList after.toList ∧
      links.replaceMid mid fresh = some (link.address.withMid fresh, after) := by
  cases place : links.toList.findIdx? fun link => link.mid = mid with
  | none =>
    rw [List.findIdx?_eq_none_iff] at place
    obtain ⟨link, member, own⟩ := owns_iff.mp owned
    exact absurd own (of_decide_eq_false (place link member))
  | some index =>
    obtain ⟨earlier, link, later, split, own, first, found, changed⟩ :=
      SortedStore.modify_of_first place
    refine ⟨link, ⟨links.store.modify index fun other =>
      { other with address := link.address.withMid fresh }⟩, ?_, ?_⟩
    · show Link.Renewed mid fresh link links.toList (links.toList.modify index _)
      rw [changed, split]
      refine .first (of_decide_eq_true own) fun other member => ?_
      exact of_decide_eq_false (first other member)
    · have here : links.find? mid = some link := found
      simp only [replaceMid, place, here]

theorem replaceMid_of_foreign {links : Links} {mid : Mid} (foreign : links.owns mid = false)
    (fresh : Mid) : links.replaceMid mid fresh = none := by
  have unused : links.find? mid = none := by simpa [owns] using foreign
  rw [replaceMid, unused]
  cases links.toList.findIdx? fun link => link.mid = mid <;> rfl

theorem capacity_replaceMid {links after : Links} {mid fresh : Mid} {address : Address}
    (replaced : links.replaceMid mid fresh = some (address, after)) :
    after.store.capacity = links.store.capacity := by
  unfold replaceMid at replaced
  split at replaced
  · obtain ⟨-, rfl⟩ := Prod.mk.inj (Option.some.inj replaced)
    simp only [SortedStore.capacity, SortedStore.modify, List.length_modify]
  · cases replaced

end Links

namespace Router

theorem resolveCollision_of_foreign {r : Router} {source : Mid}
    (foreign : r.links.owns source = false) (mac : Mac) :
    r.resolveCollision mac source = (r, mac) := by
  rw [resolveCollision, foreign]
  rfl

/-- The address of one link is given up, and the adapter moves if it had that address. -/
theorem resolveCollision_of_owned {r : Router} {source : Mid} (owned : r.links.owns source = true)
    (mac : Mac) : ∃ link links,
      Link.Renewed source (Mid.draw r.generator).1 link r.links.toList links.toList ∧
      r.resolveCollision mac source =
        ({ r with
            generator := (Mid.draw r.generator).2
            links
            counters.regenerated := r.counters.regenerated + 1 },
          if mac = source.mac then (Mid.draw r.generator).1.mac else mac) := by
  obtain ⟨link, after, renewed, replaced⟩ :=
    Links.replaceMid_of_owned owned (Mid.draw r.generator).1
  refine ⟨link, after, renewed, ?_⟩
  simp only [resolveCollision, owned, if_true, replaced, Mid.ofMac_eq_iff]
  rfl

/-- Of a decision, nothing but a collision concerns the links and the adapter. -/
theorem links_decide {D : Type} [LT D] [LE D] [DecidableLT D] [DecidableLE D]
    (distance : Point → Point → D) (r : Router) (mac : Mac) (now : Instant) (h : Headers) :
    ((r.decide distance mac now h).2.1.links, (r.decide distance mac now h).2.2) =
      if r.links.owns h.target then
        ((r.resolveCollision mac h.origin).1.links, (r.resolveCollision mac h.origin).2)
      else (r.links, mac) := by
  obtain ⟨locations, resolved⟩ := r.decide_resolves distance mac now h
  rw [resolved]
  split <;> rfl

end Router
end GeoRouter
