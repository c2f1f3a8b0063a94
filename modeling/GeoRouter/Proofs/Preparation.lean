import GeoRouter.Proofs.Canonical
import GeoRouter.Proofs.Delivery
import GeoRouter.Proofs.DeviceOrder
import GeoRouter.Proofs.Residue

/-!
# When a packet is laid out, and how

What keeps a router from laying out a packet is looked for in one order, from the length of the
payload to the buffer at hand, and the first obstacle is the answer. Without any of them the packet
is laid out, and `Announces` is what its headers then tell whoever reads them.
-/

namespace GeoRouter

/-! ### The link that a packet goes out under -/

/-- The first link with the Ethernet address of the adapter, or else the first one of all. -/
inductive Links.Origin (links : Links) (mac : Mac) : Link → Prop where
  | own {earlier later : List Link} {link : Link}
    (split : links.toList = earlier ++ link :: later) (same : link.mid = .ofMac mac)
    (apart : ∀ other ∈ earlier, other.mid ≠ .ofMac mac) : Origin links mac link
  | first {later : List Link} {link : Link} (split : links.toList = link :: later)
    (foreign : ∀ other ∈ links.toList, other.mid ≠ .ofMac mac) : Origin links mac link

theorem Links.Origin.own_or_lowest {links : Links} {mac : Mac} {link : Link}
    (origin : links.Origin mac link) (ordered : links.Ordered) :
    link.mid = .ofMac mac ∨ ∀ other ∈ links.toList, link.device ≤ other.device := by
  cases origin with
  | own split same apart => exact .inl same
  | first split foreign =>
    unfold Ordered at ordered
    rw [split] at ordered ⊢
    obtain ⟨lowest, -⟩ := List.pairwise_cons.mp ordered
    refine .inr fun other member => ?_
    rcases List.mem_cons.mp member with rfl | later
    · exact UInt16.le_refl _
    · exact UInt16.le_of_lt (lowest other later)

theorem Lifetime.capped_eq (lifetime : Lifetime) (most : Duration) : lifetime.capped most =
    if lifetime.duration ≤ most then lifetime else .ofDuration most := by
  unfold capped
  split
  · rename_i long
    exact (if_neg (Nat.not_le.mpr long)).symm
  · rename_i within
    exact (if_pos (Nat.not_lt.mp within)).symm

namespace Router

theorem sourceAddress?_cases (r : Router) (mac : Mac) :
    r.links.toList = [] ∧ r.sourceAddress? mac = none ∨
    ∃ link, r.links.Origin mac link ∧ r.sourceAddress? mac = some link.address := by
  unfold sourceAddress?
  cases found : r.links.find? (.ofMac mac) with
  | some link =>
    obtain ⟨same, earlier, later, split, others⟩ := List.find?_eq_some_iff_append.mp found
    refine .inr ⟨link, .own split (of_decide_eq_true same) ?_, rfl⟩
    intro other member
    simpa using others other member
  | none =>
    have foreign : ∀ other ∈ r.links.toList, other.mid ≠ .ofMac mac := by
      simpa using List.find?_eq_none.mp found
    cases links : r.links.toList with
    | nil => exact .inl ⟨rfl, rfl⟩
    | cons link later => exact .inr ⟨link, .first links foreign, rfl⟩

section Obstacles

variable {D : Type} [LT D] [LE D] [DecidableLT D] [DecidableLE D] (distance : Point → Point → D)

/-! ### What stands against a packet

Each obstacle is whether it is there, and the answer if it is the first one. -/

/-- Towards the entry of the destination the packet would have to wait for a next hop. -/
def waits (r : Router) (request : Request) : Bool :=
  match r.management.position, r.locations.find? request.destination.mid with
  | some own, some entry =>
    r.locations.nextHop distance own.point entry.position.point request.trafficClass = .buffer
  | _, _ => false

def headerObstacles (r : Router) (request : Request) : List (Bool × OperationError) :=
  [(r.links.toList.isEmpty, .illegal),
    (r.management.time.isNone, .unavailable),
    (r.management.position.isNone, .unavailable),
    ((r.locations.find? request.destination.mid).isNone, .unreachable),
    (r.waits distance request, .unreachable)]

def roomObstacles (r : Router) (request : Request) (buffer : Buffer) :
    List (Bool × OperationError) :=
  [(r.settings.maxHeaders.toNat < 60, .badSize),
    (!buffer.canTake (74 + request.payload), .badSize)]

def obstacles (r : Router) (request : Request) (buffer : Buffer) : List (Bool × OperationError) :=
  (r.settings.maxPayload.toNat < request.payload, .badSize) ::
    (r.headerObstacles distance request ++ r.roomObstacles request buffer)

theorem lookup_obstacles {r : Router} {request : Request} (buffer : Buffer)
    (narrow : ¬ r.settings.maxPayload.toNat < request.payload) :
    (r.obstacles distance request buffer).lookup true =
      ((r.headerObstacles distance request).lookup true).or
        ((r.roomObstacles request buffer).lookup true) := by
  simp only [obstacles, decide_eq_false narrow]
  exact List.lookup_append

/-- The extended header is made unless something stands against it, in the order of the list. -/
theorem unicastHeader_cases (r : Router) (request : Request) (mac : Mac) :
    match (r.headerObstacles distance request).lookup true with
    | some cause => r.unicastHeader distance request mac = .error cause
    | none => ∃ link timestamp own entry, r.links.Origin mac link ∧
        r.management.timestamp = some timestamp ∧ r.management.position = some own ∧
        r.locations.find? request.destination.mid = some entry ∧
        r.unicastHeader distance request mac = .ok {
          sequence := r.sequence
          source := own.vector link.address timestamp
          destination :=
            { entry.position.toShortPositionVector with address := entry.address } } := by
  unfold headerObstacles
  -- What is known so far makes one more obstacle in front of the list disappear.
  rcases r.sourceAddress?_cases mac with ⟨unbound, source⟩ | ⟨link, origin, source⟩
  · simp only [unbound, unicastHeader, source]
    rfl
  have bound : r.links.toList.isEmpty = false := by
    cases origin with
    | own split | first split => simp [split]
  rcases clock : r.management.time with _ | millis
  · simp only [bound, clock, unicastHeader, source, Management.timestamp]
    rfl
  have timestamp : r.management.timestamp = some (.ofUnixMillis millis) := by
    rw [Management.timestamp, clock]
    rfl
  rcases position : r.management.position with _ | own
  · simp only [bound, position, unicastHeader, source, timestamp]
    rfl
  rcases found : r.locations.find? request.destination.mid with _ | entry
  · simp only [bound, position, found, unicastHeader, source, timestamp]
    rfl
  by_cases wait : r.locations.nextHop distance own.point entry.position.point
      request.trafficClass = .buffer
  · simp only [bound, position, found, waits, wait, unicastHeader, source, timestamp]
    exact if_pos wait
  · have made := unicastHeader_eq distance source timestamp position found wait
    simp only [bound, position, found, waits, wait]
    exact ⟨link, _, own, entry, origin, timestamp, rfl, rfl, made⟩

end Obstacles

/-! ### What the headers tell -/

/-- What a reader finds in a packet for a request that goes out under a link, at a time and from a
position, towards the entry of its destination. -/
structure Announces (r : Router) (request : Request) (link : Link) (timestamp : Timestamp)
    (own : LocalPosition) (entry : Entry) (h : Headers) : Prop where
  remainingHops : h.remainingHops = request.maxHops.getD r.settings.defaultHopLimit
  maxHops : h.maxHops = request.maxHops.getD r.settings.defaultHopLimit
  payload : h.payloadLength.toNat = request.payload
  next : request.next.code < 16 → h.next.code = request.next.code
  trafficClass : request.trafficClass.id < 64 → h.trafficClass = request.trafficClass
  mobile : h.mobile = r.settings.isMobile
  lifetime : h.lifetime =
    let wanted := request.lifetime.getD (.ofDuration r.settings.defaultPacketLifetime)
    if wanted.duration ≤ r.settings.maxPacketLifetime then wanted
      else .ofDuration r.settings.maxPacketLifetime
  sequence : h.extended.sequence = r.sequence
  source : h.extended.source = {
    address := link.address, timestamp, latitude := own.latitude, longitude := own.longitude,
    accurate := own.accurate, speed := own.speed % 0x8000, heading := own.heading }
  destination : h.extended.destination = {
    address := entry.address, timestamp := entry.position.timestamp,
    latitude := entry.position.latitude, longitude := entry.position.longitude }

/-- The headers of such a packet as they are made. -/
def headersOf (r : Router) (request : Request) (link : Link) (timestamp : Timestamp)
    (own : LocalPosition) (entry : Entry) : Headers where
  lifetime := r.requestLifetime request
  remainingHops := request.maxHops.getD r.settings.defaultHopLimit
  next := request.next
  trafficClass := request.trafficClass
  mobile := r.settings.isMobile
  payloadLength := UInt16.ofNat request.payload
  maxHops := request.maxHops.getD r.settings.defaultHopLimit
  extended := {
    sequence := r.sequence
    source := own.vector link.address timestamp
    destination := { entry.position.toShortPositionVector with address := entry.address } }

theorem announces_transmitted {r : Router} {request : Request} {link : Link}
    {timestamp : Timestamp} {own : LocalPosition} {entry : Entry}
    (narrow : request.payload < UInt16.size) : r.Announces request link timestamp own entry
      (r.headersOf request link timestamp own entry).transmitted where
  remainingHops := rfl
  maxHops := rfl
  payload := UInt16.toNat_ofNat_of_lt' narrow
  next small := by
    show (NextHeader.ofCode (request.next.code % 16)).code = request.next.code
    rw [NextHeader.code_ofCode, UInt8.mod_eq_of_lt small]
  trafficClass small := by
    have id : request.trafficClass.id % 64 = request.trafficClass.id := UInt8.mod_eq_of_lt small
    show { request.trafficClass with id := request.trafficClass.id % 64 } = request.trafficClass
    rw [id]
  mobile := rfl
  lifetime := Lifetime.capped_eq ..
  sequence := rfl
  source := own.transmitted_vector link.address timestamp
  destination := rfl

section Laid

variable {D : Type} [LT D] [LE D] [DecidableLT D] [DecidableLE D] (distance : Point → Point → D)

theorem encode_framing (h : Headers) : h.framing.encode =
    Mac.broadcast.octets ++ h.extended.source.address.mac.octets ++ [0x89, 0x47] := by
  have protocol : BigEndian.encode 2 EtherType.geoNetworking.code.toNat = [0x89, 0x47] := by decide
  rw [FrameHeader.encode, protocol]

theorem laid_reads {r : Router} {request : Request} {mac : Mac} {h : Headers}
    (made : r.headersFor distance request mac = .ok h) (buffer : Buffer) :
    let packet := Packet.laid buffer h.framing h (buffer.remnant h)
    packet.buffer.bytes.length = 74 + request.payload ∧
      packet.buffer.bytes.take 14 = h.framing.encode ∧
      Headers.parse (packet.buffer.bytes.drop 14) = .ok (.ok h.transmitted) := by
  intro packet
  have makes := makes_of_headersFor distance made
  have width : request.payload = (buffer.remnant h).length := by
    rw [Buffer.length_remnant, makes.payload]
  have bytes : packet.buffer.bytes = h.framing.encode ++ (h.encode ++ buffer.remnant h) := rfl
  obtain ⟨-, clear, headers, -⟩ := makes.read width bytes
  refine ⟨?_, ?_, ?_⟩
  · rw [bytes, List.length_append, List.length_append, FrameHeader.length_encode,
      Headers.length_encode, ← width]
    exact (Nat.add_assoc 14 60 request.payload).symm
  · rw [bytes]
    exact List.take_left' (FrameHeader.length_encode _)
  · have parsed := Headers.parse_eq (packet.buffer.bytes.drop FrameHeader.size)
    rw [clear] at parsed
    rw [← headers]
    exact parsed

theorem payload_small {r : Router} {request : Request}
    (narrow : ¬ r.settings.maxPayload.toNat < request.payload) : request.payload < UInt16.size :=
  Nat.lt_of_le_of_lt (Nat.not_lt.mp narrow) r.settings.maxPayload.toNat_lt

/-- Once its extended header is made, only the room for the headers can keep a packet from having
them. -/
theorem headersFor_of_made {r : Router} {request : Request} {mac : Mac} {link : Link}
    {timestamp : Timestamp} {own : LocalPosition} {entry : Entry}
    (narrow : ¬ r.settings.maxPayload.toNat < request.payload)
    (made : r.unicastHeader distance request mac =
      .ok (r.headersOf request link timestamp own entry).extended) :
    r.headersFor distance request mac = if r.settings.maxHeaders.toNat < 60 then .error .badSize
      else .ok (r.headersOf request link timestamp own entry) := by
  rw [headersFor_eq, if_neg narrow, if_neg (Nat.not_le.mpr (payload_small narrow)), made]
  rfl

theorem headersFor_of_refused {r : Router} {request : Request} {mac : Mac}
    {cause : OperationError} (narrow : ¬ r.settings.maxPayload.toNat < request.payload)
    (refused : r.unicastHeader distance request mac = .error cause) :
    r.headersFor distance request mac = .error cause := by
  rw [headersFor_eq, if_neg narrow, if_neg (Nat.not_le.mpr (payload_small narrow)), refused]

/-- With its extended header made, a packet is laid out unless there is no room for it. -/
theorem prepare_of_headersFor {r : Router} {request : Request} {mac : Mac} {h : Headers}
    (headers : r.headersFor distance request mac =
      if r.settings.maxHeaders.toNat < 60 then .error .badSize else .ok h) (buffer : Buffer) :
    match (r.roomObstacles request buffer).lookup true with
    | some cause => r.prepare distance request mac buffer = .ok (.error ⟨cause, buffer⟩)
    | none => r.headersFor distance request mac = .ok h ∧
        r.prepare distance request mac buffer = .ok (.ok
          ({ r with sequence := r.sequence.next },
            .laid buffer h.framing h (buffer.remnant h))) := by
  by_cases tight : r.settings.maxHeaders.toNat < 60
  · have first : (r.roomObstacles request buffer).lookup true = some .badSize := by
      simp only [roomObstacles, decide_eq_true tight]
      rfl
    rw [if_pos tight] at headers
    rw [first, prepare_eq, headers]
  rw [if_neg tight] at headers
  have length := Headers.frameLength_of_made distance headers
  by_cases taken : buffer.canTake (74 + request.payload)
  · have clear : (r.roomObstacles request buffer).lookup true = none := by
      simp only [roomObstacles, decide_eq_false tight, taken]
      rfl
    have room : buffer.canTake h.frameLength := by
      rw [length]
      exact taken
    rw [clear]
    refine ⟨headers, ?_⟩
    rw [prepare_eq, headers]
    exact congrArg Except.ok (if_pos room)
  · have last : (r.roomObstacles request buffer).lookup true = some .badSize := by
      simp only [roomObstacles, decide_eq_false tight, Bool.eq_false_iff.mpr taken]
      rfl
    have cramped : ¬ buffer.canTake h.frameLength := by
      rw [length]
      exact taken
    rw [last, prepare_eq, headers]
    exact congrArg Except.ok (if_neg cramped)

/-- The first obstacle in the way of a packet is the answer, and the buffer is given back. Without
one the packet is laid out, as long as its headers and its payload together, and tells what was
asked for and what the router knows. -/
theorem prepare_takes_first_obstacle (r : Router) (request : Request) (mac : Mac)
    (buffer : Buffer) :
    match (r.obstacles distance request buffer).lookup true with
    | some cause => r.prepare distance request mac buffer = .ok (.error ⟨cause, buffer⟩)
    | none => ∃ packet link timestamp own entry h,
        r.prepare distance request mac buffer =
          .ok (.ok ({ r with sequence := r.sequence.next }, packet)) ∧
        r.links.Origin mac link ∧
        (r.links.Ordered → link.mid = .ofMac mac ∨
          ∀ other ∈ r.links.toList, link.device ≤ other.device) ∧
        r.management.timestamp = some timestamp ∧ r.management.position = some own ∧
        r.locations.find? request.destination.mid = some entry ∧
        packet.buffer.bytes.length = 74 + request.payload ∧
        packet.buffer.bytes.take 14 =
          Mac.broadcast.octets ++ link.mid.mac.octets ++ [0x89, 0x47] ∧
        Headers.parse (packet.buffer.bytes.drop 14) = .ok (.ok h) ∧
        r.Announces request link timestamp own entry h := by
  by_cases large : r.settings.maxPayload.toNat < request.payload
  · have first : (r.obstacles distance request buffer).lookup true = some .badSize := by
      simp only [obstacles, decide_eq_true large]
      rfl
    rw [first, prepare_eq, headersFor_eq, if_pos large]
  have extended := r.unicastHeader_cases distance request mac
  rw [lookup_obstacles distance buffer large]
  cases first : (r.headerObstacles distance request).lookup true with
  | some cause =>
    rw [first] at extended
    have refused := headersFor_of_refused distance large extended
    rw [prepare_eq, refused]
    rfl
  | none =>
    rw [first] at extended
    obtain ⟨link, timestamp, own, entry, origin, clock, position, found, made⟩ := extended
    have headers := headersFor_of_made distance large made
    have laid := prepare_of_headersFor distance headers buffer
    rw [Option.none_or]
    cases room : (r.roomObstacles request buffer).lookup true with
    | some cause =>
      rw [room] at laid
      exact laid
    | none =>
      rw [room] at laid
      obtain ⟨headers, prepared⟩ := laid
      obtain ⟨width, front, parsed⟩ := laid_reads distance headers buffer
      rw [encode_framing] at front
      exact ⟨_, link, timestamp, own, entry, _, prepared, origin, origin.own_or_lowest, clock,
        position, found, width, front, parsed, announces_transmitted (payload_small large)⟩

end Laid

/-- Nothing stands against the packets of a station with a link, a clock and a position. -/
example :
    let destination : Address := Address.zero.withMid ⟨3⟩
    let r : Router := {
      locations := ⟨⟨[.ofAddress destination], []⟩⟩
      links := ⟨⟨[{ address := Address.zero.withMid ⟨2⟩ }], []⟩⟩
      management := { time := some 1072915200005, position := some ⟨1, 2, 3, 4, true⟩ } }
    (r.obstacles (fun _ _ => (0 : Nat)) (r.request destination .btpB 1) (.ofAllocated [])).lookup
      true = none := by
  rfl

end Router
end GeoRouter
