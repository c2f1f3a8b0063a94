import GeoRouter.Router.Originate
import GeoRouter.Proofs.Framing
import GeoRouter.Proofs.Freshness
import GeoRouter.Proofs.RoundTrip

/-!
# Packets of the router itself, octet by octet

Laying out a packet answers for every request and every buffer. A buffer that takes the length ends
up with the two headers in front and, once the payload is filled in, with nothing else.
-/

namespace GeoRouter

namespace Buffer

def withBytes (buffer : Buffer) (bytes : Bytes) : Buffer := { buffer with bytes }

end Buffer

/-! ### Packets behind both headers -/

section Laid

variable (buffer : Buffer) (header : FrameHeader) (h : Headers) (tail : Bytes)

/-- A packet in a buffer that holds its headers in front of other octets. -/
def Packet.laid : FramedPacket :=
  ⟨⟨buffer.withBytes (header.encode ++ (h.encode ++ tail)), header⟩, h⟩

theorem Packet.whole_laid : (laid buffer header h tail).whole = .ok (h.encode ++ tail) := by
  have long : FrameHeader.size ≤ (header.encode ++ (h.encode ++ tail)).length := by
    rw [List.length_append, FrameHeader.length_encode]
    exact Nat.le_add_right ..
  exact Frame.view_eq (laid buffer header h tail).inner long

variable {tail}

theorem Packet.payload_laid (size : tail.length = h.payloadLength.toNat) :
    (laid buffer header h tail).payload = .ok tail := by
  have inside : Headers.size + tail.length ≤ (h.encode ++ tail).length := by
    rw [List.length_append]
    exact Nat.le_refl _
  have slice := Bytes.slice_eq inside
  rw [List.drop_left' (by rfl), List.take_length] at slice
  simp only [payload, whole_laid, bind, Except.bind]
  rw [← slice, size]
  rfl

theorem Packet.fill_laid (size : tail.length = h.payloadLength.toNat) {data : Bytes}
    (same : data.length = tail.length) :
    (laid buffer header h tail).fill data = .ok (laid buffer header h data) := by
  have inside : FrameHeader.size + Headers.size + data.length ≤
      (laid buffer header h tail).buffer.bytes.length := by
    rw [same, Packet.buffer, laid, Buffer.withBytes, ← List.append_assoc, List.length_append]
    exact Nat.le_refl _
  have written := Bytes.splice_append_right (header.encode ++ h.encode) tail data
  rw [List.drop_eq_nil_of_le (Nat.le_of_eq same.symm), List.append_nil, List.append_assoc,
    List.append_assoc] at written
  unfold fill
  rw [payload_laid buffer header h size]
  simp only [bind, Except.bind, if_neg (not_not_intro same.symm),
    Frame.overwrite_eq (laid buffer header h tail).inner inside]
  exact congrArg (fun bytes => (.ok ⟨⟨buffer.withBytes bytes, header⟩, h⟩ :
    Except Fault FramedPacket)) written

end Laid

namespace Headers

abbrev framing (h : Headers) : FrameHeader :=
  ⟨h.extended.source.address.mac, .broadcast, .geoNetworking⟩

def frameLength (h : Headers) : Nat := FrameHeader.size + h.totalLength

theorem frameLength_lt (h : Headers) : h.frameLength < UInt64.size := by
  have inside : h.frameLength < FrameHeader.size + (size + UInt16.size) :=
    Nat.add_lt_add_left (Nat.add_lt_add_left h.payloadLength.toNat_lt _) _
  exact Nat.lt_trans inside (by decide)

end Headers

namespace Buffer

/-- What is left behind the headers of what the buffer held. -/
def remnant (buffer : Buffer) (h : Headers) : Bytes :=
  (buffer.bytes.resize h.frameLength).drop (FrameHeader.size + Headers.size)

theorem length_remnant (buffer : Buffer) (h : Headers) :
    (buffer.remnant h).length = h.payloadLength.toNat := by
  unfold remnant
  rw [List.length_drop, Bytes.length_resize, Headers.frameLength, Headers.totalLength]
  omega

end Buffer

theorem Packet.emit_eq (buffer : Buffer) (header : FrameHeader) (h : Headers) :
    Packet.emit ⟨(buffer.withBytes (buffer.bytes.resize h.frameLength)).stamp header.encode, header⟩
      h = .ok (laid buffer header h (buffer.remnant h)) := by
  have width : (buffer.bytes.resize h.frameLength).length =
      FrameHeader.size + (Headers.size + h.payloadLength.toNat) := Bytes.length_resize ..
  have stamped : (buffer.bytes.resize h.frameLength).splice 0 header.encode =
      header.encode ++ (buffer.bytes.resize h.frameLength).drop FrameHeader.size :=
    Bytes.splice_zero ..
  have written := Bytes.splice_append_right header.encode
    ((buffer.bytes.resize h.frameLength).drop FrameHeader.size) h.encode
  rw [← stamped, List.drop_drop] at written
  have inside : FrameHeader.size + 0 + h.encode.length ≤
      ((buffer.bytes.resize h.frameLength).splice 0 header.encode).length := by
    rw [Bytes.length_splice (by rw [width, FrameHeader.length_encode]; omega), width,
      Headers.length_encode]
    omega
  unfold emit
  rw [Frame.overwrite_eq _ inside]
  exact congrArg (fun bytes => (.ok ⟨⟨buffer.withBytes bytes, header⟩, h⟩ :
    Except Fault FramedPacket)) written

namespace Router

section Total

variable {D : Type} [LT D] [LE D] [DecidableLT D] [DecidableLE D] (distance : Point → Point → D)
variable (r : Router) (request : Request)

theorem headersFor_eq (mac : Mac) : r.headersFor distance request mac =
    if r.settings.maxPayload.toNat < request.payload then .error .badSize
    else if UInt16.size ≤ request.payload then .error .badSize
    else match r.unicastHeader distance request mac with
      | .error reason => .error reason
      | .ok extended =>
        if r.settings.maxHeaders.toNat < Headers.size then .error .badSize
        else .ok {
          lifetime := r.requestLifetime request
          remainingHops := request.maxHops.getD r.settings.defaultHopLimit
          next := request.next
          trafficClass := request.trafficClass
          mobile := r.settings.isMobile
          payloadLength := UInt16.ofNat request.payload
          maxHops := request.maxHops.getD r.settings.defaultHopLimit
          extended } := by
  simp only [headersFor, bind, Except.bind, throw, throwThe, MonadExceptOf.throw]
  split
  · rfl
  split
  · rfl
  cases r.unicastHeader distance request mac with
  | error reason => rfl
  | ok extended =>
    by_cases tight : r.settings.maxHeaders.toNat < Headers.size
    · simp only [if_pos tight]
    · simp only [if_neg tight]
      rfl

variable {r request} {mac : Mac} {h : Headers}

theorem headersFor_ok (made : r.headersFor distance request mac = .ok h) :
    ∃ extended, r.unicastHeader distance request mac = .ok extended ∧
      request.payload < UInt16.size ∧ h = {
        lifetime := r.requestLifetime request
        remainingHops := request.maxHops.getD r.settings.defaultHopLimit
        next := request.next
        trafficClass := request.trafficClass
        mobile := r.settings.isMobile
        payloadLength := UInt16.ofNat request.payload
        maxHops := request.maxHops.getD r.settings.defaultHopLimit
        extended } := by
  rw [headersFor_eq] at made
  split at made
  · cases made
  split at made
  · cases made
  rename_i narrow
  split at made
  · cases made
  rename_i extended found
  split at made
  · cases made
  exact ⟨extended, found, Nat.not_le.mp narrow, (Except.ok.inj made).symm⟩

theorem unicastHeader_ok {extended : GeoUnicast}
    (made : r.unicastHeader distance request mac = .ok extended) :
    ∃ source timestamp own entry, r.sourceAddress? mac = some source ∧
      r.management.timestamp = some timestamp ∧ r.management.position = some own ∧
      r.locations.find? request.destination.mid = some entry ∧ extended = {
        sequence := r.sequence
        source := own.vector source timestamp
        destination :=
          { entry.position.toShortPositionVector with address := entry.address } } := by
  simp only [unicastHeader, bind, Except.bind, throw, throwThe, MonadExceptOf.throw] at made
  split at made
  · rename_i source link
    split at made
    · rename_i timestamp clock
      split at made
      · rename_i own position
        split at made
        · rename_i entry found
          split at made
          · cases made
          · obtain rfl := Except.ok.inj made
            exact ⟨source, timestamp, own, entry, link, clock, position, found, rfl⟩
        · cases made
      · cases made
    · cases made
  · cases made

/-- What it takes to make the header: a link, time and position, and an entry of the destination
that need not wait for a next hop. -/
theorem unicastHeader_eq {source : Address} {timestamp : Timestamp} {own : LocalPosition}
    {entry : Entry} (link : r.sourceAddress? mac = some source)
    (clock : r.management.timestamp = some timestamp) (position : r.management.position = some own)
    (found : r.locations.find? request.destination.mid = some entry)
    (sendable : r.locations.nextHop distance own.point entry.position.point request.trafficClass ≠
      .buffer) :
    r.unicastHeader distance request mac = .ok {
      sequence := r.sequence
      source := own.vector source timestamp
      destination := { entry.position.toShortPositionVector with address := entry.address } } := by
  simp only [unicastHeader, link, clock, position, found]
  exact if_neg sendable

/-- What a router says of itself and of a request in the headers of a packet. -/
structure Makes (r : Router) (request : Request) (mac : Mac) (h : Headers) : Prop where
  payload : h.payloadLength.toNat = request.payload
  next : h.next = request.next
  hops : h.remainingHops = h.maxHops
  sequence : h.extended.sequence = r.sequence
  clock : r.management.timestamp = some h.extended.source.timestamp
  source : ∃ own, r.management.position = some own ∧
    r.sourceAddress? mac = some h.extended.source.address ∧
    h.extended.source = own.vector h.extended.source.address h.extended.source.timestamp
  target : h.target = request.destination.mid

theorem makes_of_headersFor (made : r.headersFor distance request mac = .ok h) :
    r.Makes request mac h := by
  obtain ⟨extended, found, narrow, rfl⟩ := headersFor_ok distance made
  obtain ⟨source, timestamp, own, entry, link, clock, position, known, rfl⟩ :=
    unicastHeader_ok distance found
  exact {
    payload := UInt16.toNat_ofNat_of_lt' narrow
    next := rfl
    hops := rfl
    sequence := rfl
    clock := clock
    source := ⟨own, position, link, rfl⟩
    target := LocationTable.mid_of_find? known }

variable (r request)

/-- Laying out a packet answers for every request and buffer, and takes a number if it succeeds. -/
theorem prepare_eq (mac : Mac) (buffer : Buffer) :
    r.prepare distance request mac buffer = .ok (match r.headersFor distance request mac with
      | .error reason => .error ⟨reason, buffer⟩
      | .ok h => if buffer.canTake h.frameLength then
          .ok ({ r with sequence := r.sequence.next }, .laid buffer h.framing h (buffer.remnant h))
        else .error ⟨.badSize, buffer⟩) := by
  unfold prepare
  cases r.headersFor distance request mac with
  | error reason => rfl
  | ok h =>
    have framed : FrameRequest.prepare ⟨h.framing, h.totalLength⟩ buffer =
        .ok (if buffer.canTake h.frameLength then
          .ok ⟨(buffer.withBytes (buffer.bytes.resize h.frameLength)).stamp h.framing.encode,
            h.framing⟩
          else .error ⟨.badSize, buffer⟩) :=
      FrameRequest.prepare_eq _ buffer rfl h.frameLength_lt
    simp only [bind, Except.bind, framed]
    by_cases taken : buffer.canTake h.frameLength
    · have emitted := Packet.emit_eq buffer h.framing h
      have enough : ¬ ((buffer.bytes.resize h.frameLength).drop FrameHeader.size).length <
          Headers.size := by
        rw [List.length_drop, Bytes.length_resize, Headers.frameLength, Headers.totalLength]
        omega
      simp only [if_pos taken, Buffer.view_stamp, Buffer.withBytes, if_neg enough]
      unfold Buffer.withBytes at emitted
      simp only [emitted]
      rfl
    · simp only [if_neg taken]
      rfl

theorem prepare_frame (mac : Mac) (buffer : Buffer) :
    (∃ refusal, r.prepare distance request mac buffer = .ok (.error refusal)) ∨
    ∃ packet, r.prepare distance request mac buffer =
      .ok (.ok ({ r with sequence := r.sequence.next }, packet)) := by
  rw [prepare_eq]
  cases r.headersFor distance request mac with
  | error reason => exact .inl ⟨_, rfl⟩
  | ok h =>
    by_cases taken : buffer.canTake h.frameLength
    · simp only [if_pos taken]
      exact .inr ⟨_, rfl⟩
    · simp only [if_neg taken]
      exact .inl ⟨_, rfl⟩

/-- A packet that was laid out stands in its buffer, and the next one has the next number. -/
theorem prepare_ok {r after : Router} {request : Request} {mac : Mac} {buffer : Buffer}
    {packet : FramedPacket} (prepared : r.prepare distance request mac buffer =
      .ok (.ok (after, packet))) :
    ∃ h, r.headersFor distance request mac = .ok h ∧ after.sequence = r.sequence.next ∧
      packet = .laid buffer h.framing h (buffer.remnant h) := by
  rw [prepare_eq] at prepared
  have answer := Except.ok.inj prepared
  split at answer
  · cases answer
  · rename_i h made
    split at answer
    · obtain ⟨rfl, rfl⟩ := Prod.mk.inj (Except.ok.inj answer)
      exact ⟨h, made, rfl, rfl⟩
    · cases answer

theorem originate_eq (adapter : Adapter) (payload : Bytes) (buffer : Buffer)
    (size : request.payload = payload.length) :
    r.originate distance adapter request payload buffer =
      .ok (match r.headersFor distance request adapter.address with
        | .error reason => (.error reason, ⟨r, adapter, buffer⟩)
        | .ok h => if buffer.canTake h.frameLength then
            let sent := send { r with sequence := r.sequence.next } adapter
            (sent.1, ⟨sent.2.2, sent.2.1, (Packet.laid buffer h.framing h payload).buffer⟩)
          else (.error .badSize, ⟨r, adapter, buffer⟩)) := by
  unfold originate
  rw [prepare_eq]
  cases made : r.headersFor distance request adapter.address with
  | error reason => rfl
  | ok h =>
    have same : payload.length = (buffer.remnant h).length := by
      rw [Buffer.length_remnant, (makes_of_headersFor distance made).payload, size]
    by_cases taken : buffer.canTake h.frameLength
    · simp only [bind, Except.bind, if_pos taken,
        Packet.fill_laid buffer h.framing h (buffer.length_remnant h) same]
      rfl
    · simp only [bind, Except.bind, if_neg taken]
      rfl

/-- A packet that was queued stands alone in its frame. -/
theorem originate_ok {r : Router} {adapter : Adapter} {request : Request} {payload : Bytes}
    {buffer : Buffer} {place : Workplace} (size : request.payload = payload.length)
    (sent : r.originate distance adapter request payload buffer = .ok (.ok (), place)) :
    ∃ h, r.Makes request adapter.address h ∧
      place.buffer.bytes = h.framing.encode ++ (h.encode ++ payload) := by
  rw [originate_eq distance r request adapter payload buffer size] at sent
  have answer := Except.ok.inj sent
  split at answer
  · cases answer
  rename_i h made
  split at answer
  · obtain ⟨-, rfl⟩ := Prod.mk.inj answer
    exact ⟨h, makes_of_headersFor distance made, rfl⟩
  · cases answer

theorem send_frame (adapter : Adapter) : (r.send adapter).2.2 =
    { r with counters.sent := r.counters.sent + if (r.send adapter).1.isOk then 1 else 0 } := by
  unfold send
  cases adapter.queue with | mk answer after
  cases answer <;> rfl

theorem sequence_originate {r : Router} {request : Request} {adapter : Adapter} {payload : Bytes}
    {buffer : Buffer} {answer : Except OperationError Unit} {place : Workplace}
    (sent : r.originate distance adapter request payload buffer = .ok (answer, place)) :
    (∃ after packet, r.prepare distance request adapter.address buffer =
      .ok (.ok (after, packet)) ∧ place.router.sequence = after.sequence) ∨
    (∃ refusal, r.prepare distance request adapter.address buffer = .ok (.error refusal)) ∧
      place.router.sequence = r.sequence := by
  unfold originate at sent
  cases prepared : r.prepare distance request adapter.address buffer with
  | error fault =>
    rw [prepared] at sent
    cases sent
  | ok answered =>
    rw [prepared] at sent
    cases answered with
    | error refusal =>
      obtain ⟨-, rfl⟩ := Prod.mk.inj (Except.ok.inj sent)
      exact .inr ⟨⟨refusal, rfl⟩, rfl⟩
    | ok made =>
      obtain ⟨after, packet⟩ := made
      refine .inl ⟨after, packet, rfl, ?_⟩
      simp only [bind, Except.bind] at sent
      split at sent
      · cases sent
      · obtain ⟨-, rfl⟩ := Prod.mk.inj (Except.ok.inj sent)
        rw [send_frame]

/-- Sending concerns the number and the count of packets that were queued. -/
theorem originate_frame (adapter : Adapter) (payload : Bytes) (buffer : Buffer)
    (size : request.payload = payload.length) : ∃ answer place sequence,
      r.originate distance adapter request payload buffer = .ok (answer, place) ∧
        place.router = { r with
          sequence
          counters.sent := r.counters.sent + if answer.isOk then 1 else 0 } := by
  have answered := originate_eq distance r request adapter payload buffer size
  cases made : r.headersFor distance request adapter.address with
  | error reason =>
    simp only [made] at answered
    exact ⟨_, _, r.sequence, answered, rfl⟩
  | ok h =>
    by_cases taken : buffer.canTake h.frameLength
    · simp only [made, if_pos taken] at answered
      exact ⟨_, _, r.sequence.next, answered, send_frame _ adapter⟩
    · simp only [made, if_neg taken] at answered
      exact ⟨_, _, r.sequence, answered, rfl⟩

end Total
end Router

namespace Parcel

variable {D : Type} [LT D] [LE D] [DecidableLT D] [DecidableLE D] (distance : Point → Point → D)

/-- Offering a buffer answers for every payload, whatever the request says of its length. -/
theorem offer_answers (request : Request) (payload : Bytes)
    (result : Option (Except OperationError Unit)) (place : Workplace) :
    ∃ after, Parcel.offer distance { ofRequest request payload with result } place = .ok after := by
  cases result with
  | some answer => exact ⟨_, rfl⟩
  | none =>
    unfold offer
    have answered := Router.originate_eq distance place.router
      { request with payload := payload.length } place.adapter payload place.buffer rfl
    simp only [ofRequest, bind, Except.bind, answered]
    exact ⟨_, rfl⟩

end Parcel
end GeoRouter
