import SentinelEdge.Mqtt.Feed
import SentinelEdge.Mqtt.Format

/-!
# What the client makes of the packets of a server

`SentinelEdge.Mqtt.Parser.gets_packets`: the handlers of the client are told what the server
meant, packet by packet, and the payload of a message comes in order and whole.

The object for a PUBLISH counts the bytes of its header in a `uint8_t`. So a topic must not
be longer than that allows, and there is a smallest length, too: without an identifier the
end of the header is only noticed at the last byte of the topic. With an identifier the
message must not be empty, since the object of an empty one counts a byte after it has been
freed (`SentinelEdge.Mqtt.Message.Readable`). A message whose topic is longer than
`maxTopicLength` is left out.
-/

namespace SentinelEdge

namespace Mqtt

/-! ### The packets of a server -/

/-- What a server can say. -/
inductive ServerPacket where
  /-- CONNACK. -/
  | connAck (sessionPresent : Bool) (connectReturnCode : UInt8)
  /-- PINGRESP. -/
  | pingResp
  /-- PUBACK, PUBREC, PUBREL or PUBCOMP. -/
  | ack (a : Ack) (packetId : UInt16)
  /-- SUBACK, for one topic. -/
  | subAck (packetId : UInt16) (status : UInt8)
  /-- UNSUBACK. -/
  | unsubAck (packetId : UInt16)
  /-- PUBLISH. -/
  | publish (m : Message) (h : m.Valid) (packetId : UInt16) (dup : Bool)

/-- The header of a PUBLISH is not too long to be counted, and not too short to be noticed;
and it is not all there is if the message has an identifier. -/
def Message.Readable (m : Message) : Prop :=
  if m.qos = 0 then 1 ≤ m.topic.length ∧ m.topic.length ≤ 254
  else m.topic.length ≤ 252 ∧ m.content ≠ []

namespace ServerPacket

/-- The frame of a packet. -/
def frame : ServerPacket → Frame
  | connAck sessionPresent connectReturnCode =>
    ⟨0x20, [if sessionPresent then 1 else 0, connectReturnCode], Frame.short_of_le (Nat.le_succ 2)⟩
  | pingResp => ⟨0xD0, [], Frame.short_of_le (Nat.zero_le 3)⟩
  | ack a packetId => a.frame packetId
  | subAck packetId status =>
    ⟨0x90, twoBytes packetId ++ [status], Frame.short_of_le (Nat.le_refl 3)⟩
  | unsubAck packetId => ⟨0xB0, twoBytes packetId, Frame.short_of_le (Nat.le_succ 2)⟩
  | publish m h packetId dup => m.frame h packetId dup

/-- The client can read the packet. -/
def Readable : ServerPacket → Prop
  | publish m _ _ _ => m.Readable
  | _ => True

/-- What the client should be told. -/
def events (maxTopicLength : UInt16) : ServerPacket → List Event
  | connAck sessionPresent connectReturnCode => [.connAck sessionPresent connectReturnCode]
  | pingResp => [.pingResp]
  | ack a packetId => [.ack a packetId]
  | subAck packetId status => [.subAck packetId status]
  | unsubAck packetId => [.unsubAck packetId]
  | publish m _ packetId dup =>
    let packetId := if m.qos = 0 then 0 else packetId
    if maxTopicLength.toNat < m.topic.length then []
    else
      [.message ⟨m.topic, m.content, m.qos, dup, m.retain, 0, UInt32.ofNat m.content.length,
          packetId⟩,
        .publish packetId m.qos]

end ServerPacket

namespace Parser

/-- Between two packets. -/
structure Between (p : Parser) : Prop where
  state : p.bufferState = .none
  digits : p.lengthBuffer = []

variable {p p' : Parser} {q : PublishPacket} {b : UInt8} {bs : List UInt8} {es : List Event}

theorem step_of_none (h : p.bufferState = .none) (b : UInt8) (rest : List UInt8) :
    p.step b rest = .ok ((p.firstByte b).1, (p.firstByte b).2, rest) := by
  rw [step, h]

theorem step_of_remainingLength (h : p.bufferState = .remainingLength) (b : UInt8)
    (rest : List UInt8) : p.step b rest = (p.lengthByte b).map fun r => (r.1, r.2, rest) := by
  rw [step, h]

theorem step_of_variableHeader (h : p.bufferState = .variableHeader) (b : UInt8)
    (rest : List UInt8) : p.step b rest = (p.headerByte b).map fun r => (r.1, r.2, rest) := by
  rw [step, h]

/-- A byte that is not in a payload. -/
theorem reads_one (hstate : p.bufferState ≠ .payload) (h : p.step b [] = .ok (p', es, [])) :
    Reads p [b] es p' := by
  have hread : Reads p [b] (es ++ []) p' := .cons (fun q hq => absurd hq hstate) h (.nil p')
  rwa [List.append_nil] at hread

/-! ### The fixed header -/

theorem shiftRight_seven_iff (b : UInt8) : b >>> 7 = 0 ↔ b.toNat < 128 := by
  have h : ∀ n : Fin 256, UInt8.ofNat n.val >>> 7 = 0 ↔ n.val < 128 := by decide +kernel
  have hb := h ⟨b.toNat, b.toNat_lt⟩
  rwa [UInt8.ofNat_toNat] at hb

/-- The digits of a length, with those in front that have been read. -/
theorem reads_digits (hstate : p.bufferState = .remainingLength) {N : UInt32} (hN : 0 < N) (n : ℕ)
    (digits : List UInt8) (hdigits : p.lengthBuffer = digits)
    (hshort : digits.length + (VarInt.encode n).length ≤ 4)
    (hdecode : decodeRemainingLength (digits ++ VarInt.encode n) = N) :
    Reads p (VarInt.encode n) []
      { p with bufferState := .variableHeader, remainingLength := N, lengthBuffer := [] } := by
  have hpay : p.bufferState ≠ .payload := by
    rw [hstate]
    intro h
    cases h
  induction n using Nat.strongRecOn generalizing p digits with
  | ind n ih =>
    have hpos := VarInt.length_encode_pos n
    have hfour : ¬p.lengthBuffer.length = 4 := by
      rw [hdigits]
      omega
    rcases Nat.lt_or_ge n 128 with hlt | hge
    · -- the last digit
      rw [VarInt.encode_of_lt hlt] at hdecode ⊢
      have hlast : UInt8.ofNat n >>> 7 = 0 := by
        rw [shiftRight_seven_iff, UInt8.toNat_ofNat']
        omega
      refine reads_one hpay ?_
      rw [step_of_remainingLength hstate, lengthByte, if_neg hfour]
      simp only
      rw [if_pos hlast, hdigits, hdecode, if_pos hN]
      rfl
    · -- there are more
      rw [VarInt.encode_of_le hge] at hdecode hshort ⊢
      have hmore : ¬UInt8.ofNat (n % 128 + 128) >>> 7 = 0 := by
        rw [shiftRight_seven_iff, UInt8.toNat_ofNat']
        omega
      have hstep : p.step (UInt8.ofNat (n % 128 + 128)) [] =
          .ok ({ p with lengthBuffer := digits ++ [UInt8.ofNat (n % 128 + 128)] }, [], []) := by
        rw [step_of_remainingLength hstate, lengthByte, if_neg hfour]
        simp only
        rw [if_neg hmore, hdigits]
        rfl
      have hrest := ih (n / 128) (by omega)
        (p := { p with lengthBuffer := digits ++ [UInt8.ofNat (n % 128 + 128)] }) hstate
        (digits ++ [UInt8.ofNat (n % 128 + 128)]) rfl
        (by rw [List.length_append, List.length_singleton]; rw [List.length_cons] at hshort; omega)
        (by rw [List.append_assoc]; exact hdecode) hpay
      exact .skip (fun q hq => absurd hq hpay) hstep hrest

/-- **The fixed header of a packet that is not empty.** -/
theorem reads_header {header : UInt8} {c : CurrentPacket} (hp : p.Between)
    (hstart : p.firstByte header =
      ({ p with bufferState := .remainingLength, current := some c }, [])) {n : ℕ} (hn : 0 < n)
    (hshort : n < 2 ^ 28) :
    Reads p (header :: VarInt.encode n) []
      { p with
        bufferState := .variableHeader
        current := some c
        remainingLength := UInt32.ofNat n } := by
  have hpay : p.bufferState ≠ .payload := by
    rw [hp.state]
    intro h
    cases h
  have hfirst : p.step header [] =
      .ok ({ p with bufferState := .remainingLength, current := some c }, [], []) := by
    rw [step_of_none hp.state, hstart]
  have hnat : (UInt32.ofNat n).toNat = n := by
    rw [UInt32.toNat_ofNat']
    omega
  have hpos : 0 < UInt32.ofNat n := by
    rw [UInt32.lt_iff_toNat_lt, hnat]
    exact hn
  have hlength : (VarInt.encode n).length ≤ 4 := (VarInt.length_encode_le_iff n 3).mpr hshort
  have hdecode : decodeRemainingLength (VarInt.encode n) = UInt32.ofNat n := by
    have := decodeRemainingLength_encode (UInt32.ofNat n)
    rwa [encodeRemainingLength_eq, hnat] at this
  have hrest := reads_digits (p := { p with bufferState := .remainingLength, current := some c })
    rfl hpos n [] hp.digits (by simpa using hlength) (by simpa using hdecode)
  rw [← hp.digits] at hrest
  exact .skip (fun q hq => absurd hq hpay) hfirst hrest

/-- The parser gets through some bytes, which tell the client `es`, but for how payloads are
cut, and is between two packets then. -/
def Gets (p : Parser) (bs : List UInt8) (es : List Event) : Prop :=
  ∃ p' es', Reads p bs es' p' ∧ p'.Between ∧ p'.maxTopicLength = p.maxTopicLength ∧
    explodeAll es' = explodeAll es

/-- A packet that is read without further ado. -/
theorem gets_of_reads (hread : Reads p bs es p') (hbetween : p'.Between)
    (hmax : p'.maxTopicLength = p.maxTopicLength) : p.Gets bs es :=
  ⟨p', es, hread, hbetween, hmax, rfl⟩

/-! ### Packets that are not messages -/

theorem fromBytes_twoBytes (n : UInt16) : fromBytes (n >>> 8).toUInt8 (n &&& 0xFF).toUInt8 = n := by
  have hread := read16_twoBytes n []
  obtain ⟨hn, -⟩ := Prod.mk.inj (Option.some.inj hread)
  rw [fromBytes, UInt16.or_comm]
  exact hn

theorem not_payload_of_header (h : p.bufferState = .variableHeader) : p.bufferState ≠ .payload := by
  rw [h]
  intro h
  cases h

/-- Two bytes of a variable header, one after the other. -/
theorem reads_two (p₁ : Parser) (b₁ b₂ : UInt8) {p₂ : Parser}
    (hstate : p.bufferState = .variableHeader) (hfirst : p.headerByte b₁ = .ok (p₁, []))
    (hstate₁ : p₁.bufferState = .variableHeader)
    (hsecond : p₁.headerByte b₂ = .ok (p₂, es)) : Reads p [b₁, b₂] es p₂ := by
  refine .skip (fun q hq => absurd hq (not_payload_of_header hstate))
    (?_ : _ = Except.ok (p₁, [], [])) (reads_one (not_payload_of_header hstate₁) ?_)
  · rw [step_of_variableHeader hstate, hfirst]
    rfl
  · rw [step_of_variableHeader hstate₁, hsecond]
    rfl

theorem gets_connAck (hp : p.Between) (sessionPresent : Bool) (connectReturnCode : UInt8) :
    p.Gets (ServerPacket.connAck sessionPresent connectReturnCode).frame.bytes
      [.connAck sessionPresent connectReturnCode] := by
  have hstart : p.firstByte 0x20 =
      ({ p with bufferState := .remainingLength, current := some (.connAck 0 false) }, []) := rfl
  have hheader := reads_header hp hstart (show 0 < 2 by decide) (by decide)
  have hbody := reads_two
    (p := { p with
      bufferState := .variableHeader
      current := some (.connAck 0 false)
      remainingLength := UInt32.ofNat 2 })
    { p with
      bufferState := .variableHeader
      current := some (.connAck 1 sessionPresent)
      remainingLength := UInt32.ofNat 2 }
    (if sessionPresent then 1 else 0) connectReturnCode rfl (by cases sessionPresent <;> rfl)
    rfl rfl
  exact gets_of_reads (hheader.append hbody) ⟨rfl, hp.digits⟩ rfl

/-- The body that is an identifier, for the objects that have nothing else. -/
theorem reads_packetId {c : AckPacket → CurrentPacket} {e : Event} (packetId : UInt16) {n : UInt32}
    (hfirst : ∀ (p : Parser) (q : AckPacket) (b : UInt8),
      p.current = some (c q) → q.bytePosition = 0 →
        p.headerByte b = .ok ({ p with current := some (c (q.parseVariableHeader b).1) }, []))
    (hsecond : ∀ (p : Parser) (q : AckPacket) (b : UInt8),
      p.current = some (c q) → q.bytePosition = 1 →
        fromBytes q.packetIdMsb b = packetId → p.headerByte b = .ok (p.complete e)) :
    Reads { p with bufferState := .variableHeader, current := some (c {}), remainingLength := n }
      (twoBytes packetId) [e]
      { p with bufferState := .none, current := none, remainingLength := n } := by
  refine reads_two _ _ _ rfl (hfirst _ {} _ rfl rfl) rfl (hsecond _ _ _ rfl rfl ?_)
  exact fromBytes_twoBytes packetId

theorem gets_ack (hp : p.Between) (a : Ack) (packetId : UInt16) :
    p.Gets (ServerPacket.ack a packetId).frame.bytes [.ack a packetId] := by
  have hstart : p.firstByte (a.packetType <<< 4 ||| a.headerFlag) =
      ({ p with bufferState := .remainingLength, current := some (.ack a {}) }, []) := by
    cases a <;> rfl
  have hheader := reads_header hp hstart (show 0 < 2 by decide) (by decide)
  have hbody := reads_packetId (p := p) (c := .ack a) (e := .ack a packetId) packetId
    (n := UInt32.ofNat 2)
    (fun p q b hcurrent hposition => by
      rw [headerByte, hcurrent]
      simp [AckPacket.parseVariableHeader, hposition])
    (fun p q b hcurrent hposition hid => by
      rw [headerByte, hcurrent]
      simp [AckPacket.parseVariableHeader, hposition, hid])
  exact gets_of_reads (hheader.append hbody) ⟨rfl, hp.digits⟩ rfl

theorem gets_unsubAck (hp : p.Between) (packetId : UInt16) :
    p.Gets (ServerPacket.unsubAck packetId).frame.bytes [.unsubAck packetId] := by
  have hstart : p.firstByte 0xB0 =
      ({ p with bufferState := .remainingLength, current := some (.unsubAck {}) }, []) := rfl
  have hheader := reads_header hp hstart (show 0 < 2 by decide) (by decide)
  have hbody := reads_packetId (p := p) (c := .unsubAck) (e := .unsubAck packetId) packetId
    (n := UInt32.ofNat 2)
    (fun p q b hcurrent hposition => by
      rw [headerByte, hcurrent]
      simp [AckPacket.parseVariableHeader, hposition])
    (fun p q b hcurrent hposition hid => by
      rw [headerByte, hcurrent]
      simp [AckPacket.parseVariableHeader, hposition, hid])
  exact gets_of_reads (hheader.append hbody) ⟨rfl, hp.digits⟩ rfl

theorem gets_subAck (hp : p.Between) (packetId : UInt16) (status : UInt8) :
    p.Gets (ServerPacket.subAck packetId status).frame.bytes [.subAck packetId status] := by
  have hstart : p.firstByte 0x90 =
      ({ p with bufferState := .remainingLength, current := some (.subAck {}) }, []) := rfl
  have hheader := reads_header hp hstart (show 0 < 3 by decide) (by decide)
  have hid := fromBytes_twoBytes packetId
  have hbody : Reads { p with
      bufferState := .variableHeader
      current := some (.subAck {})
      remainingLength := UInt32.ofNat 3 }
      (twoBytes packetId) [] { p with
        bufferState := .payload
        current := some (.subAck ⟨2, (packetId >>> 8).toUInt8, packetId⟩)
        remainingLength := UInt32.ofNat 3 } := by
    refine reads_two _ _ _ rfl rfl rfl ?_
    show Except.ok ({ p with
      bufferState := .payload
      current := some (.subAck ⟨2, (packetId >>> 8).toUInt8,
        fromBytes (packetId >>> 8).toUInt8 (packetId &&& 0xFF).toUInt8⟩)
      remainingLength := UInt32.ofNat 3 }, []) = _
    rw [hid]
  have hstatus : Reads { p with
      bufferState := .payload
      current := some (.subAck ⟨2, (packetId >>> 8).toUInt8, packetId⟩)
      remainingLength := UInt32.ofNat 3 } [status] [.subAck packetId status] { p with
        bufferState := .none, current := none, remainingLength := UInt32.ofNat 3 } :=
    show Reads _ _ ([Event.subAck packetId status] ++ []) _ from
      .cons (fun q _ hq => by cases hq) rfl (.nil _)
  exact gets_of_reads (hheader.append (hbody.append hstatus)) ⟨rfl, hp.digits⟩ rfl

theorem gets_pingResp (hp : p.Between) : p.Gets ServerPacket.pingResp.frame.bytes [.pingResp] := by
  have hbytes : ServerPacket.pingResp.frame.bytes = [0xD0, 0] := by
    rw [Frame.bytes, VarInt.encode_of_lt (by decide)]
    rfl
  have hpay : p.bufferState ≠ .payload := by
    rw [hp.state]
    intro h
    cases h
  have hfirst : p.step 0xD0 [] =
      .ok ({ p with bufferState := .remainingLength, current := some .pingResp }, [], []) := by
    rw [step_of_none hp.state]
    rfl
  have hsecond :
      Parser.step { p with bufferState := .remainingLength, current := some .pingResp } 0 [] =
      .ok ({ p with
        bufferState := .none, current := none, remainingLength := 0, lengthBuffer := [] },
          [.pingResp], []) := by
    rw [step_of_remainingLength rfl, lengthByte, if_neg (by rw [hp.digits]; decide), hp.digits]
    rfl
  rw [hbytes]
  exact gets_of_reads (.skip (fun q hq => absurd hq hpay) hfirst
    (reads_one (fun h => by cases h) hsecond)) ⟨rfl, rfl⟩ rfl

/-! ### The payload of a message -/

/-- What a message tells the client, if it is not ignored. -/
def told (p : Parser) (q : PublishPacket) (payload : List UInt8) : List Event :=
  if q.ignore then [] else [.message (p.chunk q payload), .publish q.packetId q.qos]

/-- The payload, byte by byte. -/
theorem gets_payload {xs : List UInt8} (hxs : xs ≠ []) (hdigits : p.lengthBuffer = [])
    (hstate : p.bufferState = .payload) (hcurrent : p.current = some (.publish q))
    (hleft : q.payloadBytesRead.toNat + xs.length = q.payloadLength.toNat)
    (hshort : q.payloadLength.toNat < 2 ^ 28) : p.Gets xs (p.told q xs) := by
  induction xs generalizing p q with
  | nil => exact absurd rfl hxs
  | cons b xs ih =>
    rw [List.length_cons] at hleft
    have hlt : q.payloadBytesRead < q.payloadLength := by
      rw [UInt32.lt_iff_toNat_lt]
      omega
    have hbounded : p.Bounded := by
      intro q' _ hq'
      rw [hcurrent] at hq'
      obtain rfl := CurrentPacket.publish.inj (Option.some.inj hq')
      exact ⟨hlt, hshort⟩
    have hone : (q.payloadBytesRead + 1).toNat = q.payloadBytesRead.toNat + 1 := by
      rw [UInt32.toNat_add]
      exact Nat.mod_eq_of_lt (by show _ + 1 < _; omega)
    cases xs with
    | nil =>
      -- the last byte
      have hend : q.payloadBytesRead + 1 = q.payloadLength := by
        rw [← UInt32.toNat_inj, hone, ← hleft]
        rfl
      have hread : remainToRead q [b] = 1 := by
        rw [← UInt32.toNat_inj, remainToRead_eq hlt (by rw [List.length_singleton]; omega), taken,
          List.length_singleton]
        show min 1 _ = 1
        omega
      have hstep := step_of_payload hstate hcurrent b []
      have hpass : p.parsePublishPayload q [b] = ((p.completePublish
          { q with payloadBytesRead := q.payloadLength }
          (if q.ignore then [] else [.message (p.chunk q [b])])).1, p.told q [b], []) := by
        rw [parsePublishPayload, hread, told]
        simp only [hend, if_true, completePublish]
        cases q.ignore <;> rfl
      rw [hpass] at hstep
      refine ⟨_, p.told q [b] ++ [], .cons hbounded hstep (.nil _), ?_, ?_, by rw [List.append_nil]⟩
      · rw [completePublish]
        split <;> exact ⟨rfl, hdigits⟩
      · rw [completePublish]
        split <;> rfl
    | cons b' rest =>
      have hmore : q.payloadBytesRead + 1 ≠ q.payloadLength := by
        intro hend
        rw [← UInt32.toNat_inj, hone] at hend
        rw [List.length_cons] at hleft
        omega
      obtain ⟨hfirst, -, -, -⟩ := parsePublishPayload_cons (p := p) (b := b) b' rest hlt hshort
        (by rw [List.length_cons] at hleft; omega) hmore
      have hstep := step_of_payload hstate hcurrent b []
      rw [hfirst] at hstep
      obtain ⟨p', es', hreads, hbetween, hmax, hevents⟩ := ih
        (p := { p with
          current := some (.publish { q with payloadBytesRead := q.payloadBytesRead + 1 }) })
        (q := { q with payloadBytesRead := q.payloadBytesRead + 1 }) (List.cons_ne_nil _ _) hdigits
        hstate rfl (by
          show (q.payloadBytesRead + 1).toNat + _ = q.payloadLength.toNat
          rw [hone]
          omega) hshort
      refine ⟨p', _, .cons hbounded hstep hreads, hbetween, hmax, ?_⟩
      rw [explodeAll_append, hevents, told, told]
      have hcut := explode_chunk_cons p q b (List.cons_ne_nil b' rest)
        (some (.publish { q with payloadBytesRead := q.payloadBytesRead + 1 }))
      by_cases hignore : q.ignore
      · simp [hignore]
      · simp [hignore, explodeAll, hcut]

/-- **From the end of the header on.** -/
theorem gets_content {content : List UInt8} {es₀ : List Event}
    (hzero : q.payloadBytesRead = 0) (hshort : content.length < 2 ^ 28)
    (hread : Reads p' bs [] p) {b : UInt8} (hstate : p.bufferState = .variableHeader)
    (hmax : p.maxTopicLength = p'.maxTopicLength) {r : Parser}
    (hr : r.maxTopicLength = p.maxTopicLength) (hrdigits : r.lengthBuffer = [])
    (hstep : p.headerByte b = .ok (r.preparePayloadHandling q (UInt32.ofNat content.length)))
    (hes : es₀ = r.told { q with payloadLength := UInt32.ofNat content.length } content) :
    p'.Gets (bs ++ b :: content) es₀ := by
  have hpay := not_payload_of_header hstate
  have hnat : (UInt32.ofNat content.length).toNat = content.length := by
    rw [UInt32.toNat_ofNat']
    omega
  have hstep' := step_of_variableHeader hstate b []
  rw [hstep] at hstep'
  have hbyte : p.step b [] = .ok ((r.preparePayloadHandling q (UInt32.ofNat content.length)).1,
      (r.preparePayloadHandling q (UInt32.ofNat content.length)).2, []) := hstep'
  have hbounded : p.Bounded := fun q hq => absurd hq hpay
  cases content with
  | nil =>
    have hprepare : r.preparePayloadHandling q (UInt32.ofNat ([] : List UInt8).length) =
        r.completePublish { q with payloadLength := 0 }
          [.message (r.chunk { q with payloadLength := 0 } [])] := by
      rw [preparePayloadHandling]
      exact if_pos rfl
    rw [hprepare] at hbyte
    refine ⟨_, _, hread.append (.cons hbounded hbyte (.nil _)), ?_, ?_, ?_⟩
    · rw [completePublish]
      split <;> exact ⟨rfl, hrdigits⟩
    · rw [← hmax, ← hr, completePublish]
      split <;> rfl
    · rw [hes, completePublish, told, List.nil_append, List.append_nil]
      cases q.ignore <;> rfl
  | cons x xs =>
    have hne : UInt32.ofNat (x :: xs).length ≠ 0 := by
      intro h0
      rw [← UInt32.toNat_inj, hnat] at h0
      simp at h0
    have hprepare : r.preparePayloadHandling q (UInt32.ofNat (x :: xs).length) =
        ({ r with
          bufferState := .payload
          current :=
            some (.publish { q with payloadLength := UInt32.ofNat (x :: xs).length }) }, []) := by
      rw [preparePayloadHandling]
      exact if_neg hne
    rw [hprepare] at hbyte
    obtain ⟨p'', es', hreads, hbetween, hmax', hevents⟩ := gets_payload
      (p := { r with
        bufferState := .payload
        current := some (.publish { q with payloadLength := UInt32.ofNat (x :: xs).length }) })
      (q := { q with payloadLength := UInt32.ofNat (x :: xs).length }) (List.cons_ne_nil x xs)
      hrdigits rfl rfl (by
        rw [hnat, hzero]
        exact Nat.zero_add _) (by rw [hnat]; exact hshort)
    refine ⟨p'', _, hread.append (.cons hbounded hbyte hreads), hbetween, ?_, ?_⟩
    · rw [hmax', ← hmax, ← hr]
    · rw [hes, List.nil_append, List.nil_append, hevents]
      rfl

/-! ### The topic of a message -/

/-- What the object for a PUBLISH knows when it has read the length of the topic. -/
structure Heading (m : Message) (dup : Bool) (maxTopicLength : UInt16) (q : PublishPacket) :
    Prop where
  dup : q.dup = dup
  retain : q.retain = m.retain
  qos : q.qos = m.qos
  length : q.topicLength.toNat = m.topic.length
  ignore : q.ignore = decide (maxTopicLength.toNat < m.topic.length)
  fresh : q.payloadBytesRead = 0
  packetId : q.packetId = 0

/-- In the topic, of which `i` characters have been read. -/
structure InTopic (m : Message) (dup : Bool) (n : UInt32) (i : ℕ) (p : Parser) (q : PublishPacket) :
    Prop where
  state : p.bufferState = .variableHeader
  digits : p.lengthBuffer = []
  remaining : p.remainingLength = n
  current : p.current = some (.publish q)
  position : q.bytePosition.toNat = 2 + i
  heading : Heading m dup p.maxTopicLength q
  topic : m.topic.length ≤ p.maxTopicLength.toNat →
    p.topicBuffer.take i = m.topic.take i ∧ p.topicBuffer[m.topic.length]? = some 0

section Topic

variable {m : Message} {dup : Bool} {n : UInt32} {i : ℕ}

/-- A character is written, or left out. -/
theorem InTopic.write (h : InTopic m dup n i p q) {b : UInt8} (hb : m.topic[i]? = some b) :
    ∃ r, (if q.ignore then Except.ok p else p.writeTopic i b) = .ok r ∧
      r.bufferState = p.bufferState ∧ r.lengthBuffer = p.lengthBuffer ∧
      r.remainingLength = p.remainingLength ∧ r.maxTopicLength = p.maxTopicLength ∧
      (m.topic.length ≤ p.maxTopicLength.toNat →
        r.topicBuffer.take (i + 1) = m.topic.take (i + 1) ∧
          r.topicBuffer[m.topic.length]? = some 0) := by
  obtain ⟨hi, -⟩ := List.getElem?_eq_some_iff.mp hb
  by_cases hlong : p.maxTopicLength.toNat < m.topic.length
  · rw [h.heading.ignore, decide_eq_true hlong]
    exact ⟨p, rfl, rfl, rfl, rfl, rfl, fun hshort => absurd hlong (Nat.not_lt.mpr hshort)⟩
  · rw [h.heading.ignore, decide_eq_false hlong]
    obtain ⟨htake, hend⟩ := h.topic (Nat.not_lt.mp hlong)
    obtain ⟨r, hr, hbuffer, hr'⟩ := writeTopic_ok (p := p) (i := i) (by omega) b
    have hlt : i < p.topicBuffer.length := by
      rw [p.length_topicBuffer]
      omega
    refine ⟨r, hr, by rw [hr'], by rw [hr'], by rw [hr'], by rw [hr'], fun _ => ⟨?_, ?_⟩⟩
    · rw [hbuffer, List.take_add_one, List.take_add_one, List.take_set_of_le (Nat.le_refl i), htake,
        List.getElem?_set_self hlt, hb]
    · rw [hbuffer, List.getElem?_set_ne (Nat.ne_of_lt hi)]
      exact hend

/-- **A character of the topic**, unless it is the last thing in the header. -/
theorem InTopic.next (h : InTopic m dup n i p q) (hm : m.Readable) {b : UInt8}
    (hb : m.topic[i]? = some b) (hmore : m.qos = 0 → i + 1 < m.topic.length) :
    ∃ p', p.step b [] = .ok (p', [], []) ∧ p'.maxTopicLength = p.maxTopicLength ∧
      InTopic m dup n (i + 1) p' { q with bytePosition := q.bytePosition + 1 } := by
  obtain ⟨hi, -⟩ := List.getElem?_eq_some_iff.mp hb
  obtain ⟨r, hr, hstate, hdigits, hremaining, hmax, htopic⟩ := h.write hb
  have hnot0 : ¬q.bytePosition.toNat = 0 := by rw [h.position]; omega
  have hnot1 : ¬q.bytePosition.toNat = 1 := by rw [h.position]; omega
  have hin : q.bytePosition.toNat ≥ 2 ∧ q.bytePosition.toNat < 2 + q.topicLength.toNat := by
    rw [h.position, h.heading.length]
    omega
  have hlast : ¬(q.bytePosition.toNat = 2 + q.topicLength.toNat - 1 ∧ q.qos = 0) := by
    rw [h.position, h.heading.length, h.heading.qos]
    rintro ⟨hend, hqos⟩
    have := hmore hqos
    omega
  have hsub : q.bytePosition.toNat - 2 = i := by rw [h.position]; omega
  -- the counter does not wrap around
  have hcount : i + 1 ≤ 253 := by
    rw [Message.Readable] at hm
    split at hm
    · rename_i hqos
      have := hmore hqos
      omega
    · omega
  have hnext : (q.bytePosition + 1).toNat = 2 + (i + 1) := by
    rw [UInt8.toNat_add, h.position]
    show (2 + i + 1) % 256 = _
    omega
  refine ⟨{ r with current := some (.publish { q with bytePosition := q.bytePosition + 1 }) },
    ?_, hmax, ?_⟩
  · rw [step_of_variableHeader h.state, headerByte, h.current]
    simp only [parsePublishHeader]
    rw [if_neg hnot0, if_neg hnot1, if_pos hin, hsub, hr]
    show (Except.ok (if _ then _ else _)).map _ = _
    rw [if_neg hlast]
    rfl
  · exact {
      state := hstate.trans h.state
      digits := hdigits.trans h.digits
      remaining := hremaining.trans h.remaining
      current := rfl
      position := hnext
      heading := ⟨h.heading.dup, h.heading.retain, h.heading.qos, h.heading.length,
        by show q.ignore = decide (r.maxTopicLength.toNat < _); rw [hmax]; exact h.heading.ignore,
        h.heading.fresh, h.heading.packetId⟩
      topic := fun hshort => htopic (by rw [← hmax]; exact hshort) }

/-- **The characters of the topic**, but for the last one if that is the last thing in the
header. -/
theorem InTopic.reads (h : InTopic m dup n 0 p q) (hm : m.Readable) (k : ℕ)
    (hk : k ≤ m.topic.length) (hmore : m.qos = 0 → k < m.topic.length) :
    ∃ p' q', Reads p (m.topic.take k) [] p' ∧ p'.maxTopicLength = p.maxTopicLength ∧
      InTopic m dup n k p' q' := by
  induction k with
  | zero => exact ⟨p, q, .nil p, rfl, h⟩
  | succ k ih =>
    obtain ⟨p₁, q₁, hreads, hmax, hin⟩ := ih (by omega) fun hqos => by
      have := hmore hqos
      omega
    have hlt : k < m.topic.length := by omega
    have hb : m.topic[k]? = some (m.topic.get ⟨k, hlt⟩) := List.getElem?_eq_getElem hlt
    obtain ⟨p₂, hstep, hmax', hin'⟩ := hin.next hm hb hmore
    refine ⟨p₂, _, ?_, hmax'.trans hmax, hin'⟩
    have hone := hreads.append (reads_one (not_payload_of_header hin.state) hstep)
    rw [List.take_add_one, hb]
    exact hone

/-- The topic that has been read is the topic. -/
theorem topic_of_take {buffer : List UInt8} {topic : List UInt8} (hnul : 0 ∉ topic)
    (htake : buffer.take topic.length = topic) (hend : buffer[topic.length]? = some 0) :
    buffer.takeWhile (· ≠ 0) = topic := by
  obtain ⟨hlt, hzero⟩ := List.getElem?_eq_some_iff.mp hend
  have hsplit : buffer = topic ++ 0 :: buffer.drop (topic.length + 1) := by
    conv_lhs => rw [← List.take_append_drop topic.length buffer, htake,
      List.drop_eq_getElem_cons hlt, hzero]
  have hall : ∀ b ∈ topic, decide (b ≠ 0) = true := fun b hb =>
    decide_eq_true fun h0 => hnul (h0 ▸ hb)
  rw [hsplit, List.takeWhile_append_of_pos hall]
  simp

/-! ### A whole message -/

theorem Gets.after (hread : Reads p bs [] p') (hmax : p'.maxTopicLength = p.maxTopicLength)
    {bs' : List UInt8} (h : p'.Gets bs' es) : p.Gets (bs ++ bs') es := by
  obtain ⟨p'', es', hreads, hbetween, hmax', hevents⟩ := h
  exact ⟨p'', es', hread.append hreads, hbetween, hmax'.trans hmax, hevents⟩

theorem firstByte_publish (h : b >>> 4 = PacketType.PUBLISH) :
    p.firstByte b = ({ p with
      bufferState := .remainingLength
      current := some (.publish (.ofFlags b)) }, []) := by
  unfold firstByte
  rw [h]
  rfl

/-- The flags are read back. -/
theorem ofFlags_header (hqos : m.qos = 0 ∨ m.qos = 1 ∨ m.qos = 2) (dup : Bool) :
    (PublishPacket.ofFlags (m.header dup)).dup = dup ∧
      (PublishPacket.ofFlags (m.header dup)).retain = m.retain ∧
      (PublishPacket.ofFlags (m.header dup)).qos = m.qos := by
  rw [Message.header]
  generalize m.retain = retain
  rcases hqos with hq | hq | hq <;> rw [hq] <;> cases retain <;> cases dup <;> decide

/-- The length of the topic. -/
theorem reads_topicLength (dup : Bool) (hm : m.Valid) (hstate : p.bufferState = .variableHeader)
    (hdigits : p.lengthBuffer = []) (hremaining : p.remainingLength = n)
    (hcurrent : p.current = some (.publish (.ofFlags (m.header dup)))) :
    ∃ p' q', Reads p (twoBytes (length16 m.topic)) [] p' ∧ p'.maxTopicLength = p.maxTopicLength ∧
      InTopic m dup n 0 p' q' := by
  obtain ⟨hdup, hretain, hqos⟩ := ofFlags_header hm.qos dup
  have hnew : (PublishPacket.ofFlags (m.header dup)).bytePosition = 0 ∧
      (PublishPacket.ofFlags (m.header dup)).ignore = false ∧
      (PublishPacket.ofFlags (m.header dup)).payloadBytesRead = 0 ∧
      (PublishPacket.ofFlags (m.header dup)).packetId = 0 := ⟨rfl, rfl, rfl, rfl⟩
  generalize PublishPacket.ofFlags (m.header dup) = q at hcurrent hdup hretain hqos hnew
  obtain ⟨hposition, hignore, hread, hpacketId⟩ := hnew
  have hlength := hm.topic.toNat_length16
  have hid := fromBytes_twoBytes (length16 m.topic)
  have hfirst : p.headerByte (length16 m.topic >>> 8).toUInt8 = .ok ({ p with
      current := some (.publish { q with
        bytePosition := 1, topicLengthMsb := (length16 m.topic >>> 8).toUInt8 }) }, []) := by
    rw [headerByte, hcurrent]
    simp only [parsePublishHeader, hposition]
    rfl
  have hgt : length16 m.topic > p.maxTopicLength ↔ p.maxTopicLength.toNat < m.topic.length := by
    show p.maxTopicLength < length16 m.topic ↔ _
    rw [UInt16.lt_iff_toNat_lt, hlength]
  by_cases hlong : p.maxTopicLength.toNat < m.topic.length
  · -- the message will be ignored
    refine ⟨{ p with current := some (.publish { q with
        bytePosition := 2, topicLengthMsb := (length16 m.topic >>> 8).toUInt8
        topicLength := length16 m.topic, ignore := true }) },
      { q with
        bytePosition := 2, topicLengthMsb := (length16 m.topic >>> 8).toUInt8
        topicLength := length16 m.topic, ignore := true },
      reads_two _ _ _ hstate hfirst hstate ?_, rfl, ?_⟩
    · rw [headerByte]
      simp only [parsePublishHeader, hid]
      rw [if_neg (by decide), if_pos (by decide), if_pos (hgt.mpr hlong)]
      rfl
    · exact ⟨hstate, hdigits, hremaining, rfl, rfl,
        ⟨hdup, hretain, hqos, hlength, (decide_eq_true hlong).symm, hread, hpacketId⟩,
        fun hshort => absurd hlong (Nat.not_lt.mpr hshort)⟩
  · -- the end of the topic is marked
    obtain ⟨r, hr, hbuffer, hr'⟩ := writeTopic_ok
      (p := { p with current := some (.publish { q with
        bytePosition := 1, topicLengthMsb := (length16 m.topic >>> 8).toUInt8 }) })
      (i := (length16 m.topic).toNat) (by rw [hlength]; exact Nat.not_lt.mp hlong) 0
    have hlt : m.topic.length < p.topicBuffer.length := by
      rw [p.length_topicBuffer]
      omega
    refine ⟨{ r with current := some (.publish { q with
        bytePosition := 2, topicLengthMsb := (length16 m.topic >>> 8).toUInt8
        topicLength := length16 m.topic }) },
      { q with
        bytePosition := 2, topicLengthMsb := (length16 m.topic >>> 8).toUInt8
        topicLength := length16 m.topic }, reads_two _ _ _ hstate hfirst hstate ?_, by rw [hr'], ?_⟩
    · rw [headerByte]
      simp only [parsePublishHeader, hid]
      rw [if_neg (by decide), if_pos (by decide), if_neg (fun h => hlong (hgt.mp h)), hr]
      rfl
    · refine ⟨by rw [hr']; exact hstate, by rw [hr']; exact hdigits, by rw [hr']; exact hremaining,
        rfl, rfl, ⟨hdup, hretain, hqos, hlength, ?_, hread, hpacketId⟩, fun _ => ⟨rfl, ?_⟩⟩
      · rw [hr']
        exact hignore.trans (decide_eq_false hlong).symm
      · show r.topicBuffer[m.topic.length]? = _
        rw [hbuffer, hlength]
        exact List.getElem?_set_self hlt

/-- The length of the payload, as the object computes it. -/
theorem payloadLength_eq {N c : ℕ} (h : N = b.toNat + 1 + c) :
    UInt32.ofNat N - (b.toUInt32 + 1) = UInt32.ofNat c := by
  have hb : b.toUInt32 + 1 = UInt32.ofNat (b.toNat + 1) := by
    rw [UInt32.ofNat_add]
    refine congrArg (· + 1) (UInt32.toNat_inj.mp ?_)
    have := b.toNat_lt
    rw [UInt8.toNat_toUInt32, UInt32.toNat_ofNat']
    omega
  rw [h, UInt32.ofNat_add, hb, UInt32.add_comm, UInt32.add_sub_cancel]

/-- What the client is told of the message. -/
theorem told_eq (hm : m.Valid) {r : Parser} (hq : Heading m dup r.maxTopicLength q)
    (htopic : m.topic.length ≤ r.maxTopicLength.toNat →
      r.topicBuffer.take m.topic.length = m.topic ∧ r.topicBuffer[m.topic.length]? = some 0)
    {packetId : UInt16} {q' : PublishPacket}
    (hq' : q'.dup = q.dup ∧ q'.retain = q.retain ∧ q'.qos = q.qos ∧ q'.ignore = q.ignore ∧
      q'.payloadBytesRead = 0 ∧ q'.payloadLength = UInt32.ofNat m.content.length ∧
      q'.packetId = if m.qos = 0 then 0 else packetId) :
    r.told q' m.content = (ServerPacket.publish m hm packetId dup).events r.maxTopicLength := by
  obtain ⟨hdup, hretain, hqos, hignore, hread, hlength, hid⟩ := hq'
  rw [told, hignore, hq.ignore, ServerPacket.events]
  simp only [decide_eq_true_eq]
  split
  · rfl
  · rename_i hshort
    obtain ⟨htake, hend⟩ := htopic (Nat.not_lt.mp hshort)
    have htopic' : r.topic = m.topic := topic_of_take hm.topic.noNul htake hend
    rw [chunk, htopic', hdup, hretain, hqos, hread, hlength, hid, hq.dup, hq.retain, hq.qos]

/-- **The header of a message without an identifier** ends with the last character of the
topic. -/
theorem InTopic.gets_rest_zero (h : InTopic m dup n 0 p q) (hm : m.Valid) (hreadable : m.Readable)
    (hqos : m.qos = 0) (hn : n = UInt32.ofNat (2 + m.topic.length + m.content.length))
    (hshort : m.content.length < 2 ^ 28) (packetId : UInt16) :
    p.Gets (m.topic ++ m.content)
      ((ServerPacket.publish m hm packetId dup).events p.maxTopicLength) := by
  have hbounds := hreadable
  rw [Message.Readable, if_pos hqos] at hbounds
  obtain ⟨k, hk⟩ : ∃ k, m.topic.length = k + 1 := ⟨m.topic.length - 1, by omega⟩
  have hlt : k < m.topic.length := by omega
  obtain ⟨p', q', hreads, hmax, hin⟩ := h.reads hreadable k (by omega) (fun _ => hlt)
  have hb : m.topic[k]? = some (m.topic.get ⟨k, hlt⟩) := List.getElem?_eq_getElem hlt
  obtain ⟨r, hr, hstate, hdigits, hremaining, hmax', htopic⟩ := hin.write hb
  have hsplit : m.topic ++ m.content = m.topic.take k ++ m.topic.get ⟨k, hlt⟩ :: m.content := by
    have htake : m.topic = m.topic.take k ++ [m.topic.get ⟨k, hlt⟩] := by
      conv_lhs => rw [← List.take_length (l := m.topic), hk, List.take_add_one, hb]
      rfl
    conv_lhs => rw [htake, List.append_assoc]
    rfl
  have hnot0 : ¬q'.bytePosition.toNat = 0 := by rw [hin.position]; omega
  have hnot1 : ¬q'.bytePosition.toNat = 1 := by rw [hin.position]; omega
  have hinside : q'.bytePosition.toNat ≥ 2 ∧ q'.bytePosition.toNat < 2 + q'.topicLength.toNat := by
    rw [hin.position, hin.heading.length]
    omega
  have hlast : q'.bytePosition.toNat = 2 + q'.topicLength.toNat - 1 ∧ q'.qos = 0 := by
    rw [hin.position, hin.heading.length, hin.heading.qos]
    exact ⟨by omega, hqos⟩
  have hsub : q'.bytePosition.toNat - 2 = k := by rw [hin.position]; omega
  have hlength :
      p'.remainingLength - (q'.bytePosition.toUInt32 + 1) = UInt32.ofNat m.content.length := by
    rw [hin.remaining, hn]
    exact payloadLength_eq (by rw [hin.position]; omega)
  have hstep : p'.headerByte (m.topic.get ⟨k, hlt⟩) =
      .ok (r.preparePayloadHandling q' (UInt32.ofNat m.content.length)) := by
    rw [headerByte, hin.current]
    simp only [parsePublishHeader]
    rw [if_neg hnot0, if_neg hnot1, if_pos hinside, hsub, hr, hlength]
    show Except.ok (if _ then _ else _) = _
    rw [if_pos hlast]
  rw [hsplit]
  refine gets_content hin.heading.fresh hshort hreads hin.state hmax hmax'
    (hdigits.trans hin.digits) hstep ?_
  rw [← hmax, ← hmax']
  symm
  show r.told { q' with payloadLength := UInt32.ofNat m.content.length } m.content = _
  refine told_eq hm (q := q') ?_ ?_ ⟨rfl, rfl, rfl, rfl, hin.heading.fresh, rfl, ?_⟩
  · rw [hmax']
    exact hin.heading
  · intro hfits
    obtain ⟨htake, hend⟩ := htopic (by rw [← hmax']; exact hfits)
    rw [← hk, List.take_length] at htake
    exact ⟨htake, hend⟩
  · rw [if_pos hqos]
    exact hin.heading.packetId

/-- **The header of a message with an identifier** ends with that. -/
theorem InTopic.gets_rest (h : InTopic m dup n 0 p q) (hm : m.Valid) (hreadable : m.Readable)
    (hqos : m.qos ≠ 0) (hn : n = UInt32.ofNat (4 + m.topic.length + m.content.length))
    (hshort : m.content.length < 2 ^ 28) (packetId : UInt16) :
    p.Gets (m.topic ++ (twoBytes packetId ++ m.content))
      ((ServerPacket.publish m hm packetId dup).events p.maxTopicLength) := by
  have hbounds := hreadable
  rw [Message.Readable, if_neg hqos] at hbounds
  obtain ⟨hbounds, hcontent⟩ := hbounds
  obtain ⟨p', q', hreads, hmax, hin⟩ := h.reads hreadable m.topic.length (Nat.le_refl _)
    (fun h0 => absurd h0 hqos)
  rw [List.take_length] at hreads
  have hnot0 : ¬q'.bytePosition.toNat = 0 := by rw [hin.position]; omega
  have hnot1 : ¬q'.bytePosition.toNat = 1 := by rw [hin.position]; omega
  have houtside :
      ¬(q'.bytePosition.toNat ≥ 2 ∧ q'.bytePosition.toNat < 2 + q'.topicLength.toNat) := by
    rw [hin.position, hin.heading.length]
    omega
  have hfirst : q'.bytePosition.toNat = 2 + q'.topicLength.toNat := by
    rw [hin.position, hin.heading.length]
  have hnext : (q'.bytePosition + 1).toNat = 3 + m.topic.length := by
    rw [UInt8.toNat_add, hin.position]
    show (2 + m.topic.length + 1) % 256 = _
    omega
  -- the first byte of the identifier
  have hstep₁ : p'.headerByte (packetId >>> 8).toUInt8 = .ok ({ p' with
      current := some (.publish { q' with
        bytePosition := q'.bytePosition + 1, packetIdMsb := (packetId >>> 8).toUInt8 }) }, []) := by
    rw [headerByte, hin.current]
    simp only [parsePublishHeader]
    rw [if_neg hnot0, if_neg hnot1, if_neg houtside, if_pos hfirst]
  have hread₁ := hreads.append (reads_one (not_payload_of_header hin.state) (by
    rw [step_of_variableHeader hin.state, hstep₁]
    rfl))
  -- the second one
  have hnot0' : ¬(q'.bytePosition + 1).toNat = 0 := by rw [hnext]; omega
  have hnot1' : ¬(q'.bytePosition + 1).toNat = 1 := by rw [hnext]; omega
  have houtside' : ¬((q'.bytePosition + 1).toNat ≥ 2 ∧
      (q'.bytePosition + 1).toNat < 2 + q'.topicLength.toNat) := by
    rw [hnext, hin.heading.length]
    omega
  have hsecond : ¬(q'.bytePosition + 1).toNat = 2 + q'.topicLength.toNat := by
    rw [hnext, hin.heading.length]
    omega
  have hlength : p'.remainingLength - ((q'.bytePosition + 1).toUInt32 + 1) =
      UInt32.ofNat m.content.length := by
    rw [hin.remaining, hn]
    exact payloadLength_eq (by rw [hnext]; omega)
  have hgoes : ¬(UInt32.ofNat m.content.length = 0 ∧ q'.ignore = false) := by
    rintro ⟨hzero, -⟩
    have hnat := congrArg UInt32.toNat hzero
    rw [UInt32.toNat_ofNat'] at hnat
    have hpos := List.length_pos_iff.mpr hcontent
    have hzeroNat : (0 : UInt32).toNat = 0 := rfl
    omega
  have hstep₂ : Parser.headerByte { p' with
      current := some (.publish { q' with
        bytePosition := q'.bytePosition + 1, packetIdMsb := (packetId >>> 8).toUInt8 }) }
      (packetId &&& 0xFF).toUInt8 = .ok (Parser.preparePayloadHandling { p' with
        current := some (.publish { q' with
          bytePosition := q'.bytePosition + 1, packetIdMsb := (packetId >>> 8).toUInt8 }) }
        { q' with
          bytePosition := q'.bytePosition + 1 + 1, packetIdMsb := (packetId >>> 8).toUInt8
          packetId := packetId } (UInt32.ofNat m.content.length)) := by
    rw [headerByte]
    simp only [parsePublishHeader]
    rw [if_neg hnot0', if_neg hnot1', if_neg houtside', if_neg hsecond, hlength, if_neg hgoes,
      fromBytes_twoBytes]
  have hsplit : m.topic ++ (twoBytes packetId ++ m.content) =
      m.topic ++ [(packetId >>> 8).toUInt8] ++ (packetId &&& 0xFF).toUInt8 :: m.content := by
    rw [List.append_assoc]
    rfl
  rw [hsplit]
  refine gets_content (q := { q' with
    bytePosition := q'.bytePosition + 1 + 1, packetIdMsb := (packetId >>> 8).toUInt8
    packetId := packetId }) hin.heading.fresh hshort hread₁ hin.state hmax rfl hin.digits hstep₂ ?_
  rw [← hmax]
  symm
  show Parser.told { p' with
    current := some (.publish { q' with
      bytePosition := q'.bytePosition + 1, packetIdMsb := (packetId >>> 8).toUInt8 }) }
    { q' with
      bytePosition := q'.bytePosition + 1 + 1, packetIdMsb := (packetId >>> 8).toUInt8
      packetId := packetId, payloadLength := UInt32.ofNat m.content.length } m.content = _
  refine told_eq hm (q := q') hin.heading ?_ ⟨rfl, rfl, rfl, rfl, hin.heading.fresh, rfl, ?_⟩
  · intro hfits
    obtain ⟨htake, hend⟩ := hin.topic hfits
    rw [List.take_length] at htake
    exact ⟨htake, hend⟩
  · rw [if_neg hqos]

/-- **A message comes as it was sent.** -/
theorem gets_publish (hp : p.Between) (hm : m.Valid) (hreadable : m.Readable) (packetId : UInt16)
    (dup : Bool) :
    p.Gets (ServerPacket.publish m hm packetId dup).frame.bytes
      ((ServerPacket.publish m hm packetId dup).events p.maxTopicLength) := by
  have hlength := hm.length_body packetId
  rw [hm.toNat_remainingLength] at hlength
  have hshort := hm.short
  have hcontent : m.content.length < 2 ^ 28 := by
    rw [Message.content]
    omega
  obtain ⟨htype, -⟩ := Message.header_bits hm.qos dup
  have hheader := reads_header hp (firstByte_publish htype) (n := (m.body packetId).length)
    (by rw [hlength]; omega) (m.frame hm packetId dup).short
  have hbytes : (ServerPacket.publish m hm packetId dup).frame.bytes =
      m.header dup :: VarInt.encode (m.body packetId).length ++ m.body packetId := rfl
  obtain ⟨p', q', hreads, hmax, hin⟩ := reads_topicLength dup
    (p := { p with
      bufferState := .variableHeader
      current := some (.publish (.ofFlags (m.header dup)))
      remainingLength := UInt32.ofNat (m.body packetId).length })
    (n := UInt32.ofNat (m.body packetId).length) hm rfl hp.digits rfl rfl
  have hread := hheader.append hreads
  rw [hbytes]
  have hmax : p'.maxTopicLength = p.maxTopicLength := hmax
  by_cases hqos : m.qos = 0
  · have hbody : m.body packetId = twoBytes (length16 m.topic) ++ (m.topic ++ m.content) := by
      rw [Message.body, hm.topic.lengthPrefixed_eq, hm.bytes_eq, if_neg (not_not.mpr hqos),
        List.append_nil, List.append_assoc]
    have hrest := hin.gets_rest_zero hm hreadable hqos (by
      rw [hlength, if_neg (not_not.mpr hqos)]
      rfl) hcontent packetId
    rw [hmax] at hrest
    have hall := Gets.after hread hmax hrest
    rwa [List.append_assoc, ← hbody] at hall
  · have hbody : m.body packetId =
        twoBytes (length16 m.topic) ++ (m.topic ++ (twoBytes packetId ++ m.content)) := by
      rw [Message.body, hm.topic.lengthPrefixed_eq, hm.bytes_eq, if_pos hqos, List.append_assoc,
        List.append_assoc]
    have hrest := hin.gets_rest hm hreadable hqos (by
      rw [hlength, if_pos hqos]
      exact congrArg UInt32.ofNat (by omega)) hcontent packetId
    rw [hmax] at hrest
    have hall := Gets.after hread hmax hrest
    rwa [List.append_assoc, ← hbody] at hall

end Topic

/-! ### All of it -/

/-- A packet of a server. -/
theorem gets_packet (hp : p.Between) {packet : ServerPacket} (h : packet.Readable) :
    p.Gets packet.frame.bytes (packet.events p.maxTopicLength) := by
  cases packet with
  | connAck sessionPresent connectReturnCode => exact gets_connAck hp _ _
  | pingResp => exact gets_pingResp hp
  | ack a packetId => exact gets_ack hp a packetId
  | subAck packetId status => exact gets_subAck hp packetId status
  | unsubAck packetId => exact gets_unsubAck hp packetId
  | publish m hm packetId dup => exact gets_publish hp hm h packetId dup

/-- **Packets of a server, one after the other.** -/
theorem gets_packets (hp : p.Between) {packets : List ServerPacket}
    (h : ∀ s ∈ packets, s.Readable) :
    p.Gets (packets.flatMap fun s => s.frame.bytes)
      (packets.flatMap (ServerPacket.events p.maxTopicLength)) := by
  induction packets generalizing p with
  | nil => exact ⟨p, [], .nil p, hp, rfl, rfl⟩
  | cons packet packets ih =>
    obtain ⟨hpacket, hpackets⟩ := List.forall_mem_cons.mp h
    obtain ⟨p₁, es₁, hreads₁, hbetween₁, hmax₁, hevents₁⟩ := gets_packet hp hpacket
    obtain ⟨p₂, es₂, hreads₂, hbetween₂, hmax₂, hevents₂⟩ := ih hbetween₁ hpackets
    refine ⟨p₂, es₁ ++ es₂, ?_, hbetween₂, hmax₂.trans hmax₁, ?_⟩
    · rw [List.flatMap_cons]
      exact hreads₁.append hreads₂
    · rw [List.flatMap_cons, explodeAll_append, explodeAll_append, hevents₁, hevents₂, hmax₁]

end Parser

end Mqtt

end SentinelEdge
