import SentinelEdge.Mqtt.Packet

/-!
# The parser of the MQTT client

`_onData` is called with the bytes that TCP delivers, cut wherever TCP cuts them. It is a
loop over these bytes with a state that outlives the call: it reads the kind of a packet,
the digits of its length, and then hands the bytes to an object for the kind of packet,
until that object says that it is done.

A pass of the loop is `SentinelEdge.Mqtt.Parser.step`. What it tells the client – a call
of one of its handlers – is an `SentinelEdge.Mqtt.Event`. The handlers that end a packet
free the object, and the model does so at once. The pass consumes one byte, or, if it is
in the payload of a PUBLISH, all the bytes it can use.

The source does not guard everything. What would be undefined there, or would not return,
is a `SentinelEdge.Mqtt.Fault` here: a null pointer, an object that has been freed, a byte
behind the end of a buffer, a pass that consumes nothing. `char` is unsigned on the
ESP32-C3. A string that is longer than `maxTopicLength` is never written to the buffer for
the topic, so that one of these does not happen, whatever comes in
(`SentinelEdge.Mqtt.Parser.step_error_iff`).
-/

namespace SentinelEdge

namespace Mqtt

/-! ### The state -/

/-- What goes wrong where the source has no guard. -/
inductive Fault where
  /-- `_currentParsedPacket` is null and is used. -/
  | nullPacket
  /-- A byte is written behind `_remainingLengthBuffer`. -/
  | lengthOverflow
  /-- A byte is written behind `topicBuffer`. -/
  | topicOverflow
  /-- The loop of `_onData` goes on without consuming anything. -/
  | stuck
  /-- `_head` is null and is used. -/
  | nullHead
  /-- A `PublishPacket` has been freed and is used. -/
  | freedPublish
  /-- An `OutPacket` has been deleted and is used. -/
  | freedOutPacket
  deriving DecidableEq

/-- `BufferState`. -/
inductive BufferState where
  /-- `NONE`. -/
  | none
  /-- `REMAINING_LENGTH`. -/
  | remainingLength
  /-- `VARIABLE_HEADER`. -/
  | variableHeader
  /-- `PAYLOAD`. -/
  | payload
  deriving DecidableEq

/-- The fields of `PubAckPacket`, which are those of `PubRecPacket`, `PubRelPacket`,
`PubCompPacket`, `SubAckPacket` and `UnsubAckPacket`, too. -/
structure AckPacket where
  /-- `_bytePosition`. -/
  bytePosition : UInt8 := 0
  /-- `_packetIdMsb`. -/
  packetIdMsb : UInt8 := 0
  /-- `_packetId`. -/
  packetId : UInt16 := 0
  deriving DecidableEq

/-- `PublishPacket`. -/
structure PublishPacket where
  /-- `_dup`. -/
  dup : Bool
  /-- `_qos`. -/
  qos : UInt8
  /-- `_retain`. -/
  retain : Bool
  /-- `_bytePosition`. -/
  bytePosition : UInt8 := 0
  /-- `_topicLengthMsb`. -/
  topicLengthMsb : UInt8 := 0
  /-- `_topicLength`. -/
  topicLength : UInt16 := 0
  /-- `_ignore`. -/
  ignore : Bool := false
  /-- `_packetIdMsb`. -/
  packetIdMsb : UInt8 := 0
  /-- `_packetId`. -/
  packetId : UInt16 := 0
  /-- `_payloadLength`. -/
  payloadLength : UInt32 := 0
  /-- `_payloadBytesRead`. -/
  payloadBytesRead : UInt32 := 0
  deriving DecidableEq

/-- `_currentParsedPacket`. -/
inductive CurrentPacket where
  /-- `ConnAckPacket`, with its `_bytePosition` and `_sessionPresent`. -/
  | connAck (bytePosition : UInt8) (sessionPresent : Bool)
  /-- `PingRespPacket`. -/
  | pingResp
  /-- `PubAckPacket`, `PubRecPacket`, `PubRelPacket` or `PubCompPacket`. -/
  | ack (a : Ack) (p : AckPacket)
  /-- `UnsubAckPacket`. -/
  | unsubAck (p : AckPacket)
  /-- `SubAckPacket`. -/
  | subAck (p : AckPacket)
  /-- `PublishPacket`. -/
  | publish (p : PublishPacket)
  deriving DecidableEq

/-- The state that the loop of `_onData` leaves for the next call. -/
structure Parser where
  /-- `bufferState`. -/
  bufferState : BufferState
  /-- `_currentParsedPacket`, if it is not null. -/
  current : Option CurrentPacket
  /-- `remainingLength`. -/
  remainingLength : UInt32
  /-- The bytes in `_remainingLengthBuffer`, up to `_remainingLengthBufferPosition`. -/
  lengthBuffer : List UInt8
  /-- `maxTopicLength`. -/
  maxTopicLength : UInt16
  /-- `topicBuffer`. -/
  topicBuffer : List UInt8
  length_topicBuffer : topicBuffer.length = maxTopicLength.toNat + 1
  deriving DecidableEq

/-! ### What it tells the client -/

/-- The arguments of `_onMessage`. -/
structure Chunk where
  /-- `topic`. -/
  topic : List UInt8
  /-- The bytes at `payload`, as many as `len`. -/
  payload : List UInt8
  /-- `qos`. -/
  qos : UInt8
  /-- `dup`. -/
  dup : Bool
  /-- `retain`. -/
  retain : Bool
  /-- `index`: how much of the message has come before. -/
  index : UInt32
  /-- `total`. -/
  total : UInt32
  /-- `packetId`. -/
  packetId : UInt16
  deriving DecidableEq

/-- A call of a handler of the client. -/
inductive Event where
  /-- `_onConnAck`. -/
  | connAck (sessionPresent : Bool) (connectReturnCode : UInt8)
  /-- `_onPingResp`. -/
  | pingResp
  /-- `_onPubAck`, `_onPubRec`, `_onPubRel` or `_onPubComp`. -/
  | ack (a : Ack) (packetId : UInt16)
  /-- `_onUnsubAck`. -/
  | unsubAck (packetId : UInt16)
  /-- `_onSubAck`. -/
  | subAck (packetId : UInt16) (status : UInt8)
  /-- `_onMessage`: some of a message. -/
  | message (c : Chunk)
  /-- `_onPublish`: the end of a message. -/
  | publish (packetId : UInt16) (qos : UInt8)
  /-- `disconnect(true)`, after a byte that no packet starts with. -/
  | violation
  deriving DecidableEq

/-! ### The objects -/

/-- A `uint16_t` from its two bytes, as the objects put it together. -/
def fromBytes (msb lsb : UInt8) : UInt16 := lsb.toUInt16 ||| msb.toUInt16 <<< 8

/-- `parseVariableHeader` of `PubAckPacket` and its like, up to the call of the handler:
whether the identifier is complete. -/
def AckPacket.parseVariableHeader (p : AckPacket) (currentByte : UInt8) : AckPacket × Bool :=
  if p.bytePosition = 0 then
    ({ p with bytePosition := p.bytePosition + 1, packetIdMsb := currentByte }, false)
  else
    ({ p with
        bytePosition := p.bytePosition + 1
        packetId := fromBytes p.packetIdMsb currentByte }, true)

/-- The constructor of `PublishPacket`. All of the byte is in `packetFlags`. -/
def PublishPacket.ofFlags (packetFlags : UInt8) : PublishPacket where
  dup := packetFlags &&& HeaderFlag.PUBLISH_DUP ≠ 0
  retain := packetFlags &&& HeaderFlag.PUBLISH_RETAIN ≠ 0
  qos :=
    match packetFlags &&& 0x06 with
    | 0x00 => 0
    | 0x02 => 1
    | 0x04 => 2
    | _ => 0

namespace Parser

/-- Writes to `topicBuffer`. -/
def writeTopic (p : Parser) (i : ℕ) (currentByte : UInt8) : Except Fault Parser :=
  if i < p.topicBuffer.length then
    .ok { p with
      topicBuffer := p.topicBuffer.set i currentByte
      length_topicBuffer := by rw [List.length_set]; exact p.length_topicBuffer }
  else .error .topicOverflow

/-- The string in `topicBuffer`. -/
def topic (p : Parser) : List UInt8 := p.topicBuffer.takeWhile (· ≠ 0)

/-- What `PublishPacket` tells the client of some of the payload. -/
def chunk (p : Parser) (q : PublishPacket) (payload : List UInt8) : Chunk :=
  ⟨p.topic, payload, q.qos, q.dup, q.retain, q.payloadBytesRead, q.payloadLength, q.packetId⟩

/-- The end of a PUBLISH, after the last calls of `_dataCallback`. -/
def completePublish (p : Parser) (q : PublishPacket) (messages : List Event) :
    Parser × List Event :=
  let p := { p with bufferState := .none }
  -- an ignored message is not freed
  if q.ignore then ({ p with current := some (.publish q) }, [])
  else ({ p with current := none }, messages ++ [.publish q.packetId q.qos])

/-- `PublishPacket::_preparePayloadHandling`. -/
def preparePayloadHandling (p : Parser) (q : PublishPacket) (payloadLength : UInt32) :
    Parser × List Event :=
  let q := { q with payloadLength := payloadLength }
  if payloadLength = 0 then p.completePublish q [.message (p.chunk q [])]
  else ({ p with bufferState := .payload, current := some (.publish q) }, [])

/-- `PublishPacket::parseVariableHeader`. -/
def parsePublishHeader (p : Parser) (q : PublishPacket) (currentByte : UInt8) :
    Except Fault (Parser × List Event) :=
  let position := q.bytePosition.toNat
  let payloadLength := p.remainingLength - (q.bytePosition.toUInt32 + 1)
  let next : PublishPacket := { q with bytePosition := q.bytePosition + 1 }
  if position = 0 then
    .ok ({ p with current := some (.publish { next with topicLengthMsb := currentByte }) }, [])
  else if position = 1 then
    let topicLength := fromBytes q.topicLengthMsb currentByte
    let next := { next with topicLength := topicLength }
    if topicLength > p.maxTopicLength then
      .ok ({ p with current := some (.publish { next with ignore := true }) }, [])
    else
      (p.writeTopic topicLength.toNat 0).map fun p =>
        ({ p with current := some (.publish next) }, [])
  else if position ≥ 2 ∧ position < 2 + q.topicLength.toNat then
    -- starting from here, `ignore` might be true
    (if q.ignore then .ok p else p.writeTopic (position - 2) currentByte).map fun p =>
      if position = 2 + q.topicLength.toNat - 1 ∧ q.qos = 0 then
        p.preparePayloadHandling q payloadLength
      else ({ p with current := some (.publish next) }, [])
  else if position = 2 + q.topicLength.toNat then
    .ok ({ p with current := some (.publish { next with packetIdMsb := currentByte }) }, [])
  -- the end of a message without a payload frees the object, and `_bytePosition` is one of
  -- its fields
  else if payloadLength = 0 ∧ q.ignore = false then .error .freedPublish
  else
    .ok (p.preparePayloadHandling { next with packetId := fromBytes q.packetIdMsb currentByte }
      payloadLength)

/-- `remainToRead` in `PublishPacket::parsePayload`, with the bytes that are left. -/
def remainToRead (q : PublishPacket) (data : List UInt8) : UInt32 :=
  let remainToRead := UInt32.ofNat data.length
  if q.payloadBytesRead + remainToRead > q.payloadLength then
    q.payloadLength - q.payloadBytesRead
  else remainToRead

/-- `PublishPacket::parsePayload`, with the bytes that are left: what the parser is then,
what it tells the client, and the bytes that are still left. -/
def parsePublishPayload (p : Parser) (q : PublishPacket) (data : List UInt8) :
    Parser × List Event × List UInt8 :=
  let remainToRead := remainToRead q data
  let messages :=
    if q.ignore then [] else [.message (p.chunk q (data.take remainToRead.toNat))]
  let q := { q with payloadBytesRead := q.payloadBytesRead + remainToRead }
  let data := data.drop remainToRead.toNat
  if q.payloadBytesRead = q.payloadLength then
    let r := p.completePublish q messages
    (r.1, r.2, data)
  else ({ p with current := some (.publish q) }, messages, data)

/-! ### A pass -/

/-- A pass in the state `NONE`: the first byte of a packet. -/
def firstByte (p : Parser) (currentByte : UInt8) : Parser × List Event :=
  let p := { p with bufferState := .remainingLength }
  let start (c : CurrentPacket) : Parser × List Event := ({ p with current := some c }, [])
  match currentByte >>> 4 with
  | 2 => start (.connAck 0 false)
  | 13 => start .pingResp
  | 9 => start (.subAck {})
  | 11 => start (.unsubAck {})
  | 3 => start (.publish (.ofFlags currentByte))
  | 6 => start (.ack .pubRel {})
  | 4 => start (.ack .pubAck {})
  | 5 => start (.ack .pubRec {})
  | 7 => start (.ack .pubComp {})
  | _ => (p, [.violation])

/-- A pass in the state `REMAINING_LENGTH`. -/
def lengthByte (p : Parser) (currentByte : UInt8) : Except Fault (Parser × List Event) :=
  if p.lengthBuffer.length = 4 then .error .lengthOverflow
  else
    let buffer := p.lengthBuffer ++ [currentByte]
    if currentByte >>> 7 = 0 then
      let p := { p with remainingLength := decodeRemainingLength buffer, lengthBuffer := [] }
      if p.remainingLength > 0 then .ok ({ p with bufferState := .variableHeader }, [])
      else .ok ({ p with bufferState := .none, current := none }, [.pingResp])
    else .ok ({ p with lengthBuffer := buffer }, [])

/-- The end of a packet that is not a PUBLISH. -/
def complete (p : Parser) (e : Event) : Parser × List Event :=
  ({ p with bufferState := .none, current := none }, [e])

/-- A pass in the state `VARIABLE_HEADER`. -/
def headerByte (p : Parser) (currentByte : UInt8) : Except Fault (Parser × List Event) :=
  match p.current with
  | none => .error .nullPacket
  | some .pingResp => .error .stuck
  | some (.connAck bytePosition sessionPresent) =>
    if bytePosition = 0 then
      .ok ({ p with current := some (.connAck (bytePosition + 1) (currentByte ≠ 0)) }, [])
    else .ok (p.complete (.connAck sessionPresent currentByte))
  | some (.ack a q) =>
    let r := q.parseVariableHeader currentByte
    if r.2 then .ok (p.complete (.ack a r.1.packetId))
    else .ok ({ p with current := some (.ack a r.1) }, [])
  | some (.unsubAck q) =>
    let r := q.parseVariableHeader currentByte
    if r.2 then .ok (p.complete (.unsubAck r.1.packetId))
    else .ok ({ p with current := some (.unsubAck r.1) }, [])
  | some (.subAck q) =>
    let r := q.parseVariableHeader currentByte
    .ok ({ p with
      bufferState := if r.2 then .payload else .variableHeader
      current := some (.subAck r.1) }, [])
  | some (.publish q) => p.parsePublishHeader q currentByte

/-- **A pass of the loop of `_onData`**: what the parser is then, what it tells the client,
and the bytes that are left. -/
def step (p : Parser) (currentByte : UInt8) (rest : List UInt8) :
    Except Fault (Parser × List Event × List UInt8) :=
  let one (r : Parser × List Event) : Parser × List Event × List UInt8 := (r.1, r.2, rest)
  match p.bufferState with
  | .none => .ok (one (p.firstByte currentByte))
  | .remainingLength => (p.lengthByte currentByte).map one
  | .variableHeader => (p.headerByte currentByte).map one
  | .payload =>
    match p.current with
    | none => .error .nullPacket
    | some (.subAck q) => .ok (one (p.complete (.subAck q.packetId currentByte)))
    | some (.publish q) => .ok (p.parsePublishPayload q (currentByte :: rest))
    | some _ => .error .stuck

/-! ### What a pass keeps -/

/-- A topic that is not ignored fits the buffer. -/
def TopicFits (p : Parser) : Prop :=
  ∀ q, p.current = some (.publish q) → q.ignore = false → q.topicLength ≤ p.maxTopicLength

variable {p : Parser}

theorem topicFits_of_ne {c : Option CurrentPacket} (h : p.current = c)
    (hc : ∀ q, c ≠ some (.publish q)) : p.TopicFits := by
  intro q hq
  exact absurd (h.symm.trans hq) (hc q)

theorem writeTopic_ok {i : ℕ} (hi : i ≤ p.maxTopicLength.toNat) (b : UInt8) :
    ∃ p', p.writeTopic i b = .ok p' ∧ p'.topicBuffer = p.topicBuffer.set i b ∧
      p' = { p with
        topicBuffer := p.topicBuffer.set i b
        length_topicBuffer := by rw [List.length_set]; exact p.length_topicBuffer } := by
  refine ⟨_, if_pos ?_, rfl, rfl⟩
  rw [p.length_topicBuffer]
  omega

theorem topicFits_completePublish {q : PublishPacket} (messages : List Event)
    (hfit : q.ignore = false → q.topicLength ≤ p.maxTopicLength) :
    (p.completePublish q messages).1.TopicFits := by
  rw [completePublish]
  split
  · intro q' hq'
    obtain rfl : q = q' := by simpa using hq'
    exact hfit
  · exact topicFits_of_ne rfl (fun q h => by cases h)

/-- What holds of the state between two passes, as long as no byte has come that no packet
starts with. -/
structure WF (p : Parser) : Prop where
  fits : p.TopicFits
  digits : p.lengthBuffer.length ≤ 4
  -- an object for the packet that has been started, which has read no payload yet
  header : p.bufferState = .remainingLength ∨ p.bufferState = .variableHeader →
    ∃ c, p.current = some c ∧ ∀ q, c = .publish q → q.payloadBytesRead = 0
  -- in the payload of something that has one, and not at its end
  payload : p.bufferState = .payload → (∃ q, p.current = some (.subAck q)) ∨
    ∃ q, p.current = some (.publish q) ∧ q.payloadBytesRead < q.payloadLength

/-- A pass does not read beyond the payload. -/
theorem remainToRead_le (q : PublishPacket) (data : List UInt8) :
    q.payloadBytesRead + remainToRead q data ≤ q.payloadLength := by
  rw [remainToRead]
  split
  · rw [UInt32.add_comm, UInt32.sub_add_cancel]
    exact UInt32.le_refl _
  · rename_i hle
    exact UInt32.not_lt.mp hle

/-- A pass reads something, and no more than there is. -/
theorem remainToRead_pos {q : PublishPacket} (hlt : q.payloadBytesRead < q.payloadLength)
    {data : List UInt8} (hdata : data ≠ []) (hsize : data.length < 2 ^ 32) :
    0 < (remainToRead q data).toNat ∧ (remainToRead q data).toNat ≤ data.length := by
  have hpos := List.length_pos_iff.mpr hdata
  have hlt' : q.payloadBytesRead.toNat < q.payloadLength.toNat := UInt32.lt_iff_toNat_lt.mp hlt
  have hbound := q.payloadLength.toNat_lt
  have hlen : (UInt32.ofNat data.length).toNat = data.length := by
    rw [UInt32.toNat_ofNat', Nat.mod_eq_of_lt hsize]
  rw [remainToRead]
  split
  · rename_i hgt
    have hgt' := UInt32.lt_iff_toNat_lt.mp hgt
    rw [UInt32.toNat_add, hlen] at hgt'
    rw [UInt32.toNat_sub_of_le _ _ (UInt32.le_iff_toNat_le.mpr (Nat.le_of_lt hlt'))]
    omega
  · rw [hlen]
    omega

/-- How many bytes of the payload a pass takes. -/
def taken (q : PublishPacket) (data : List UInt8) : ℕ :=
  min data.length (q.payloadLength.toNat - q.payloadBytesRead.toNat)

/-- **A pass in the payload of a message** takes what is there of it, as long as the
counter does not wrap around. -/
theorem remainToRead_eq {q : PublishPacket} {data : List UInt8}
    (hlt : q.payloadBytesRead < q.payloadLength)
    (hsmall : q.payloadBytesRead.toNat + data.length < 2 ^ 32) :
    (remainToRead q data).toNat = taken q data := by
  have hlt' : q.payloadBytesRead.toNat < q.payloadLength.toNat := UInt32.lt_iff_toNat_lt.mp hlt
  have hsum : (q.payloadBytesRead + UInt32.ofNat data.length).toNat =
      q.payloadBytesRead.toNat + data.length := by
    rw [UInt32.toNat_add, UInt32.toNat_ofNat']
    omega
  rw [remainToRead, taken]
  split
  · rename_i hgt
    have hgt' := UInt32.lt_iff_toNat_lt.mp hgt
    rw [hsum] at hgt'
    rw [UInt32.toNat_sub_of_le _ _ (UInt32.le_iff_toNat_le.mpr (Nat.le_of_lt hlt'))]
    omega
  · rename_i hle
    have hle' := UInt32.le_iff_toNat_le.mp (UInt32.not_lt.mp hle)
    rw [hsum] at hle'
    rw [UInt32.toNat_ofNat', Nat.mod_eq_of_lt (by omega)]
    omega

/-- A parser between two packets. -/
theorem wf_of_none (hstate : p.bufferState = .none) (hfits : p.TopicFits)
    (hdigits : p.lengthBuffer.length ≤ 4) : p.WF where
  fits := hfits
  digits := hdigits
  header := by
    rw [hstate]
    rintro (h | h) <;> cases h
  payload := by
    rw [hstate]
    intro h
    cases h

/-- A parser at the start of a packet that is not a PUBLISH, or at that of a PUBLISH. -/
theorem wf_of_header {c : CurrentPacket} (hcurrent : p.current = some c)
    (hstate : p.bufferState ≠ .payload) (hdigits : p.lengthBuffer.length ≤ 4)
    (hc : ∀ q, c = .publish q → q.payloadBytesRead = 0 ∧
      (q.ignore = false → q.topicLength ≤ p.maxTopicLength)) : p.WF where
  fits := by
    intro q hq hignore
    rw [hcurrent] at hq
    exact (hc q (Option.some.inj hq)).2 hignore
  digits := hdigits
  header := fun _ => ⟨c, hcurrent, fun q hq => (hc q hq).1⟩
  payload := fun h => absurd h hstate

theorem wf_firstByte (h : p.WF) (b : UInt8) :
    (p.firstByte b).1.WF ∨
      (p.firstByte b).2 = [.violation] ∧
        (p.firstByte b).1 = { p with bufferState := .remainingLength } := by
  have hother : ∀ {c : CurrentPacket}, (∀ q, c ≠ .publish q) →
      WF { p with bufferState := .remainingLength, current := some c } := fun hc =>
    wf_of_header rfl (fun h => by cases h) h.digits fun q hq => absurd hq (hc q)
  unfold firstByte
  simp only
  split
  case h_5 =>
    refine Or.inl (wf_of_header rfl (fun h => by cases h) h.digits ?_)
    rintro q hq
    obtain rfl := CurrentPacket.publish.inj hq
    exact ⟨rfl, fun _ => UInt16.zero_le⟩
  case h_10 => exact Or.inr ⟨rfl, rfl⟩
  all_goals exact Or.inl (hother fun q hq => by cases hq)

theorem wf_lengthByte (h : p.WF) (hstate : p.bufferState = .remainingLength) {b : UInt8}
    {r : Parser × List Event} (hr : p.lengthByte b = .ok r) : r.1.WF := by
  obtain ⟨c, hcurrent, hc⟩ := h.header (Or.inl hstate)
  have hfits : ∀ q, c = .publish q → q.payloadBytesRead = 0 ∧
      (q.ignore = false → q.topicLength ≤ p.maxTopicLength) := fun q hq =>
    ⟨hc q hq, h.fits q (hq ▸ hcurrent)⟩
  rw [lengthByte] at hr
  split at hr
  · cases hr
  · rename_i hfour
    have hdigits := h.digits
    simp only at hr
    split at hr
    · split at hr
      · obtain rfl := Except.ok.inj hr
        exact wf_of_header hcurrent (fun h => by cases h) (Nat.zero_le _) hfits
      · obtain rfl := Except.ok.inj hr
        exact wf_of_none rfl (topicFits_of_ne rfl fun q h => by cases h) (Nat.zero_le _)
    · obtain rfl := Except.ok.inj hr
      refine wf_of_header hcurrent (fun h => by simp [hstate] at h) ?_ hfits
      rw [List.length_append, List.length_singleton]
      omega

theorem wf_completePublish (h : p.WF) {q : PublishPacket} (messages : List Event)
    (hfit : q.ignore = false → q.topicLength ≤ p.maxTopicLength) :
    (p.completePublish q messages).1.WF := by
  have hstate : (p.completePublish q messages).1.bufferState = .none := by
    rw [completePublish]
    split <;> rfl
  have hdigits : (p.completePublish q messages).1.lengthBuffer = p.lengthBuffer := by
    rw [completePublish]
    split <;> rfl
  refine wf_of_none hstate (topicFits_completePublish messages hfit) ?_
  rw [hdigits]
  exact h.digits

theorem wf_preparePayloadHandling (h : p.WF) {q : PublishPacket} (payloadLength : UInt32)
    (hfit : q.ignore = false → q.topicLength ≤ p.maxTopicLength) (hread : q.payloadBytesRead = 0) :
    (p.preparePayloadHandling q payloadLength).1.WF := by
  rw [preparePayloadHandling]
  split
  · exact wf_completePublish h _ hfit
  · rename_i hpos
    refine ⟨?_, h.digits, ?_, fun _ => Or.inr ⟨_, rfl, ?_⟩⟩
    · intro q' hq'
      obtain rfl : { q with payloadLength := payloadLength } = q' := by simpa using hq'
      exact hfit
    · rintro (h | h) <;> cases h
    · show q.payloadBytesRead < payloadLength
      rw [hread]
      exact UInt32.pos_iff_ne_zero.mpr hpos

/-- **The next byte ends a message without a payload**, behind an identifier. -/
def EndsEmpty (p : Parser) (q : PublishPacket) : Prop :=
  2 + q.topicLength.toNat < q.bytePosition.toNat ∧
    p.remainingLength = q.bytePosition.toUInt32 + 1 ∧ q.ignore = false

instance (p : Parser) (q : PublishPacket) : Decidable (p.EndsEmpty q) :=
  inferInstanceAs (Decidable (_ ∧ _ ∧ _))

/-- Then the object is used after it has been freed. -/
theorem parsePublishHeader_endsEmpty {q : PublishPacket} (h : p.EndsEmpty q) (b : UInt8) :
    p.parsePublishHeader q b = .error .freedPublish := by
  obtain ⟨hposition, hlength, hignore⟩ := h
  have hempty : p.remainingLength - (q.bytePosition.toUInt32 + 1) = 0 := by
    rw [hlength, UInt32.sub_self]
  rw [parsePublishHeader]
  simp only
  rw [if_neg (by omega), if_neg (by omega), if_neg (by omega), if_neg (by omega),
    if_pos ⟨hempty, hignore⟩]

/-- **The topic never leaves its buffer**, and the state stays as it should be. -/
theorem parsePublishHeader_ok (h : p.WF) (hstate : p.bufferState = .variableHeader)
    {q : PublishPacket} (hcurrent : p.current = some (.publish q)) (hend : ¬p.EndsEmpty q)
    (b : UInt8) : ∃ r, p.parsePublishHeader q b = .ok r ∧ r.1.WF := by
  have hfit := h.fits q hcurrent
  obtain ⟨c, hc, hread⟩ := h.header (Or.inr hstate)
  have hread : q.payloadBytesRead = 0 :=
    hread q (Option.some.inj (hc.symm.trans hcurrent))
  -- the object goes on to the next byte
  have hnext : ∀ {p' : Parser} {q' : PublishPacket}, p'.current = some (.publish q') →
      p'.bufferState = p.bufferState → p'.lengthBuffer = p.lengthBuffer →
      q'.payloadBytesRead = q.payloadBytesRead →
      (q'.ignore = false → q'.topicLength ≤ p'.maxTopicLength) → p'.WF := by
    intro p' q' hp' hs hl hr hq'
    refine wf_of_header hp' (fun hpay => ?_) (by rw [hl]; exact h.digits) ?_
    · rw [hs, hstate] at hpay
      cases hpay
    · intro q'' hq''
      obtain rfl := CurrentPacket.publish.inj hq''
      exact ⟨hr.trans hread, hq'⟩
  rw [parsePublishHeader]
  simp only
  split
  · exact ⟨_, rfl, hnext rfl rfl rfl rfl hfit⟩
  · split
    · split
      · exact ⟨_, rfl, hnext rfl rfl rfl rfl (fun h => by cases h)⟩
      · rename_i hlong
        have hle : fromBytes q.topicLengthMsb b ≤ p.maxTopicLength := UInt16.not_lt.mp hlong
        obtain ⟨p', hp', -, rfl⟩ := writeTopic_ok (UInt16.le_iff_toNat_le.mp hle) 0
        rw [hp']
        exact ⟨_, rfl, hnext rfl rfl rfl rfl fun _ => hle⟩
    · split
      · rename_i htopic
        have hwrite : ∃ p', (if q.ignore = true then Except.ok p
            else p.writeTopic (q.bytePosition.toNat - 2) b) = .ok p' ∧ p'.WF ∧
              p'.maxTopicLength = p.maxTopicLength ∧ p'.bufferState = p.bufferState ∧
              p'.lengthBuffer = p.lengthBuffer := by
          split
          · exact ⟨p, rfl, h, rfl, rfl, rfl⟩
          · rename_i hignore
            have hle := UInt16.le_iff_toNat_le.mp (hfit (Bool.eq_false_iff.mpr hignore))
            obtain ⟨p', hp', -, rfl⟩ :=
              writeTopic_ok (p := p) (i := q.bytePosition.toNat - 2) (by omega) b
            exact ⟨_, hp', ⟨h.fits, h.digits, h.header, h.payload⟩, rfl, rfl, rfl⟩
        obtain ⟨p', hp', hwf, hmax, hs, hl⟩ := hwrite
        rw [hp']
        refine ⟨_, rfl, ?_⟩
        split
        · exact wf_preparePayloadHandling hwf _ (by rwa [hmax]) hread
        · exact hnext rfl hs hl rfl (by rwa [hmax])
      · split
        · exact ⟨_, rfl, hnext rfl rfl rfl rfl hfit⟩
        · rename_i hposition
          split
          · rename_i hempty
            obtain ⟨hlength, hignore⟩ := hempty
            rw [UInt32.sub_eq_iff_eq_add, UInt32.zero_add] at hlength
            exact absurd ⟨by omega, hlength, hignore⟩ hend
          · exact ⟨_, rfl, wf_preparePayloadHandling h _ hfit hread⟩

theorem wf_complete (h : p.WF) (e : Event) : (p.complete e).1.WF :=
  wf_of_none rfl (topicFits_of_ne rfl fun q h => by cases h) h.digits

theorem wf_headerByte (h : p.WF) (hstate : p.bufferState = .variableHeader) {b : UInt8}
    {r : Parser × List Event} (hr : p.headerByte b = .ok r) : r.1.WF := by
  have hother : ∀ {c : CurrentPacket}, (∀ q, c ≠ .publish q) →
      WF { p with current := some c } := fun hc =>
    wf_of_header rfl (fun hpay => by simp [hstate] at hpay) h.digits fun q hq => absurd hq (hc q)
  obtain ⟨c, hcurrent, -⟩ := h.header (Or.inr hstate)
  rw [headerByte, hcurrent] at hr
  cases c with
  | connAck bytePosition sessionPresent =>
    simp only at hr
    split at hr
    · obtain rfl := Except.ok.inj hr
      exact hother fun q hq => by cases hq
    · obtain rfl := Except.ok.inj hr
      exact wf_complete h _
  | pingResp => cases hr
  | ack a q =>
    simp only at hr
    split at hr
    · obtain rfl := Except.ok.inj hr
      exact wf_complete h _
    · obtain rfl := Except.ok.inj hr
      exact hother fun q hq => by cases hq
  | unsubAck q =>
    simp only at hr
    split at hr
    · obtain rfl := Except.ok.inj hr
      exact wf_complete h _
    · obtain rfl := Except.ok.inj hr
      exact hother fun q hq => by cases hq
  | subAck q =>
    obtain rfl := Except.ok.inj hr
    exact ⟨topicFits_of_ne rfl (fun q h => by cases h), h.digits,
      fun _ => ⟨_, rfl, fun q h => by cases h⟩, fun _ => Or.inl ⟨_, rfl⟩⟩
  | publish q =>
    by_cases hend : p.EndsEmpty q
    · have hfault := (parsePublishHeader_endsEmpty hend b).symm.trans hr
      cases hfault
    · obtain ⟨r', hr', hwf⟩ := parsePublishHeader_ok h hstate hcurrent hend b
      obtain rfl : r' = r := Except.ok.inj (hr'.symm.trans hr)
      exact hwf

theorem wf_parsePublishPayload (h : p.WF) (hstate : p.bufferState = .payload) {q : PublishPacket}
    (hcurrent : p.current = some (.publish q)) (data : List UInt8) :
    (p.parsePublishPayload q data).1.WF := by
  have hfit := h.fits q hcurrent
  have hle := remainToRead_le q data
  rw [parsePublishPayload]
  generalize remainToRead q data = n at hle
  simp only
  split
  · exact wf_completePublish h _ hfit
  · rename_i hmore
    refine ⟨?_, h.digits, ?_, fun _ => Or.inr ⟨_, rfl, ?_⟩⟩
    · intro q' hq'
      obtain rfl := CurrentPacket.publish.inj (Option.some.inj hq')
      exact hfit
    · show p.bufferState = _ ∨ p.bufferState = _ → _
      rw [hstate]
      rintro (hs | hs) <;> cases hs
    · exact UInt32.lt_of_le_of_ne hle hmore

/-! ### A whole pass -/

/-- **The state stays as it should be**, unless the pass is one that drops the
connection. -/
theorem wf_step (h : p.WF) {b : UInt8} {rest : List UInt8} {r : Parser × List Event × List UInt8}
    (hr : p.step b rest = .ok r) :
    r.1.WF ∨ r.2.1 = [.violation] ∧ r.1 = { p with bufferState := .remainingLength } := by
  rw [step] at hr
  cases hstate : p.bufferState with
  | none =>
    rw [hstate] at hr
    obtain rfl := Except.ok.inj hr
    exact wf_firstByte h b
  | remainingLength =>
    rw [hstate] at hr
    cases hl : p.lengthByte b with
    | error f => simp [hl, Except.map] at hr
    | ok t =>
      simp only [hl, Except.map, Except.ok.injEq] at hr
      rw [← hr]
      exact Or.inl (wf_lengthByte h hstate hl)
  | variableHeader =>
    rw [hstate] at hr
    cases hl : p.headerByte b with
    | error f => simp [hl, Except.map] at hr
    | ok t =>
      simp only [hl, Except.map, Except.ok.injEq] at hr
      rw [← hr]
      exact Or.inl (wf_headerByte h hstate hl)
  | payload =>
    rw [hstate] at hr
    rcases h.payload hstate with ⟨q, hcurrent⟩ | ⟨q, hcurrent, hlt⟩
    · simp only [hcurrent, Except.ok.injEq] at hr
      subst hr
      exact Or.inl (wf_complete h (.subAck q.packetId b))
    · simp only [hcurrent, Except.ok.injEq] at hr
      subst hr
      exact Or.inl (wf_parsePublishPayload h hstate hcurrent _)

/-- **What a pass can go wrong on**: a fifth digit of a length, a PINGRESP that is longer than
it may be, and the end of a message that has an identifier and no payload. -/
theorem step_error_iff (h : p.WF) (b : UInt8) (rest : List UInt8) (f : Fault) :
    p.step b rest = .error f ↔
      (f = .lengthOverflow ∧ p.bufferState = .remainingLength ∧ p.lengthBuffer.length = 4) ∨
        (f = .stuck ∧ p.bufferState = .variableHeader ∧ p.current = some .pingResp) ∨
        (f = .freedPublish ∧ p.bufferState = .variableHeader ∧
          ∃ q, p.current = some (.publish q) ∧ p.EndsEmpty q) := by
  have hmap : ∀ x : Except Fault (Parser × List Event),
      (x.map fun t => (t.1, t.2, rest)) = .error f ↔ x = .error f := by
    rintro (f' | t) <;> simp [Except.map]
  rw [step]
  cases hstate : p.bufferState with
  | none => simp
  | remainingLength =>
    simp only [hmap, lengthByte]
    by_cases hfour : p.lengthBuffer.length = 4
    · simp [hfour, eq_comm]
    · simp only [hfour, if_false]
      split
      · split <;> simp
      · simp
  | variableHeader =>
    obtain ⟨c, hcurrent, -⟩ := h.header (Or.inr hstate)
    simp only [hmap, headerByte, hcurrent]
    cases c with
    | connAck bytePosition sessionPresent =>
      simp only
      split <;> simp
    | pingResp => simp [eq_comm]
    | ack a q =>
      simp only
      split <;> simp
    | unsubAck q =>
      simp only
      split <;> simp
    | subAck q => simp
    | publish q =>
      by_cases hend : p.EndsEmpty q
      · simp [parsePublishHeader_endsEmpty hend b, hend, eq_comm]
      · obtain ⟨r, hr, -⟩ := parsePublishHeader_ok h hstate hcurrent hend b
        simp [hr, hend]
  | payload =>
    rcases h.payload hstate with ⟨q, hcurrent⟩ | ⟨q, hcurrent, -⟩ <;> simp [hcurrent]

end Parser

end Mqtt

end SentinelEdge
