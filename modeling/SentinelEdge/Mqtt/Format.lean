import SentinelEdge.Library.Framing
import SentinelEdge.Mqtt.Packet

/-!
# What a server makes of the packets

The other end of the wire. An MQTT packet is a byte for its kind, the length of the rest
in base 128, and the rest; so packets show where they end
(`SentinelEdge.Mqtt.framing`), and a server can cut a stream into frames before it looks
into any of them. `SentinelEdge.Mqtt.Frame.read` is the looking in. It follows the
standard, not the client, and is strict about the form of a packet: the flags, the
quality of service, that an identifier is not zero, and that nothing is missing or left
over. It does not look at the characters of a topic, and it puts up with a `DUP` flag
where the standard does not.

A packet of the client is a frame if the remaining length that its constructor computes
is the length of what it appends. The constructors compute the two separately, and in a
`uint16_t` where a length is a string's, so that takes some care on the side of the
caller (`SentinelEdge.Mqtt.Message.Valid`, `SentinelEdge.Mqtt.Settings.Valid`). Where it is
taken, a server reads what was meant:

| packet | theorem |
|---|---|
| PUBLISH | `SentinelEdge.Mqtt.Message.read_frame` |
| CONNECT | `SentinelEdge.Mqtt.Settings.read_frame` |
| PUBACK, PUBREC, PUBREL, PUBCOMP | `SentinelEdge.Mqtt.Ack.read_frame` |
| SUBSCRIBE | `SentinelEdge.Mqtt.read_subscribeFrame` |
| UNSUBSCRIBE | `SentinelEdge.Mqtt.read_unsubscribeFrame` |
-/

namespace SentinelEdge

namespace Mqtt

/-! ### Frames -/

/-- A packet on the wire. Four bytes are enough for its length. -/
structure Frame where
  /-- The kind of the packet, and its flags. -/
  header : UInt8
  /-- The rest. -/
  body : List UInt8
  short : body.length < 2 ^ 28

theorem Frame.short_of_le {body : List UInt8} (h : body.length ≤ 3) : body.length < 2 ^ 28 := by
  omega

/-- Reads the frame that comes first. -/
def decodeFrame : List UInt8 → Option (Frame × List UInt8)
  | [] => none
  | header :: bs =>
    (VarInt.decode bs).bind fun r =>
      if h : r.1 ≤ r.2.length ∧ r.1 < 2 ^ 28 then
        some (⟨header, r.2.take r.1, by rw [List.length_take_of_le h.1]; exact h.2⟩, r.2.drop r.1)
      else none

/-- The bytes of a frame. -/
def Frame.bytes (f : Frame) : List UInt8 := f.header :: (VarInt.encode f.body.length ++ f.body)

theorem decodeFrame_bytes (f : Frame) (bs : List UInt8) :
    decodeFrame (f.bytes ++ bs) = some (f, bs) := by
  have hle : f.body.length ≤ (f.body ++ bs).length := by simp
  rw [Frame.bytes, List.cons_append, List.append_assoc, decodeFrame, VarInt.decode_encode,
    Option.bind_some, dif_pos ⟨hle, f.short⟩]
  simp only [List.take_left, List.drop_left]

theorem decodeFrame_eq_some {bs : List UInt8} {r : Frame × List UInt8}
    (h : decodeFrame bs = some r) :
    ∃ header t v, bs = header :: t ∧ VarInt.decode t = some v ∧ v.1 ≤ v.2.length ∧
      r.1.header = header ∧ r.1.body = v.2.take v.1 ∧ r.2 = v.2.drop v.1 := by
  cases bs with
  | nil => cases h
  | cons header t =>
    obtain ⟨v, hv, h⟩ := Option.bind_eq_some_iff.mp h
    obtain ⟨hle, h⟩ := Option.dite_none_right_eq_some.mp h
    obtain rfl := Option.some.inj h
    exact ⟨header, t, v, rfl, hv, hle.1, rfl, rfl, rfl⟩

/-- **Frames show where they end.** -/
def framing : Framing Frame UInt8 where
  enc := Frame.bytes
  dec := decodeFrame
  dec_enc := decodeFrame_bytes
  dec_append := by
    rintro bs ⟨f, rest⟩ h cs
    obtain ⟨header, t, v, rfl, hv, hle, hheader, hbody, hrest⟩ := decodeFrame_eq_some h
    have hle' : v.1 ≤ (v.2 ++ cs).length := by
      rw [List.length_append]
      omega
    have hshort : v.1 < 2 ^ 28 := by
      have := f.short
      rwa [hbody, List.length_take_of_le hle] at this
    rw [List.cons_append, decodeFrame, VarInt.decode_append hv, Option.bind_some,
      dif_pos ⟨hle', hshort⟩]
    obtain ⟨fheader, fbody, fshort⟩ := f
    obtain rfl : fheader = header := hheader
    obtain rfl : fbody = v.2.take v.1 := hbody
    obtain rfl : rest = v.2.drop v.1 := hrest
    simp only [List.take_append_of_le_length hle, List.drop_append_of_le_length hle]
  length_of_dec := by
    rintro bs ⟨f, rest⟩ h
    obtain ⟨header, t, v, rfl, hv, hle, -, -, rfl⟩ := decodeFrame_eq_some h
    have := VarInt.length_of_decode hv
    rw [List.length_drop, List.length_cons]
    omega

/-- The bytes of a packet are the bytes of a frame. -/
def OutPacket.IsFrame (p : OutPacket) (f : Frame) : Prop := p.data = f.bytes

theorem OutPacket.IsFrame.release {p : OutPacket} {f : Frame} (h : p.IsFrame f) :
    p.release.IsFrame f := h

/-- The flag is set in the frame. -/
theorem OutPacket.IsFrame.setDup {p : OutPacket} {f : Frame} (h : p.IsFrame f) :
    p.setDup.IsFrame { f with header := f.header ||| HeaderFlag.PUBLISH_DUP } := by
  have hdata : p.data = f.header :: (VarInt.encode f.body.length ++ f.body) := h
  show p.data.modifyHead _ = _
  rw [hdata]
  rfl

/-- **When a packet is a frame**: its remaining length is the length of the rest. -/
theorem outPacket_isFrame {type flags : UInt8} {remainingLength : UInt32} {rest : List UInt8}
    {released : Bool} {packetId : UInt16} (h : remainingLength.toNat = rest.length)
    (hshort : rest.length < 2 ^ 28) :
    (outPacket type flags remainingLength rest released packetId).IsFrame
      ⟨type <<< 4 ||| flags, rest, hshort⟩ := by
  show fixedHeader _ _ _ ++ rest = _
  rw [fixedHeader, encodeRemainingLength_eq, h, List.cons_append]
  rfl

/-! ### Reading a field -/

/-- Reads two bytes. -/
def read16 : List UInt8 → Option (UInt16 × List UInt8)
  | msb :: lsb :: bs => some (msb.toUInt16 <<< 8 ||| lsb.toUInt16, bs)
  | _ => none

/-- Reads a string with its length in front. -/
def readText (bs : List UInt8) : Option (List UInt8 × List UInt8) :=
  (read16 bs).bind fun r =>
    if r.1.toNat ≤ r.2.length then some (r.2.take r.1.toNat, r.2.drop r.1.toNat) else none

/-- Reads a string with its length in front, if it is there. -/
def readTextIf (present : Bool) (bs : List UInt8) : Option (Option (List UInt8) × List UInt8) :=
  if present then (readText bs).map fun r => (some r.1, r.2) else some (none, bs)

theorem read16_twoBytes (n : UInt16) (bs : List UInt8) :
    read16 (twoBytes n ++ bs) = some (n, bs) := by
  have hn := n.toNat_lt
  have hmsb : ((n >>> 8).toUInt8.toUInt16 <<< 8).toNat = 2 ^ 8 * (n.toNat / 256) := by
    rw [UInt16.toNat_shiftLeft, UInt8.toNat_toUInt16, UInt16.toNat_toUInt8,
      UInt16.toNat_shiftRight]
    simp only [UInt16.reduceToNat, Nat.reduceMod, Nat.shiftLeft_eq, Nat.shiftRight_eq_div_pow]
    omega
  have hlsb : ((n &&& 0xFF).toUInt8.toUInt16).toNat = n.toNat % 256 := by
    rw [UInt8.toNat_toUInt16, UInt16.toNat_toUInt8, UInt16.toNat_and]
    have hand := Nat.and_two_pow_sub_one_eq_mod n.toNat 8
    have hlow : n.toNat &&& 255 = n.toNat % 256 := hand
    simp only [UInt16.reduceToNat, hlow]
    omega
  have hor := Nat.two_pow_add_eq_or_of_lt (i := 8) (Nat.mod_lt n.toNat (by decide : 0 < 256))
    (n.toNat / 256)
  show some (_ ||| _, bs) = _
  refine congrArg (fun m => some (m, bs)) (UInt16.toNat_inj.mp ?_)
  rw [UInt16.toNat_or, hmsb, hlsb, ← hor, Nat.mul_comm]
  exact Nat.div_add_mod' n.toNat 256

/-- A string that goes into a packet as it is: no `NUL` in it, and not too long for its
length to be written. -/
structure Sendable (s : List UInt8) : Prop where
  noNul : 0 ∉ s
  short : s.length < 2 ^ 16

theorem strlen_of_noNul {s : List UInt8} (h : 0 ∉ s) : strlen s = s.length := by
  have hall : ∀ b ∈ s, decide (b ≠ 0) = true := fun b hb => decide_eq_true fun h0 => h (h0 ▸ hb)
  rw [strlen, ← List.append_nil s, List.takeWhile_append_of_pos (by simpa using hall)]
  rfl

theorem Sendable.toNat_length16 {s : List UInt8} (h : Sendable s) :
    (length16 s).toNat = s.length := by
  rw [length16, strlen_of_noNul h.noNul]
  exact Nat.mod_eq_of_lt h.short

theorem Sendable.lengthPrefixed_eq {s : List UInt8} (h : Sendable s) :
    lengthPrefixed s = twoBytes (length16 s) ++ s := by
  rw [lengthPrefixed, h.toNat_length16, List.take_length]

theorem Sendable.length_lengthPrefixed {s : List UInt8} (h : Sendable s) :
    (lengthPrefixed s).length = 2 + s.length := by
  rw [h.lengthPrefixed_eq, List.length_append]
  rfl

/-- **A string is read back.** -/
theorem Sendable.readText {s : List UInt8} (h : Sendable s) (bs : List UInt8) :
    Mqtt.readText (lengthPrefixed s ++ bs) = some (s, bs) := by
  rw [h.lengthPrefixed_eq, List.append_assoc, Mqtt.readText, read16_twoBytes, Option.bind_some,
    h.toNat_length16, if_pos (by simp)]
  simp only [List.take_left, List.drop_left]

/-! ### Reading a packet -/

/-- The will that a server is told. -/
structure WillMessage where
  topic : List UInt8
  payload : List UInt8
  qos : UInt8
  retain : Bool

/-- What a CONNECT says. -/
structure ConnectRequest where
  cleanSession : Bool
  keepAlive : UInt16
  clientId : List UInt8
  will : Option WillMessage
  username : Option (List UInt8)
  password : Option (List UInt8)

/-- What a PUBLISH says. -/
structure Publication where
  dup : Bool
  retain : Bool
  qos : UInt8
  topic : List UInt8
  packetId : Option UInt16
  payload : List UInt8

/-- What a client can say. -/
inductive ClientPacket where
  /-- CONNECT. -/
  | connect (r : ConnectRequest)
  /-- PUBLISH. -/
  | publish (p : Publication)
  /-- PUBACK, PUBREC, PUBREL or PUBCOMP. -/
  | ack (packetType : UInt8) (packetId : UInt16)
  /-- SUBSCRIBE, for one topic. -/
  | subscribe (packetId : UInt16) (topic : List UInt8) (qos : UInt8)
  /-- UNSUBSCRIBE, for one topic. -/
  | unsubscribe (packetId : UInt16) (topic : List UInt8)
  /-- PINGREQ. -/
  | pingReq
  /-- DISCONNECT. -/
  | disconnect

/-- Reads the will of a CONNECT, if there is one. -/
def readWill (flags : UInt8) (bs : List UInt8) : Option (Option WillMessage × List UInt8) :=
  let qos := (flags >>> 3) &&& 3
  let retain : Bool := flags &&& ConnectFlag.WILL_RETAIN ≠ 0
  if flags &&& ConnectFlag.WILL ≠ 0 then
    if qos = 3 then none
    else
      (readText bs).bind fun topic =>
        (readText topic.2).map fun payload => (some ⟨topic.1, payload.1, qos, retain⟩, payload.2)
  -- without a will, its flags are zero
  else if qos ≠ 0 ∨ retain then none else some (none, bs)

/-- Reads a CONNECT. -/
def readConnect (body : List UInt8) : Option ConnectRequest :=
  (readText body).bind fun name =>
    match name.2 with
    | level :: flags :: bs =>
      if name.1 ≠ [77, 81, 84, 84] ∨ level ≠ 4 ∨ flags &&& 1 ≠ 0 then none
      else
        let hasUsername : Bool := flags &&& ConnectFlag.USERNAME ≠ 0
        let hasPassword : Bool := flags &&& ConnectFlag.PASSWORD ≠ 0
        (read16 bs).bind fun keepAlive =>
          (readText keepAlive.2).bind fun clientId =>
            (readWill flags clientId.2).bind fun will =>
              (readTextIf hasUsername will.2).bind fun username =>
                (readTextIf hasPassword username.2).bind fun password =>
                  -- no password without a user name, and nothing behind
                  if password.2 ≠ [] ∨ hasPassword ∧ ¬hasUsername then none
                  else
                    some ⟨flags &&& ConnectFlag.CLEAN_SESSION ≠ 0, keepAlive.1, clientId.1, will.1,
                      username.1, password.1⟩
    | _ => none

/-- Reads a PUBLISH. -/
def readPublish (header : UInt8) (body : List UInt8) : Option Publication :=
  let dup : Bool := header &&& HeaderFlag.PUBLISH_DUP ≠ 0
  let retain : Bool := header &&& HeaderFlag.PUBLISH_RETAIN ≠ 0
  let qos := (header &&& 0x06) >>> 1
  (readText body).bind fun topic =>
    if qos = 0 then some ⟨dup, retain, qos, topic.1, none, topic.2⟩
    else if qos = 3 then none
    else (read16 topic.2).bind fun packetId =>
      if packetId.1 = 0 then none
      else some ⟨dup, retain, qos, topic.1, some packetId.1, packetId.2⟩

/-- Reads a body that is a packet identifier. -/
def readAck (packetType : UInt8) (body : List UInt8) : Option ClientPacket :=
  (read16 body).bind fun packetId =>
    if packetId.2 = [] then some (.ack packetType packetId.1) else none

/-- Reads a SUBSCRIBE for one topic. -/
def readSubscribe (body : List UInt8) : Option ClientPacket :=
  (read16 body).bind fun packetId =>
    (readText packetId.2).bind fun topic =>
      match topic.2 with
      | [qos] =>
        if packetId.1 = 0 ∨ qos > 2 then none else some (.subscribe packetId.1 topic.1 qos)
      | _ => none

/-- Reads an UNSUBSCRIBE for one topic. -/
def readUnsubscribe (body : List UInt8) : Option ClientPacket :=
  (read16 body).bind fun packetId =>
    (readText packetId.2).bind fun topic =>
      if packetId.1 = 0 ∨ topic.2 ≠ [] then none else some (.unsubscribe packetId.1 topic.1)

/-- Reads the body of a packet that is not a PUBLISH. -/
def readBody (body : List UInt8) : UInt8 → Option ClientPacket
  | 0x10 => (readConnect body).map .connect
  | 0x40 => readAck PacketType.PUBACK body
  | 0x50 => readAck PacketType.PUBREC body
  | 0x62 => readAck PacketType.PUBREL body
  | 0x70 => readAck PacketType.PUBCOMP body
  | 0x82 => readSubscribe body
  | 0xA2 => readUnsubscribe body
  | 0xC0 => if body = [] then some .pingReq else none
  | 0xE0 => if body = [] then some .disconnect else none
  | _ => none

/-- **What a server reads in a frame.** -/
def Frame.read (f : Frame) : Option ClientPacket :=
  if f.header >>> 4 = PacketType.PUBLISH then (readPublish f.header f.body).map .publish
  else readBody f.body f.header

theorem Frame.read_of_ne {header : UInt8} (h : header >>> 4 ≠ PacketType.PUBLISH)
    (body : List UInt8) (hshort : body.length < 2 ^ 28) :
    Frame.read ⟨header, body, hshort⟩ = readBody body header := if_neg h

/-! ### PUBLISH -/

/-- What a pointer and a length stand for: as many bytes, or the string it points to if
the length is zero, or nothing if it is null. -/
def pointed (payload : Option (List UInt8)) (length : ℕ) : List UInt8 :=
  match payload with
  | some buffer => if length = 0 then buffer.takeWhile (· ≠ 0) else buffer.take length
  | none => []

/-- A length is given only for bytes that are there. -/
def Backed (payload : Option (List UInt8)) (length : ℕ) : Prop :=
  length ≤ (payload.getD []).length

theorem take_length_takeWhile (p : UInt8 → Bool) (s : List UInt8) :
    s.take (s.takeWhile p).length = s.takeWhile p :=
  (List.prefix_iff_eq_take.mp (List.takeWhile_prefix p)).symm

/-- The length, measured if it is not given. -/
def measuredLength (payload : Option (List UInt8)) (length : ℕ) : ℕ :=
  match payload with
  | some buffer => if length = 0 then strlen buffer else length
  | none => length

theorem length_pointed {payload : Option (List UInt8)} {length : ℕ} (h : Backed payload length) :
    (pointed payload length).length = measuredLength payload length := by
  cases payload with
  | none => exact (Nat.le_zero.mp h).symm
  | some buffer =>
    simp only [pointed, measuredLength]
    split
    · rfl
    · exact List.length_take_of_le h

theorem take_length_pointed (buffer : List UInt8) (length : ℕ) :
    buffer.take (pointed (some buffer) length).length = pointed (some buffer) length := by
  simp only [pointed]
  split
  · exact take_length_takeWhile _ _
  · rw [List.length_take]
    exact List.take_eq_take_min.symm

/-- **A message that can be sent.** -/
structure Message.Valid (m : Message) : Prop where
  topic : Sendable m.topic
  qos : m.qos = 0 ∨ m.qos = 1 ∨ m.qos = 2
  backed : Backed m.payload m.length.toNat
  short : 4 + m.topic.length + (pointed m.payload m.length.toNat).length < 2 ^ 28

/-- What the caller wants to be published. -/
def Message.content (m : Message) : List UInt8 := pointed m.payload m.length.toNat

namespace Message

variable {m : Message}

theorem Valid.toNat_payloadLength (h : m.Valid) : m.payloadLength.toNat = m.content.length := by
  have hlength := length_pointed h.backed
  have hshort := h.short
  have hzero : m.length.toNat = 0 ↔ m.length = 0 := UInt32.toNat_inj (b := 0)
  rw [payloadLength, content, hlength]
  rw [hlength] at hshort
  cases hp : m.payload with
  | none => rfl
  | some buffer =>
    simp only [hp, measuredLength, hzero] at hshort ⊢
    split
    · rename_i h0
      rw [if_pos h0] at hshort
      exact Nat.mod_eq_of_lt (by omega)
    · rfl

theorem Valid.bytes_eq (h : m.Valid) : m.bytes = m.content := by
  have hlength := h.toNat_payloadLength
  rw [bytes, hlength, content]
  cases m.payload with
  | none => rfl
  | some buffer => exact take_length_pointed buffer _

theorem Valid.toNat_remainingLength (h : m.Valid) :
    m.remainingLength.toNat =
      2 + m.topic.length + m.content.length + if m.qos ≠ 0 then 2 else 0 := by
  have htopic := h.topic.toNat_length16
  have hpayload := h.toNat_payloadLength
  have hshort := h.short
  have hid : (if m.qos ≠ 0 then (2 : UInt32) else 0).toNat = if m.qos ≠ 0 then 2 else 0 := by
    split <;> rfl
  rw [content] at hpayload ⊢
  simp only [remainingLength, UInt32.toNat_add, UInt16.toNat_toUInt32, htopic, hpayload, hid]
  split <;> simp only [UInt32.reduceToNat] <;> omega

theorem Valid.length_body (h : m.Valid) (packetId : UInt16) :
    (m.body packetId).length = m.remainingLength.toNat := by
  rw [h.toNat_remainingLength, body, List.length_append, List.length_append,
    h.topic.length_lengthPrefixed, h.bytes_eq]
  split
  · rw [show (twoBytes packetId).length = 2 from rfl]
    omega
  · rw [List.length_nil]
    omega

/-- The first byte of a PUBLISH, the first time or again. -/
def header (m : Message) (dup : Bool) : UInt8 :=
  PacketType.PUBLISH <<< 4 ||| publishFlags m.qos m.retain |||
    if dup then HeaderFlag.PUBLISH_DUP else 0

theorem header_false : m.header false = PacketType.PUBLISH <<< 4 ||| publishFlags m.qos m.retain :=
  UInt8.or_zero

/-- What the first byte says can be told apart. -/
theorem header_bits (hqos : m.qos = 0 ∨ m.qos = 1 ∨ m.qos = 2) (dup : Bool) :
    m.header dup >>> 4 = PacketType.PUBLISH ∧
      decide (m.header dup &&& HeaderFlag.PUBLISH_DUP ≠ 0) = dup ∧
      decide (m.header dup &&& HeaderFlag.PUBLISH_RETAIN ≠ 0) = m.retain ∧
      (m.header dup &&& 0x06) >>> 1 = m.qos := by
  rw [header]
  generalize m.retain = retain
  rcases hqos with hq | hq | hq <;> rw [hq] <;> cases retain <;> cases dup <;> decide

/-- The frame of a message, the first time or again. -/
def frame (m : Message) (h : m.Valid) (packetId : UInt16) (dup : Bool) : Frame where
  header := m.header dup
  body := m.body packetId
  short := by
    have hshort := h.short
    rw [h.length_body, h.toNat_remainingLength, content]
    split <;> omega

/-- A message is sent as its frame. -/
theorem isFrame_publishOutPacket (h : m.Valid) (packetId : UInt16) :
    (publishOutPacket m packetId).IsFrame (m.frame h packetId false) := by
  have hframe : (publishOutPacket m packetId).IsFrame
      ⟨_, m.body packetId, (m.frame h packetId false).short⟩ :=
    outPacket_isFrame (h.length_body packetId).symm _
  rwa [← header_false] at hframe

/-- **A server reads what was meant.** -/
theorem read_frame (h : m.Valid) {packetId : UInt16} (hid : packetId ≠ 0) (dup : Bool) :
    (m.frame h packetId dup).read =
      some (.publish ⟨dup, m.retain, m.qos, m.topic, if m.qos = 0 then none else some packetId,
        m.content⟩) := by
  obtain ⟨htype, hdup, hretain, hqos⟩ := header_bits h.qos dup
  have hheader : (m.frame h packetId dup).header = m.header dup := rfl
  have hbody : (m.frame h packetId dup).body = lengthPrefixed m.topic ++
      ((if m.qos ≠ 0 then twoBytes packetId else []) ++ m.content) := by
    show m.body packetId = _
    rw [body, h.bytes_eq, List.append_assoc]
  have hthree : m.qos ≠ 3 := by
    rcases h.qos with hq | hq | hq <;> rw [hq] <;> decide
  rw [Frame.read, hheader, if_pos htype, readPublish, hbody, h.topic.readText, Option.bind_some]
  simp only [hdup, hretain, hqos]
  by_cases hzero : m.qos = 0
  · simp [hzero]
  · simp [hzero, hthree, hid, read16_twoBytes]

/-- What the caller of `publish` wants the server to get, under the identifier that it is told.
A message that is not acknowledged is sent without one. -/
def publication (m : Message) (packetId : UInt16) : Publication where
  dup := false
  retain := m.retain
  qos := m.qos
  topic := m.topic
  packetId := if m.qos = 0 then none else some packetId
  payload := m.content

end Message

/-- What is left of a PUBLISH without the flag that it has been sent before. -/
def Publication.plain (r : Publication) : Publication := { r with dup := false }

/-! ### CONNECT -/

/-- **A will that can be sent.** -/
structure Will.Valid (w : Will) : Prop where
  topic : Sendable w.topic
  qos : w.qos = 0 ∨ w.qos = 1 ∨ w.qos = 2
  backed : Backed w.payload w.payloadLength.toNat
  short : (pointed w.payload w.payloadLength.toNat).length < 2 ^ 16

/-- What the caller wants to be published as the will. -/
def Will.content (w : Will) : List UInt8 := pointed w.payload w.payloadLength.toNat

/-- **Settings that can be sent.** -/
structure Settings.Valid (s : Settings) : Prop where
  clientId : Sendable s.clientId
  username : ∀ u ∈ s.username, Sendable u
  password : ∀ p ∈ s.password, Sendable p
  will : ∀ w ∈ s.will, w.Valid
  -- the standard has no password without a user name
  named : s.password.isSome → s.username.isSome

namespace Will

variable {w : Will}

theorem Valid.toNat_length (h : w.Valid) : w.length.toNat = w.content.length := by
  have hlength := length_pointed h.backed
  have hshort := h.short
  have hzero : w.payloadLength.toNat = 0 ↔ w.payloadLength = 0 :=
    UInt16.toNat_inj (b := 0)
  rw [length, content, hlength]
  rw [hlength] at hshort
  cases hp : w.payload with
  | none => rfl
  | some buffer =>
    simp only [hp, measuredLength, hzero] at hshort ⊢
    split
    · rename_i h0
      rw [if_pos h0] at hshort
      exact Nat.mod_eq_of_lt hshort
    · rfl

theorem Valid.bytes_eq (h : w.Valid) : w.bytes = w.content := by
  have hlength := h.toNat_length
  rw [bytes, hlength, content]
  cases w.payload with
  | none => rfl
  | some buffer => exact take_length_pointed buffer _

theorem Valid.length_text (h : w.Valid) : w.text.length = 4 + w.topic.length + w.length.toNat := by
  rw [text, List.length_append, List.length_append, h.topic.length_lengthPrefixed, h.bytes_eq,
    h.toNat_length, show (twoBytes w.length).length = 2 from rfl]
  omega

/-- The payload of a will is sent like a string. -/
theorem Valid.readText_bytes (h : w.Valid) (bs : List UInt8) :
    readText (twoBytes w.length ++ (w.bytes ++ bs)) = some (w.content, bs) := by
  rw [readText, read16_twoBytes, Option.bind_some, h.toNat_length, h.bytes_eq,
    if_pos (by simp)]
  simp only [List.take_left, List.drop_left]

/-- What a packet says of a will. -/
def message (w : Will) : WillMessage := ⟨w.topic, w.content, w.qos, w.retain⟩

end Will

/-- The flags of a CONNECT, with the will as its quality of service and its retain flag. -/
def connectFlagsOf (cleanSession username password : Bool) (will : Option (UInt8 × Bool)) : UInt8 :=
  sessionFlags cleanSession username password |||
    match will with
    | some w => willFlags w.1 w.2
    | none => 0

/-- What the flags say can be told apart. -/
theorem connectFlagsOf_bits (cleanSession username password : Bool) (will : Option (UInt8 × Bool))
    (hqos : ∀ w ∈ will, w.1 = 0 ∨ w.1 = 1 ∨ w.1 = 2) :
    let flags := connectFlagsOf cleanSession username password will
    decide (flags &&& ConnectFlag.CLEAN_SESSION ≠ 0) = cleanSession ∧
      decide (flags &&& ConnectFlag.USERNAME ≠ 0) = username ∧
      decide (flags &&& ConnectFlag.PASSWORD ≠ 0) = password ∧
      decide (flags &&& ConnectFlag.WILL ≠ 0) = will.isSome ∧
      decide (flags &&& ConnectFlag.WILL_RETAIN ≠ 0) = (will.map Prod.snd).getD false ∧
      (flags >>> 3) &&& 3 = (will.map Prod.fst).getD 0 ∧ flags &&& 1 = 0 := by
  rcases will with _ | ⟨qos, retain⟩
  · cases cleanSession <;> cases username <;> cases password <;> decide
  · rcases hqos _ rfl with hq | hq | hq <;> obtain rfl : qos = _ := hq <;>
      cases retain <;> cases cleanSession <;> cases username <;> cases password <;> decide

namespace Settings

variable {s : Settings}

/-- The flags of a CONNECT. -/
theorem connectFlags_eq (s : Settings) :
    s.connectFlags = connectFlagsOf s.cleanSession s.username.isSome s.password.isSome
      (s.will.map fun w => (w.qos, w.retain)) := by
  rw [connectFlags]
  cases s.will <;> rfl

theorem readTextIf_lengthPrefixed {o : Option (List UInt8)} (h : ∀ u ∈ o, Sendable u)
    (bs : List UInt8) :
    readTextIf o.isSome ((o.map lengthPrefixed).getD [] ++ bs) = some (o, bs) := by
  cases o with
  | none => rfl
  | some u =>
    show (readText (lengthPrefixed u ++ bs)).map _ = _
    rw [(h u rfl).readText]
    rfl

/-- The will is read back. -/
theorem readWill_text (h : s.Valid) (bs : List UInt8) :
    readWill s.connectFlags ((s.will.map Will.text).getD [] ++ bs) =
      some (s.will.map Will.message, bs) := by
  obtain ⟨-, -, -, hwill, hretain, hqos, -⟩ := connectFlagsOf_bits s.cleanSession
    s.username.isSome s.password.isSome (s.will.map fun w => (w.qos, w.retain)) (by
      intro w hw
      obtain ⟨w', hw', rfl⟩ := Option.map_eq_some_iff.mp hw
      exact (h.will w' hw').qos)
  rw [← connectFlags_eq] at hwill hretain hqos
  cases hs : s.will with
  | none =>
    rw [hs] at hwill hretain hqos
    have hflag : ¬(s.connectFlags &&& ConnectFlag.WILL ≠ 0) := of_decide_eq_false hwill
    have hqos0 : (s.connectFlags >>> 3) &&& 3 = 0 := hqos
    rw [readWill, if_neg hflag, hqos0, hretain]
    rfl
  | some w =>
    have hw := h.will w hs
    rw [hs] at hwill hretain hqos
    have hflag : s.connectFlags &&& ConnectFlag.WILL ≠ 0 := of_decide_eq_true hwill
    have hqos' : (s.connectFlags >>> 3) &&& 3 = w.qos := hqos
    have hretain' : decide (s.connectFlags &&& ConnectFlag.WILL_RETAIN ≠ 0) = w.retain := hretain
    have hthree : w.qos ≠ 3 := by
      rcases hw.qos with hq | hq | hq <;> rw [hq] <;> decide
    show readWill s.connectFlags (w.text ++ bs) = some (some w.message, bs)
    rw [readWill, if_pos hflag, hqos', hretain', if_neg hthree, Will.text, List.append_assoc,
      List.append_assoc, hw.topic.readText, Option.bind_some, hw.readText_bytes]
    rfl

/-- The length of a string that may be missing, as it is computed and as it is. -/
theorem toNat_prefixed {o : Option (List UInt8)} (h : ∀ u ∈ o, Sendable u) :
    ((o.map fun u => 2 + (length16 u).toUInt32).getD 0).toNat =
        ((o.map lengthPrefixed).getD []).length ∧
      ((o.map lengthPrefixed).getD []).length < 2 ^ 17 := by
  cases o with
  | none => exact ⟨rfl, by decide⟩
  | some u =>
    have hu := h u rfl
    have hshort := hu.short
    simp only [Option.map_some, Option.getD_some, hu.length_lengthPrefixed, UInt32.toNat_add,
      UInt16.toNat_toUInt32, hu.toNat_length16, UInt32.reduceToNat]
    omega

/-- The length of a will that may be missing, as it is computed and as it is. -/
theorem toNat_will {o : Option Will} (h : ∀ w ∈ o, w.Valid) :
    ((o.map fun w => 2 + (length16 w.topic).toUInt32 + 2 + w.length.toUInt32).getD 0).toNat =
        ((o.map Will.text).getD []).length ∧
      ((o.map Will.text).getD []).length < 2 ^ 18 := by
  cases o with
  | none => exact ⟨rfl, by decide⟩
  | some w =>
    have hw := h w rfl
    have htopic := hw.topic.short
    have hlength := w.length.toNat_lt
    simp only [Option.map_some, Option.getD_some, hw.length_text, UInt32.toNat_add,
      UInt16.toNat_toUInt32, hw.topic.toNat_length16, UInt32.reduceToNat]
    omega

theorem Valid.length_body (h : s.Valid) :
    s.body.length = s.remainingLength.toNat ∧ s.body.length < 2 ^ 28 := by
  obtain ⟨hwill, hwill'⟩ := toNat_will h.will
  obtain ⟨huser, huser'⟩ := toNat_prefixed h.username
  obtain ⟨hpass, hpass'⟩ := toNat_prefixed h.password
  have hid := h.clientId.short
  have hlength : s.body.length = 12 + s.clientId.length + ((s.will.map Will.text).getD []).length +
      ((s.username.map lengthPrefixed).getD []).length +
      ((s.password.map lengthPrefixed).getD []).length := by
    simp only [body, List.length_append, h.clientId.length_lengthPrefixed]
    simp only [twoBytes, List.length_cons, List.length_nil]
    omega
  rw [remainingLength, hlength]
  simp only [UInt32.toNat_add, UInt16.toNat_toUInt32, h.clientId.toNat_length16, hwill, huser,
    hpass, UInt32.reduceToNat]
  omega

/-- The frame of the packet. -/
def frame (s : Settings) (h : s.Valid) : Frame := ⟨0x10, s.body, h.length_body.2⟩

/-- The settings are sent as their frame. -/
theorem isFrame_connectOutPacket (h : s.Valid) : (connectOutPacket s).IsFrame (s.frame h) :=
  outPacket_isFrame h.length_body.1.symm _

/-- **A server is told what the setters left.** -/
theorem read_frame (h : s.Valid) :
    (s.frame h).read =
      some (.connect ⟨s.cleanSession, s.keepAlive, s.clientId, s.will.map Will.message, s.username,
        s.password⟩) := by
  obtain ⟨hclean, huser, hpass, -, -, -, hreserved⟩ := connectFlagsOf_bits s.cleanSession
    s.username.isSome s.password.isSome (s.will.map fun w => (w.qos, w.retain)) (by
      intro w hw
      obtain ⟨w', hw', rfl⟩ := Option.map_eq_some_iff.mp hw
      exact (h.will w' hw').qos)
  rw [← connectFlags_eq] at hclean huser hpass hreserved
  have hname : Sendable [77, 81, 84, 84] := ⟨by decide, by decide⟩
  have hbody : s.body = lengthPrefixed [77, 81, 84, 84] ++ 4 :: s.connectFlags ::
      (twoBytes s.keepAlive ++ (lengthPrefixed s.clientId ++ ((s.will.map Will.text).getD [] ++
        ((s.username.map lengthPrefixed).getD [] ++
          ((s.password.map lengthPrefixed).getD [] ++ []))))) := by
    have hpre : lengthPrefixed [77, 81, 84, 84] = twoBytes 4 ++ [77, 81, 84, 84] := by decide
    rw [hpre]
    simp [body]
  have hnamed : ¬(s.password.isSome = true ∧ ¬s.username.isSome = true) := fun hn =>
    hn.2 (h.named hn.1)
  refine (Frame.read_of_ne (by decide) _ _).trans ?_
  show (readConnect s.body).map _ = _
  rw [hbody, readConnect, hname.readText, Option.bind_some]
  simp only [hclean, huser, hpass]
  rw [if_neg (by simp [hreserved]), read16_twoBytes, Option.bind_some, h.clientId.readText,
    Option.bind_some, readWill_text h, Option.bind_some, readTextIf_lengthPrefixed h.username,
    Option.bind_some, readTextIf_lengthPrefixed h.password, Option.bind_some,
    if_neg (by rintro (hn | hn); exacts [hn rfl, hnamed hn])]
  rfl

end Settings

/-! ### The others -/

/-- The frame of a SUBSCRIBE. -/
def subscribeFrame {topic : List UInt8} (h : Sendable topic) (qos : UInt8) (packetId : UInt16) :
    Frame where
  header := 0x82
  body := twoBytes packetId ++ lengthPrefixed topic ++ [qos]
  short := by
    have := h.short
    rw [List.length_append, List.length_append, h.length_lengthPrefixed]
    show 2 + (2 + topic.length) + 1 < _
    omega

theorem isFrame_subscribeOutPacket {topic : List UInt8} (h : Sendable topic) (qos : UInt8)
    (packetId : UInt16) :
    (subscribeOutPacket topic qos packetId).IsFrame (subscribeFrame h qos packetId) := by
  have hshort := h.short
  refine outPacket_isFrame ?_ (subscribeFrame h qos packetId).short
  rw [subscribeFrame, List.length_append, List.length_append, h.length_lengthPrefixed]
  simp only [UInt32.toNat_add, UInt16.toNat_toUInt32, h.toNat_length16, UInt32.reduceToNat]
  show _ = 2 + (2 + topic.length) + 1
  omega

/-- A server reads the subscription. -/
theorem read_subscribeFrame {topic : List UInt8} (h : Sendable topic) {qos : UInt8}
    (hqos : qos ≤ 2) {packetId : UInt16} (hid : packetId ≠ 0) :
    (subscribeFrame h qos packetId).read = some (.subscribe packetId topic qos) := by
  have hok : ¬(packetId = 0 ∨ qos > 2) := by
    rintro (h0 | h2)
    exacts [hid h0, absurd h2 (UInt8.not_lt.mpr hqos)]
  refine (Frame.read_of_ne (by decide) _ _).trans ?_
  show readSubscribe (_ ++ _ ++ _) = _
  rw [readSubscribe, List.append_assoc, read16_twoBytes, Option.bind_some, h.readText,
    Option.bind_some]
  exact if_neg hok

/-- The frame of an UNSUBSCRIBE. -/
def unsubscribeFrame {topic : List UInt8} (h : Sendable topic) (packetId : UInt16) : Frame where
  header := 0xA2
  body := twoBytes packetId ++ lengthPrefixed topic
  short := by
    have := h.short
    rw [List.length_append, h.length_lengthPrefixed]
    show 2 + (2 + topic.length) < _
    omega

theorem isFrame_unsubscribeOutPacket {topic : List UInt8} (h : Sendable topic)
    (packetId : UInt16) :
    (unsubscribeOutPacket topic packetId).IsFrame (unsubscribeFrame h packetId) := by
  have hshort := h.short
  refine outPacket_isFrame ?_ (unsubscribeFrame h packetId).short
  rw [unsubscribeFrame, List.length_append, h.length_lengthPrefixed]
  simp only [UInt32.toNat_add, UInt16.toNat_toUInt32, h.toNat_length16, UInt32.reduceToNat]
  show _ = 2 + (2 + topic.length)
  omega

/-- A server reads the end of the subscription. -/
theorem read_unsubscribeFrame {topic : List UInt8} (h : Sendable topic) {packetId : UInt16}
    (hid : packetId ≠ 0) :
    (unsubscribeFrame h packetId).read = some (.unsubscribe packetId topic) := by
  refine (Frame.read_of_ne (by decide) _ _).trans ?_
  show readUnsubscribe (_ ++ _) = _
  rw [readUnsubscribe, read16_twoBytes, Option.bind_some, ← List.append_nil (lengthPrefixed topic),
    h.readText, Option.bind_some]
  exact if_neg (by simp [hid])

/-- The frame of an acknowledgement. -/
def Ack.frame (a : Ack) (packetId : UInt16) : Frame :=
  ⟨a.packetType <<< 4 ||| a.headerFlag, twoBytes packetId, show 2 < 2 ^ 28 by decide⟩

theorem Ack.isFrame_pubAckOutPacket (a : Ack) (packetId : UInt16) :
    (pubAckOutPacket (a.pending packetId)).IsFrame (a.frame packetId) := by
  have hlength : VarInt.encode 2 = [2] := VarInt.encode_of_lt (by decide)
  show _ = _ :: (VarInt.encode 2 ++ _)
  rw [hlength]
  rfl

/-- A server reads the acknowledgement. -/
theorem Ack.read_frame (a : Ack) (packetId : UInt16) :
    (a.frame packetId).read = some (.ack a.packetType packetId) := by
  have hid : read16 (twoBytes packetId) = some (packetId, []) := by
    rw [← List.append_nil (twoBytes packetId), read16_twoBytes]
  have hread : (a.frame packetId).read = readAck a.packetType (twoBytes packetId) := by
    cases a <;> exact Frame.read_of_ne (by decide) _ _
  rw [hread, readAck, hid]
  rfl

/-- The two packets that are nothing but a header. -/
theorem isFrame_pingReqOutPacket : pingReqOutPacket.IsFrame ⟨0xC0, [], by decide⟩ := by
  show _ = _ :: (VarInt.encode 0 ++ [])
  rw [VarInt.encode_of_lt (by decide)]
  rfl

theorem isFrame_disconnOutPacket : disconnOutPacket.IsFrame ⟨0xE0, [], by decide⟩ := by
  show _ = _ :: (VarInt.encode 0 ++ [])
  rw [VarInt.encode_of_lt (by decide)]
  rfl

end Mqtt

end SentinelEdge
