import SentinelEdge.Device
import SentinelEdge.Library.VarInt

/-!
# The packets of the MQTT client

`AsyncMqttClient` writes a packet into a byte array when it is created, and sends the
array later, some bytes at a time. What the queue asks a packet for – its type, its
quality of service – it reads back from the array.

This file has the packets of `Packets/Out` of the client's source, one definition for
each class, and `Helpers.hpp`. A `const char *` that the source measures with `strlen`
is the list of the characters before its `NUL`.

An array has at least two bytes (`SentinelEdge.Mqtt.OutPacket.two_le`), which is what
`packetType` and `qos` read without looking.
-/

namespace SentinelEdge

namespace Mqtt

/-! ### Constants -/

namespace PacketType

abbrev CONNECT : UInt8 := 1
abbrev CONNACK : UInt8 := 2
abbrev PUBLISH : UInt8 := 3
abbrev PUBACK : UInt8 := 4
abbrev PUBREC : UInt8 := 5
abbrev PUBREL : UInt8 := 6
abbrev PUBCOMP : UInt8 := 7
abbrev SUBSCRIBE : UInt8 := 8
abbrev SUBACK : UInt8 := 9
abbrev UNSUBSCRIBE : UInt8 := 10
abbrev UNSUBACK : UInt8 := 11
abbrev PINGREQ : UInt8 := 12
abbrev PINGRESP : UInt8 := 13
abbrev DISCONNECT : UInt8 := 14

end PacketType

namespace HeaderFlag

abbrev CONNECT_RESERVED : UInt8 := 0x00
abbrev PUBLISH_DUP : UInt8 := 0x08
abbrev PUBLISH_QOS0 : UInt8 := 0x00
abbrev PUBLISH_QOS1 : UInt8 := 0x02
abbrev PUBLISH_QOS2 : UInt8 := 0x04
abbrev PUBLISH_RETAIN : UInt8 := 0x01
abbrev PUBACK_RESERVED : UInt8 := 0x00
abbrev PUBREC_RESERVED : UInt8 := 0x00
abbrev PUBREL_RESERVED : UInt8 := 0x02
abbrev PUBCOMP_RESERVED : UInt8 := 0x00
abbrev SUBSCRIBE_RESERVED : UInt8 := 0x02
abbrev UNSUBSCRIBE_RESERVED : UInt8 := 0x02
abbrev PINGREQ_RESERVED : UInt8 := 0x00
abbrev DISCONNECT_RESERVED : UInt8 := 0x00

end HeaderFlag

namespace ConnectFlag

abbrev USERNAME : UInt8 := 0x80
abbrev PASSWORD : UInt8 := 0x40
abbrev WILL_RETAIN : UInt8 := 0x20
abbrev WILL_QOS0 : UInt8 := 0x00
abbrev WILL_QOS1 : UInt8 := 0x08
abbrev WILL_QOS2 : UInt8 := 0x10
abbrev WILL : UInt8 := 0x04
abbrev CLEAN_SESSION : UInt8 := 0x02

end ConnectFlag

/-! ### The remaining length -/

/-- The loop of `Helpers::encodeRemainingLength`, which runs at most `fuel` times. -/
def encodeDigits : ℕ → UInt32 → List UInt8
  | 0, _ => []
  | fuel + 1, remainingLength =>
    let encodedByte := (remainingLength % 128).toUInt8
    let remainingLength := remainingLength / 128
    if remainingLength > 0 then
      (encodedByte ||| 128) :: encodeDigits fuel remainingLength
    else [encodedByte]

/-- `Helpers::encodeRemainingLength`. -/
def encodeRemainingLength (remainingLength : UInt32) : List UInt8 :=
  encodeDigits 5 remainingLength

/-- The loop of `Helpers::decodeRemainingLength`. -/
def decodeDigits : UInt32 → UInt32 → List UInt8 → UInt32
  | _, value, [] => value
  | multiplier, value, encodedByte :: bytes =>
    let value := value + (encodedByte &&& 127).toUInt32 * multiplier
    if encodedByte &&& 128 ≠ 0 then decodeDigits (multiplier * 128) value bytes else value

/-- `Helpers::decodeRemainingLength`. -/
def decodeRemainingLength (bytes : List UInt8) : UInt32 := decodeDigits 1 0 bytes

theorem toNat_or_128 {b : UInt8} (h : b.toNat < 128) : (b ||| 128).toNat = b.toNat + 128 := by
  have hor := Nat.two_pow_add_eq_or_of_lt (i := 7) h 1
  rw [UInt8.toNat_or, Nat.or_comm]
  simpa [Nat.add_comm] using hor.symm

theorem and_128_ne_zero_iff (b : UInt8) : b &&& 128 ≠ 0 ↔ 128 ≤ b.toNat := by
  have h : ∀ n : Fin 256, UInt8.ofNat n.val &&& 128 ≠ 0 ↔ 128 ≤ n.val := by decide +kernel
  have hb := h ⟨b.toNat, b.toNat_lt⟩
  rwa [UInt8.ofNat_toNat] at hb

theorem toNat_and_127 (b : UInt8) : (b &&& 127).toNat = b.toNat % 128 := by
  rw [UInt8.toNat_and]
  exact Nat.and_two_pow_sub_one_eq_mod b.toNat 7

/-- One pass of the loop. -/
theorem encodeDigits_succ (fuel : ℕ) (n : UInt32) :
    encodeDigits (fuel + 1) n =
      if n.toNat < 128 then [UInt8.ofNat n.toNat]
      else UInt8.ofNat (n.toNat % 128 + 128) :: encodeDigits fuel (n / 128) := by
  have hdigit : ((n % 128).toUInt8).toNat = n.toNat % 128 := by
    rw [UInt32.toNat_toUInt8, UInt32.toNat_mod]
    exact Nat.mod_eq_of_lt (Nat.lt_trans (Nat.mod_lt _ (by decide)) (by decide))
  have hmore : n / 128 > 0 ↔ ¬n.toNat < 128 := by
    show 0 < n / 128 ↔ _
    rw [UInt32.lt_iff_toNat_lt, UInt32.toNat_div]
    show 0 < n.toNat / 128 ↔ _
    omega
  have hlt : n.toNat % 128 < 128 := Nat.mod_lt _ (by decide)
  rw [encodeDigits]
  by_cases h : n.toNat < 128
  · rw [if_pos h, if_neg (by rw [hmore]; exact not_not_intro h)]
    refine congrArg (· :: []) (UInt8.toNat_inj.mp ?_)
    rw [hdigit, UInt8.toNat_ofNat']
    omega
  · rw [if_neg h, if_pos (hmore.mpr h)]
    refine congrArg (· :: _) (UInt8.toNat_inj.mp ?_)
    rw [toNat_or_128 (by rw [hdigit]; exact hlt), hdigit, UInt8.toNat_ofNat']
    omega

/-- What the loop writes is the numeral, if it does not stop too early. -/
theorem encodeDigits_eq (fuel : ℕ) (n : UInt32) (h : n.toNat < 128 ^ (fuel + 1)) :
    encodeDigits (fuel + 1) n = VarInt.encode n.toNat := by
  induction fuel generalizing n with
  | zero =>
    rw [encodeDigits_succ, if_pos (by simpa using h), VarInt.encode_of_lt (by simpa using h)]
  | succ fuel ih =>
    rw [encodeDigits_succ]
    by_cases hlt : n.toNat < 128
    · rw [if_pos hlt, VarInt.encode_of_lt hlt]
    · have hdiv : (n / 128).toNat = n.toNat / 128 := UInt32.toNat_div _ _
      have hrest : n.toNat / 128 < 128 ^ (fuel + 1) := by
        rw [Nat.div_lt_iff_lt_mul (by decide), ← Nat.pow_succ]
        exact h
      rw [if_neg hlt, VarInt.encode_of_le (Nat.not_lt.mp hlt), ih _ (by rwa [hdiv]), hdiv]

/-- **The remaining length is written as a numeral in base 128**. -/
theorem encodeRemainingLength_eq (n : UInt32) :
    encodeRemainingLength n = VarInt.encode n.toNat :=
  encodeDigits_eq 4 n (Nat.lt_of_lt_of_le n.toNat_lt (by decide))

/-- What the loop makes of a numeral, wherever it stands. -/
theorem decodeDigits_encode (n : ℕ) (multiplier value : UInt32) (bytes : List UInt8) :
    decodeDigits multiplier value (VarInt.encode n ++ bytes) =
      value + UInt32.ofNat n * multiplier := by
  have hdigit : ∀ {b : UInt8} {k : ℕ}, b.toNat % 128 = k → (b &&& 127).toUInt32 = UInt32.ofNat k :=
    fun h => UInt32.toNat_inj.mp (by
      rw [UInt8.toNat_toUInt32, toNat_and_127, h, UInt32.toNat_ofNat']
      omega)
  induction n using Nat.strongRecOn generalizing multiplier value with
  | ind n ih =>
    rcases Nat.lt_or_ge n 128 with h | h
    · have hb : (UInt8.ofNat n).toNat = n := by
        rw [UInt8.toNat_ofNat']
        omega
      rw [VarInt.encode_of_lt h, List.singleton_append, decodeDigits,
        if_neg (by rw [and_128_ne_zero_iff, hb]; omega),
        hdigit (k := n) (by rw [hb]; exact Nat.mod_eq_of_lt h)]
    · have hb : (UInt8.ofNat (n % 128 + 128)).toNat = n % 128 + 128 := by
        rw [UInt8.toNat_ofNat']
        omega
      have hn : UInt32.ofNat n = UInt32.ofNat (n % 128) + 128 * UInt32.ofNat (n / 128) := by
        conv_lhs => rw [← Nat.mod_add_div n 128, UInt32.ofNat_add, UInt32.ofNat_mul]
        rfl
      rw [VarInt.encode_of_le h, List.cons_append, decodeDigits,
        if_pos (by rw [and_128_ne_zero_iff, hb]; omega),
        hdigit (k := n % 128) (by rw [hb]; omega), ih _ (by omega), hn]
      grind

/-- **The remaining length is read back.** -/
theorem decodeRemainingLength_encode (n : UInt32) :
    decodeRemainingLength (encodeRemainingLength n) = n := by
  rw [decodeRemainingLength, encodeRemainingLength_eq, ← List.append_nil (VarInt.encode _),
    decodeDigits_encode]
  simp

/-! ### A packet in the queue -/

/-- `OutPacket`, without the link to the next one. -/
structure OutPacket where
  /-- The bytes that `data` points to. -/
  data : List UInt8
  /-- `_released`: the packet may leave the queue when it has been sent. -/
  released : Bool
  /-- `_packetId`. -/
  packetId : UInt16
  two_le : 2 ≤ data.length
  deriving DecidableEq

namespace OutPacket

/-- `OutPacket::size`. -/
def size (p : OutPacket) : ℕ := p.data.length

/-- `OutPacket::packetType`. -/
def packetType (p : OutPacket) : UInt8 := p.data.get ⟨0, by have := p.two_le; omega⟩ >>> 4

/-- `OutPacket::qos`. -/
def qos (p : OutPacket) : UInt8 :=
  if p.packetType = PacketType.PUBLISH then
    (p.data.get ⟨1, p.two_le⟩ &&& 0x06) >>> 1
  else 0

/-- `OutPacket::release`. -/
def release (p : OutPacket) : OutPacket := { p with released := true }

/-- `PublishOutPacket::setDup`. -/
def setDup (p : OutPacket) : OutPacket :=
  { p with
    data := p.data.modifyHead (· ||| HeaderFlag.PUBLISH_DUP)
    two_le := by rw [List.length_modifyHead]; exact p.two_le }

@[simp] theorem release_data (p : OutPacket) : p.release.data = p.data := rfl

@[simp] theorem release_packetId (p : OutPacket) : p.release.packetId = p.packetId := rfl

@[simp] theorem release_released (p : OutPacket) : p.release.released = true := rfl

@[simp] theorem release_size (p : OutPacket) : p.release.size = p.size := rfl

@[simp] theorem release_packetType (p : OutPacket) : p.release.packetType = p.packetType := rfl

@[simp] theorem setDup_size (p : OutPacket) : p.setDup.size = p.size := List.length_modifyHead

@[simp] theorem setDup_released (p : OutPacket) : p.setDup.released = p.released := rfl

@[simp] theorem setDup_packetId (p : OutPacket) : p.setDup.packetId = p.packetId := rfl

end OutPacket

/-! ### What the constructors share -/

/-- `strlen`, of the memory a `const char *` points to. -/
def strlen (s : List UInt8) : ℕ := (s.takeWhile (· ≠ 0)).length

/-- The two bytes of a `uint16_t`, the high one first. -/
def twoBytes (n : UInt16) : List UInt8 := [(n >>> 8).toUInt8, (n &&& 0xFF).toUInt8]

/-- The length of a string in a `uint16_t`. -/
def length16 (s : List UInt8) : UInt16 := (strlen s).toUInt16

/-- A string as it is sent: its length, and as many characters. -/
def lengthPrefixed (s : List UInt8) : List UInt8 :=
  twoBytes (length16 s) ++ s.take (length16 s).toNat

/-- `fixedHeader`, with the remaining length. -/
def fixedHeader (type flags : UInt8) (remainingLength : UInt32) : List UInt8 :=
  (type <<< 4 ||| flags) :: encodeRemainingLength remainingLength

theorem length_encodeRemainingLength_pos (n : UInt32) : 0 < (encodeRemainingLength n).length := by
  rw [encodeRemainingLength_eq]
  exact VarInt.length_encode_pos _

/-- A packet that consists of a fixed header and the rest. -/
def outPacket (type flags : UInt8) (remainingLength : UInt32) (rest : List UInt8)
    (released : Bool) (packetId : UInt16) : OutPacket where
  data := fixedHeader type flags remainingLength ++ rest
  released := released
  packetId := packetId
  two_le := by
    have := length_encodeRemainingLength_pos remainingLength
    rw [fixedHeader, List.length_append, List.length_cons]
    omega

/-! ### CONNECT -/

/-- The will of a client. -/
structure Will where
  /-- `_willTopic`. -/
  topic : List UInt8
  /-- `_willPayload`, which may be a null pointer. -/
  payload : Option (List UInt8)
  /-- `_willPayloadLength`, zero if it is to be measured. -/
  payloadLength : UInt16
  /-- `_willQos`. -/
  qos : UInt8
  /-- `_willRetain`. -/
  retain : Bool

/-- What the setters of the client have left. -/
structure Settings where
  /-- `_keepAlive`, in seconds. -/
  keepAlive : UInt16 := 15
  /-- `_cleanSession`. -/
  cleanSession : Bool := true
  /-- `_clientId`. -/
  clientId : List UInt8
  /-- `_username`. -/
  username : Option (List UInt8) := none
  /-- `_password`. -/
  password : Option (List UInt8) := none
  /-- The will, if there is one. -/
  will : Option Will := none
  /-- `_parsingInformation.maxTopicLength`. -/
  maxTopicLength : UInt16 := 128

/-- `willPayloadLength`, as the constructor of the packet corrects it. -/
def Will.length (w : Will) : UInt16 :=
  match w.payload with
  | some payload => if w.payloadLength = 0 then length16 payload else w.payloadLength
  | none => w.payloadLength

/-- The bytes of the payload that are sent. -/
def Will.bytes (w : Will) : List UInt8 :=
  match w.payload with
  | some payload => payload.take w.length.toNat
  | none => []

/-- What a will adds to `connectFlags`. -/
def willFlags (qos : UInt8) (retain : Bool) : UInt8 :=
  ConnectFlag.WILL ||| (if retain then ConnectFlag.WILL_RETAIN else 0) |||
    match qos with
    | 0 => ConnectFlag.WILL_QOS0
    | 1 => ConnectFlag.WILL_QOS1
    | 2 => ConnectFlag.WILL_QOS2
    | _ => 0

/-- What the other settings put into `connectFlags`. -/
def sessionFlags (cleanSession username password : Bool) : UInt8 :=
  (if cleanSession then ConnectFlag.CLEAN_SESSION else 0) |||
    (if username then ConnectFlag.USERNAME else 0) |||
    (if password then ConnectFlag.PASSWORD else 0)

/-- `connectFlags`. -/
def Settings.connectFlags (s : Settings) : UInt8 :=
  sessionFlags s.cleanSession s.username.isSome s.password.isSome |||
    match s.will with
    | some w => willFlags w.qos w.retain
    | none => 0

/-- The remaining length that `ConnectOutPacket` computes. -/
def Settings.remainingLength (s : Settings) : UInt32 :=
  2 + 4 + 1 + 1 + 2 + 2 + (length16 s.clientId).toUInt32 +
    (s.will.map fun w => 2 + (length16 w.topic).toUInt32 + 2 + w.length.toUInt32).getD 0 +
    (s.username.map fun u => 2 + (length16 u).toUInt32).getD 0 +
    (s.password.map fun u => 2 + (length16 u).toUInt32).getD 0

/-- The will, as `ConnectOutPacket` appends it. -/
def Will.text (w : Will) : List UInt8 := lengthPrefixed w.topic ++ twoBytes w.length ++ w.bytes

/-- What `ConnectOutPacket` appends to the fixed header. -/
def Settings.body (s : Settings) : List UInt8 :=
  twoBytes 4 ++ [77, 81, 84, 84] ++ [4, s.connectFlags] ++ twoBytes s.keepAlive ++
    lengthPrefixed s.clientId ++ (s.will.map Will.text).getD [] ++
    (s.username.map lengthPrefixed).getD [] ++ (s.password.map lengthPrefixed).getD []

/-- `ConnectOutPacket`. -/
def connectOutPacket (s : Settings) : OutPacket :=
  outPacket PacketType.CONNECT HeaderFlag.CONNECT_RESERVED s.remainingLength s.body true 0

/-! ### PUBLISH -/

/-- The arguments of `publish`. -/
structure Message where
  /-- `topic`. -/
  topic : List UInt8
  /-- `qos`. -/
  qos : UInt8
  /-- `retain`. -/
  retain : Bool
  /-- `payload`, which may be a null pointer. -/
  payload : Option (List UInt8) := none
  /-- `length`, zero if it is to be measured. -/
  length : UInt32 := 0

/-- `payloadLength`. -/
def Message.payloadLength (m : Message) : UInt32 :=
  match m.payload with
  | some payload => if m.length = 0 then (strlen payload).toUInt32 else m.length
  | none => m.length

/-- The bytes of the payload that are sent. -/
def Message.bytes (m : Message) : List UInt8 :=
  match m.payload with
  | some payload => payload.take m.payloadLength.toNat
  | none => []

/-- The flags in the fixed header of a PUBLISH. -/
def publishFlags (qos : UInt8) (retain : Bool) : UInt8 :=
  (if retain then HeaderFlag.PUBLISH_RETAIN else 0) |||
    match qos with
    | 0 => HeaderFlag.PUBLISH_QOS0
    | 1 => HeaderFlag.PUBLISH_QOS1
    | 2 => HeaderFlag.PUBLISH_QOS2
    | _ => 0

/-- The remaining length that `PublishOutPacket` computes. -/
def Message.remainingLength (m : Message) : UInt32 :=
  2 + (length16 m.topic).toUInt32 + m.payloadLength + if m.qos ≠ 0 then 2 else 0

/-- What `PublishOutPacket` appends to the fixed header. -/
def Message.body (m : Message) (packetId : UInt16) : List UInt8 :=
  lengthPrefixed m.topic ++ (if m.qos ≠ 0 then twoBytes packetId else []) ++ m.bytes

/-- `PublishOutPacket`, with the identifier it draws. -/
def publishOutPacket (m : Message) (packetId : UInt16) : OutPacket :=
  outPacket PacketType.PUBLISH (publishFlags m.qos m.retain) m.remainingLength (m.body packetId)
    (m.qos = 0) packetId

/-! ### The others -/

/-- `SubscribeOutPacket`, with the identifier it draws. -/
def subscribeOutPacket (topic : List UInt8) (qos : UInt8) (packetId : UInt16) : OutPacket :=
  outPacket PacketType.SUBSCRIBE HeaderFlag.SUBSCRIBE_RESERVED
    (2 + 2 + (length16 topic).toUInt32 + 1)
    (twoBytes packetId ++ lengthPrefixed topic ++ [qos]) false packetId

/-- `UnsubscribeOutPacket`, with the identifier it draws. -/
def unsubscribeOutPacket (topic : List UInt8) (packetId : UInt16) : OutPacket :=
  outPacket PacketType.UNSUBSCRIBE HeaderFlag.UNSUBSCRIBE_RESERVED
    (2 + 2 + (length16 topic).toUInt32) (twoBytes packetId ++ lengthPrefixed topic) false packetId

/-- `PendingAck`. -/
structure PendingAck where
  /-- `packetType`. -/
  packetType : UInt8
  /-- `headerFlag`. -/
  headerFlag : UInt8
  /-- `packetId`. -/
  packetId : UInt16

/-- The acknowledgements of a PUBLISH, which both sides send. -/
inductive Ack where
  /-- PUBACK. -/
  | pubAck
  /-- PUBREC. -/
  | pubRec
  /-- PUBREL. -/
  | pubRel
  /-- PUBCOMP. -/
  | pubComp
  deriving DecidableEq

/-- `packetType` of an acknowledgement. -/
def Ack.packetType : Ack → UInt8
  | pubAck => PacketType.PUBACK
  | pubRec => PacketType.PUBREC
  | pubRel => PacketType.PUBREL
  | pubComp => PacketType.PUBCOMP

/-- `headerFlag` of an acknowledgement. -/
def Ack.headerFlag : Ack → UInt8
  | pubAck => HeaderFlag.PUBACK_RESERVED
  | pubRec => HeaderFlag.PUBREC_RESERVED
  | pubRel => HeaderFlag.PUBREL_RESERVED
  | pubComp => HeaderFlag.PUBCOMP_RESERVED

/-- An acknowledgement of a packet. -/
def Ack.pending (a : Ack) (packetId : UInt16) : PendingAck := ⟨a.packetType, a.headerFlag, packetId⟩

/-- `PubAckOutPacket`. -/
def pubAckOutPacket (pendingAck : PendingAck) : OutPacket where
  data := [pendingAck.packetType <<< 4 ||| pendingAck.headerFlag, 2] ++ twoBytes pendingAck.packetId
  released :=
    let packetType := (pendingAck.packetType <<< 4 ||| pendingAck.headerFlag) >>> 4
    !(packetType == PacketType.PUBREL || packetType == PacketType.PUBREC)
  packetId := pendingAck.packetId
  two_le := by
    rw [List.length_append]
    exact Nat.le_add_right _ _

/-- `PingReqOutPacket`. -/
def pingReqOutPacket : OutPacket where
  data := [PacketType.PINGREQ <<< 4 ||| HeaderFlag.PINGREQ_RESERVED, 0]
  released := true
  packetId := 0
  two_le := Nat.le_refl _

/-- `DisconnOutPacket`. -/
def disconnOutPacket : OutPacket where
  data := [PacketType.DISCONNECT <<< 4 ||| HeaderFlag.DISCONNECT_RESERVED, 0]
  released := true
  packetId := 0
  two_le := Nat.le_refl _

end Mqtt

end SentinelEdge
