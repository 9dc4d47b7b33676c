import SentinelEdge.Library.Run
import SentinelEdge.Mqtt.Parser
import SentinelEdge.Mqtt.Queue

/-!
# The MQTT client

`AsyncMqttClient` as a whole: the queue, the parser, the handlers between them, the
methods that the firmware calls, and the TCP connection under it. Two tasks run it. The
task of the TCP library calls `_onConnect`, `_onDisconnect`, `_onAck`, `_onData` and
`_onPoll`, one after the other; the firmware calls `connect`, `publish` and the like
whenever it wants to, also while `_onData` is at work. So a pass of the loop of `_onData`
is a step of its own, and the bytes it has not come to are part of the state
(`SentinelEdge.Mqtt.Client.inbox`).

The TCP library is not part of the source. What the model takes from it is this.

* It answers `_client.space()` as it likes, and takes as much of a write as it likes, while
  the connection is open; it answers with zero when it is not
  (`SentinelEdge.Mqtt.Client.room`, `SentinelEdge.Mqtt.Client.Act.room`). Whoever needs more
  of it asks for it (`SentinelEdge.Mqtt.Client.Act.Offers`).
* It delivers bytes, asks for a poll and reports acknowledgements only while the
  connection is open, and less than 2 GiB at a time.
* `_client.close()` on an open connection closes it and calls `_onDisconnect` before it
  returns, as the source says of the ESP32. On a closed one it does nothing.
* A connection that is lost, or that does not come about, is reported by
  `_onDisconnect`.

The callbacks of the firmware do not call the client; what they are called with is
recorded (`SentinelEdge.Mqtt.Client.calls`).
-/

namespace SentinelEdge

namespace Mqtt

open WrapClock LabelledRun

/-! ### The state -/

/-- The TCP connection. -/
inductive Tcp where
  /-- There is none. -/
  | closed
  /-- It is being established. -/
  | connecting
  /-- It is open. -/
  | opened
  deriving DecidableEq

/-- A call of a callback of the firmware. -/
inductive Callback where
  /-- `onConnect`. -/
  | onConnect (sessionPresent : Bool)
  /-- `onDisconnect`. -/
  | onDisconnect (reason : UInt8)
  /-- `onSubscribe`. -/
  | onSubscribe (packetId : UInt16) (status : UInt8)
  /-- `onUnsubscribe`. -/
  | onUnsubscribe (packetId : UInt16)
  /-- `onMessage`, with as much of the payload as `len` says. -/
  | onMessage (topic payload : List UInt8) (qos : UInt8) (dup retain : Bool) (index total : UInt32)
  /-- `onPublish`. -/
  | onPublish (packetId : UInt16)
  deriving DecidableEq

/-- `AsyncMqttClient`, and the TCP connection under it. -/
structure Client extends Sender where
  /-- `_state`. -/
  state : ClientState
  /-- `_disconnectReason`. -/
  disconnectReason : UInt8
  /-- `_lastServerActivity`. -/
  lastServerActivity : UInt32
  /-- `_parsingInformation` and what belongs to it. -/
  parser : Parser
  /-- `_pendingPubRels`. -/
  pendingPubRels : List UInt16
  /-- `OutPacket::_nextPacketId`. -/
  nextPacketId : UInt16
  /-- The true time since power-on, in milliseconds. -/
  clock : ℕ
  /-- The TCP connection. -/
  tcp : Tcp
  /-- What the TCP library is going to say of its room, in order. After that there is
  none. -/
  room : List Room
  /-- The bytes that the call of `_onData` under way has not come to. -/
  inbox : List UInt8
  /-- The calls of callbacks so far, oldest first. -/
  calls : List Callback
  /-- What has gone wrong, if something has. -/
  fault : Option Fault

namespace Client

/-- `millis()`. -/
def millis (c : Client) : UInt32 := stamp c.clock

/-! ### Connections and the queue -/

/-- What `_clear` does to the parser. The digits of a length that have been read stay. -/
def clearParser (p : Parser) : Parser := { p with current := none, bufferState := .none }

/-- `_onDisconnect`, with `_clear`. -/
def onDisconnect (c : Client) : Client :=
  { c with
    toSender := { c.toSender with lastPingRequestTime := 0 }.clearQueue true
    state := .disconnected
    parser := clearParser c.parser
    calls := c.calls ++ [.onDisconnect c.disconnectReason] }

/-- `_client.close()`. -/
def close (c : Client) : Client :=
  if c.tcp = .opened then { c with tcp := .closed, room := [] }.onDisconnect else c

/-- `_handleQueue`. -/
def handleQueue (c : Client) : Client :=
  let r := handleQueueLoop c.millis c.room c.toSender false
  let c := { c with toSender := r.1, room := r.2.1 }
  if r.2.2 then c.close else c

/-- `_addBack`. -/
def addBack (packet : OutPacket) (c : Client) : Client :=
  { c with queue := c.queue ++ [packet] }.handleQueue

/-- The packet that `_addBack` puts at the end of the queue is gone when `_addBack` returns:
nothing is left in the queue, or a DISCONNECT was written and `_clear`, called by
`_client.close()`, has not kept the packet. -/
def addBackDeletes (packet : OutPacket) (c : Client) : Bool :=
  let r := handleQueueLoop c.millis c.room { c.toSender with queue := c.queue ++ [packet] } false
  r.1.queue.isEmpty || r.2.2 && decide (c.tcp = .opened) && (retain r.1.sent packet).isNone

/-- `_addBack(msg)`, and then `msg->packetId()`, which reads the packet, deleted or not. -/
def addBackId (packet : OutPacket) (c : Client) : UInt16 × Client :=
  let c' := c.addBack packet
  (packet.packetId,
    if c.addBackDeletes packet then { c' with fault := some .freedOutPacket } else c')

/-- `_addFront`. -/
def addFront (packet : OutPacket) (c : Client) : Client :=
  { c with queue := packet :: c.queue }.handleQueue

/-- `_insert`, which takes for granted that there is a head. -/
def insert (packet : OutPacket) (c : Client) : Client :=
  match c.queue with
  | [] => { c with fault := some .nullHead }
  | head :: next => { c with queue := head :: packet :: next }.handleQueue

/-- The head of the queue is released if it has this identifier. -/
def releaseHead (packetId : UInt16) (c : Client) : Client :=
  match c.queue with
  | [] => c
  | head :: next =>
    if head.packetId = packetId then { c with queue := head.release :: next } else c

/-- The head of the queue has this identifier. -/
def headHas (packetId : UInt16) (c : Client) : Bool :=
  match c.queue with
  | [] => false
  | head :: _ => head.packetId = packetId

/-! ### The handlers of the packets -/

/-- `_onPingResp`. -/
def onPingResp (c : Client) : Client := { c with lastPingRequestTime := 0 }

/-- `_onConnAck`. -/
def onConnAck (sessionPresent : Bool) (connectReturnCode : UInt8) (c : Client) : Client :=
  -- remove session data
  let c := if !sessionPresent then
      { c with pendingPubRels := [], toSender := c.toSender.clearQueue false } else c
  if connectReturnCode = 0 then
    -- whatever the state was
    { c with
      state := .connected
      calls := c.calls ++ [Callback.onConnect sessionPresent] }.handleQueue
  else { c with disconnectReason := connectReturnCode }

/-- `_onSubAck`. -/
def onSubAck (packetId : UInt16) (status : UInt8) (c : Client) : Client :=
  let c := c.releaseHead packetId
  { c with calls := c.calls ++ [Callback.onSubscribe packetId status] }.handleQueue

/-- `_onUnsubAck`. -/
def onUnsubAck (packetId : UInt16) (c : Client) : Client :=
  let c := c.releaseHead packetId
  { c with calls := c.calls ++ [Callback.onUnsubscribe packetId] }.handleQueue

/-- `_onMessage`. -/
def onMessage (m : Chunk) (c : Client) : Client :=
  let notifyPublish : Bool := !(m.qos == 2 && c.pendingPubRels.contains m.packetId)
  if notifyPublish then
    { c with
      calls := c.calls ++ [.onMessage m.topic m.payload m.qos m.dup m.retain m.index m.total] }
  else c

/-- `_onPublish`. -/
def onPublish (packetId : UInt16) (qos : UInt8) (c : Client) : Client :=
  if qos = 1 then c.addBack (pubAckOutPacket (Ack.pubAck.pending packetId))
  else if qos = 2 then
    let c := c.addBack (pubAckOutPacket (Ack.pubRec.pending packetId))
    if c.pendingPubRels.contains packetId then c
    else { c with pendingPubRels := c.pendingPubRels ++ [packetId] }
  else c

/-- The loop at the end of `_onPubRel`. The element that takes the place of an erased one is
skipped. -/
def erasePubRels (packetId : UInt16) : List UInt16 → List UInt16
  | [] => []
  | i :: is =>
    if i = packetId then
      match is with
      | [] => []
      | j :: js => j :: erasePubRels packetId js
    else i :: erasePubRels packetId is

/-- `_onPubRel`. -/
def onPubRel (packetId : UInt16) (c : Client) : Client :=
  let c := if c.headHas packetId then
      (c.releaseHead packetId).insert (pubAckOutPacket (Ack.pubComp.pending packetId)) else c
  { c with pendingPubRels := erasePubRels packetId c.pendingPubRels }

/-- `_onPubAck`. -/
def onPubAck (packetId : UInt16) (c : Client) : Client :=
  let c := c.releaseHead packetId
  { c with calls := c.calls ++ [.onPublish packetId] }

/-- `_onPubRec`. -/
def onPubRec (packetId : UInt16) (c : Client) : Client :=
  (c.releaseHead packetId).insert (pubAckOutPacket (Ack.pubRel.pending packetId))

/-- `_onPubComp`. -/
def onPubComp (packetId : UInt16) (c : Client) : Client :=
  let c := c.releaseHead packetId
  { c with calls := c.calls ++ [.onPublish packetId] }

/-! ### The methods -/

/-- `connected`. -/
def connected (c : Client) : Bool := c.state.isConnected

/-- `connect`. -/
def connect (c : Client) : Client :=
  if c.state ≠ .disconnected then c
  else
    { c with
      state := .connecting
      disconnectReason := 0
      tcp := if c.tcp = .closed then .connecting else c.tcp }

/-- `disconnect`. -/
def disconnect (force : Bool) (c : Client) : Client :=
  if c.state = .disconnected then c
  else if force then { c with state := .disconnected }.close
  else if c.state ≠ .disconnecting then
    { c with state := .disconnecting }.addBack disconnOutPacket
  else c

/-- `subscribe`: the packet identifier, or zero. -/
def subscribe (topic : List UInt8) (qos : UInt8) (c : Client) : UInt16 × Client :=
  if c.state ≠ .connected then (0, c)
  else
    let packetId := getNextPacketId c.nextPacketId
    { c with nextPacketId := packetId }.addBackId (subscribeOutPacket topic qos packetId)

/-- `unsubscribe`: the packet identifier, or zero. -/
def unsubscribe (topic : List UInt8) (c : Client) : UInt16 × Client :=
  if c.state ≠ .connected then (0, c)
  else
    let packetId := getNextPacketId c.nextPacketId
    { c with nextPacketId := packetId }.addBackId (unsubscribeOutPacket topic packetId)

/-- The identifier that a message gets. Only one that is acknowledged draws a new one. -/
def publishId (m : Message) (c : Client) : UInt16 :=
  if m.qos ≠ 0 then getNextPacketId c.nextPacketId else 1

/-- A message always gets an identifier that is not zero. -/
theorem publishId_ne_zero (m : Message) (c : Client) : c.publishId m ≠ 0 := by
  rw [publishId]
  split
  · exact getNextPacketId_ne_zero _
  · decide

/-- `publish`: the packet identifier, or zero. -/
def publish (m : Message) (freeMemory : ℕ) (c : Client) : UInt16 × Client :=
  if c.state ≠ .connected ∨ freeMemory < mqttMinFreeMemory then (0, c)
  else
    let packetId := c.publishId m
    let nextPacketId := if m.qos ≠ 0 then packetId else c.nextPacketId
    { c with nextPacketId := nextPacketId }.addBackId (publishOutPacket m packetId)

/-- `clearQueue`. -/
def clearQueue (c : Client) : Client :=
  if c.state ≠ .disconnected then c else { c with toSender := c.toSender.clearQueue false }

/-- A client that is connected takes no notice of `connect`. -/
theorem connect_of_connected {c : Client} (h : c.state = .connected) : c.connect = c :=
  if_pos (by rw [h]; decide)

/-- It keeps its queue. -/
theorem clearQueue_of_connected {c : Client} (h : c.state = .connected) : c.clearQueue = c :=
  if_pos (by rw [h]; decide)

/-! ### The calls of the TCP library -/

/-- The handler of an event of the parser. -/
def dispatch (c : Client) : Event → Client
  | .connAck sessionPresent connectReturnCode => c.onConnAck sessionPresent connectReturnCode
  | .pingResp => c.onPingResp
  | .ack .pubAck packetId => c.onPubAck packetId
  | .ack .pubRec packetId => c.onPubRec packetId
  | .ack .pubRel packetId => c.onPubRel packetId
  | .ack .pubComp packetId => c.onPubComp packetId
  | .unsubAck packetId => c.onUnsubAck packetId
  | .subAck packetId status => c.onSubAck packetId status
  | .message m => c.onMessage m
  | .publish packetId qos => c.onPublish packetId qos
  | .violation => c.disconnect true

/-- A pass of the loop of `_onData`. -/
def parse (currentByte : UInt8) (rest : List UInt8) (c : Client) : Client :=
  match c.parser.step currentByte rest with
  | .error f => { c with fault := some f }
  | .ok r => r.2.1.foldl dispatch { c with parser := r.1, inbox := r.2.2 }

/-- `_onConnect`, with what the TCP library is going to say of its room. -/
def onConnect (cfg : Settings) (rooms : List Room) (c : Client) : Client :=
  ({ c with tcp := .opened, wire := [], room := rooms }.addFront
    (connectOutPacket cfg)).handleQueue

/-- `_sendPing`. -/
def sendPing (c : Client) : Client :=
  { c with lastPingRequestTime := c.millis }.addBack pingReqOutPacket

/-- There has been no activity for so long that a ping is due. The bound of the source,
`_keepAlive * 1000 * 0.7`, is a `double` that is this number or a little less. -/
def Quiet (cfg : Settings) (c : Client) (lastActivity : UInt32) : Prop :=
  700 * cfg.keepAlive.toNat ≤ (c.millis - lastActivity).toNat

instance (cfg : Settings) (c : Client) (lastActivity : UInt32) :
    Decidable (Quiet cfg c lastActivity) := inferInstanceAs (Decidable (_ ≤ _))

/-- The server has not answered a ping for too long. -/
def PingTimedOut (cfg : Settings) (c : Client) : Prop :=
  c.lastPingRequestTime ≠ 0 ∧
    cfg.keepAlive.toNat * 1000 * 2 ≤ (c.millis - c.lastPingRequestTime).toNat

instance (cfg : Settings) (c : Client) : Decidable (PingTimedOut cfg c) :=
  inferInstanceAs (Decidable (_ ∧ _))

/-- A ping is due. -/
def PingDue (cfg : Settings) (c : Client) : Prop :=
  c.state = .connected ∧ c.lastPingRequestTime = 0 ∧
    (Quiet cfg c c.lastClientActivity ∨ Quiet cfg c c.lastServerActivity)

instance (cfg : Settings) (c : Client) : Decidable (PingDue cfg c) :=
  inferInstanceAs (Decidable (_ ∧ _ ∧ _))

/-- `_onPoll`. -/
def onPoll (cfg : Settings) (c : Client) : Client :=
  if PingTimedOut cfg c then c.disconnect true
  else if PingDue cfg c then c.sendPing.handleQueue
  else c.handleQueue

/-! ### Runs -/

/-- The client of a device that has been switched on at true time `t₀`. -/
def init (cfg : Settings) (t₀ : ℕ) : Client where
  queue := []
  sent := 0
  lastClientActivity := 0
  lastPingRequestTime := 0
  wire := []
  state := .disconnected
  disconnectReason := 0
  lastServerActivity := 0
  parser :=
    { bufferState := .none
      current := none
      remainingLength := 0
      lengthBuffer := []
      maxTopicLength := cfg.maxTopicLength
      topicBuffer := List.replicate (cfg.maxTopicLength.toNat + 1) 0
      length_topicBuffer := List.length_replicate }
  pendingPubRels := []
  nextPacketId := 0
  clock := t₀
  tcp := .closed
  room := []
  inbox := []
  calls := []
  fault := none

/-- A step of the client, of the firmware or of the TCP library. -/
inductive Act where
  /-- Time passes. -/
  | tick (ms : ℕ)
  /-- The TCP library makes up its mind about the room there is. -/
  | room (rooms : List Room)
  /-- The connection is established, and `_onConnect` is called. -/
  | tcpConnected (rooms : List Room)
  /-- The connection is lost, or does not come about, and `_onDisconnect` is called. -/
  | tcpClosed
  /-- `_onAck` is called. -/
  | ack
  /-- `_onData` is called. -/
  | data (bytes : List UInt8)
  /-- `_onData` makes a pass. -/
  | parse
  /-- `_onPoll` is called. -/
  | poll
  /-- The firmware calls `connect`. -/
  | connect
  /-- The firmware calls `disconnect`. -/
  | disconnect (force : Bool)
  /-- The firmware calls `publish`. -/
  | publish (m : Message) (freeMemory : ℕ)
  /-- The firmware calls `subscribe`. -/
  | subscribe (topic : List UInt8) (qos : UInt8)
  /-- The firmware calls `unsubscribe`. -/
  | unsubscribe (topic : List UInt8)
  /-- The firmware calls `clearQueue`. -/
  | clearQueue

/-- **What is known of the TCP library**: `R` holds of all it says of its room. -/
def Act.Offers (R : Room → Prop) : Act → Prop
  | .room rooms | .tcpConnected rooms => ∀ r ∈ rooms, R r
  | _ => True

instance (R : Room → Prop) [DecidablePred R] : ∀ a : Act, Decidable (a.Offers R)
  | .room rooms | .tcpConnected rooms => inferInstanceAs (Decidable (∀ r ∈ rooms, R r))
  | .tick _ | .tcpClosed | .ack | .data _ | .parse | .poll | .connect | .disconnect _
  | .publish _ _ | .subscribe _ _ | .unsubscribe _ | .clearQueue => inferInstanceAs (Decidable True)

/-- Nothing need be known of it. -/
theorem Act.offers_true (a : Act) : a.Offers fun _ => True := by
  cases a with
  | room rooms => exact fun _ _ => trivial
  | tcpConnected rooms => exact fun _ _ => trivial
  | _ => trivial

/-- The task of the TCP library can call the client, on an open connection. -/
def Ready (c : Client) : Prop := c.tcp = .opened ∧ c.inbox = []

instance (c : Client) : Decidable (Ready c) := inferInstanceAs (Decidable (_ ∧ _))

/-- One step. -/
def step (cfg : Settings) (c : Client) (a : Act) : Option Client :=
  if c.fault ≠ none then none
  else match a with
    | .tick ms => some { c with clock := c.clock + ms }
    | .room rooms => if c.tcp = .opened then some { c with room := rooms } else none
    | .tcpConnected rooms =>
      if c.tcp = .connecting ∧ c.inbox = [] then some (c.onConnect cfg rooms) else none
    | .tcpClosed =>
      if c.tcp ≠ .closed ∧ c.inbox = [] then
        some { c with tcp := .closed, room := [] }.onDisconnect
      else none
    | .ack => if Ready c then some c.handleQueue else none
    | .data bytes =>
      if Ready c ∧ bytes ≠ [] ∧ bytes.length < 2 ^ 31 then
        some { c with lastServerActivity := c.millis, inbox := bytes }
      else none
    | .parse =>
      match c.inbox with
      | [] => none
      | currentByte :: rest => some (c.parse currentByte rest)
    | .poll => if Ready c then some (c.onPoll cfg) else none
    | .connect => some c.connect
    -- what it does to a connection that is being established is up to the TCP library
    | .disconnect force =>
      if force ∧ c.tcp = .connecting then none else some (c.disconnect force)
    | .publish m freeMemory => some (c.publish m freeMemory).2
    | .subscribe topic qos => some (c.subscribe topic qos).2
    | .unsubscribe topic => some (c.unsubscribe topic).2
    | .clearQueue => some c.clearQueue

/-- **What a step can be**, with what is asked of the state before it. -/
inductive Step (cfg : Settings) (c : Client) : Act → Client → Prop where
  | tick (ms : ℕ) : Step cfg c (.tick ms) { c with clock := c.clock + ms }
  | room (rooms : List Room) (hopen : c.tcp = .opened) :
      Step cfg c (.room rooms) { c with room := rooms }
  | tcpConnected (rooms : List Room) (htcp : c.tcp = .connecting) (hinbox : c.inbox = []) :
      Step cfg c (.tcpConnected rooms) (c.onConnect cfg rooms)
  | tcpClosed (htcp : c.tcp ≠ .closed) (hinbox : c.inbox = []) :
      Step cfg c .tcpClosed { c with tcp := .closed, room := [] }.onDisconnect
  | ack (hready : Ready c) : Step cfg c .ack c.handleQueue
  | data (bytes : List UInt8) (hready : Ready c) (hsome : bytes ≠ [])
      (hsize : bytes.length < 2 ^ 31) :
      Step cfg c (.data bytes) { c with lastServerActivity := c.millis, inbox := bytes }
  | parse (currentByte : UInt8) (rest : List UInt8) (hinbox : c.inbox = currentByte :: rest) :
      Step cfg c .parse (c.parse currentByte rest)
  | poll (hready : Ready c) : Step cfg c .poll (c.onPoll cfg)
  | connect : Step cfg c .connect c.connect
  | disconnect (force : Bool) (hforce : ¬(force = true ∧ c.tcp = .connecting)) :
      Step cfg c (.disconnect force) (c.disconnect force)
  | publish (m : Message) (freeMemory : ℕ) :
      Step cfg c (.publish m freeMemory) (c.publish m freeMemory).2
  | subscribe (topic : List UInt8) (qos : UInt8) :
      Step cfg c (.subscribe topic qos) (c.subscribe topic qos).2
  | unsubscribe (topic : List UInt8) : Step cfg c (.unsubscribe topic) (c.unsubscribe topic).2
  | clearQueue : Step cfg c .clearQueue c.clearQueue

theorem step_cases {cfg : Settings} {c c' : Client} {a : Act} (h : step cfg c a = some c') :
    Step cfg c a c' := by
  unfold step at h
  split at h
  · cases h
  cases a with
  | tick ms =>
    obtain rfl := Option.some.inj h
    exact .tick ms
  | room rooms =>
    obtain ⟨hopen, h⟩ := Option.ite_none_right_eq_some.mp h
    obtain rfl := Option.some.inj h
    exact .room rooms hopen
  | tcpConnected rooms =>
    obtain ⟨hready, h⟩ := Option.ite_none_right_eq_some.mp h
    obtain rfl := Option.some.inj h
    exact .tcpConnected rooms hready.1 hready.2
  | tcpClosed =>
    obtain ⟨hready, h⟩ := Option.ite_none_right_eq_some.mp h
    obtain rfl := Option.some.inj h
    exact .tcpClosed hready.1 hready.2
  | ack =>
    obtain ⟨hready, h⟩ := Option.ite_none_right_eq_some.mp h
    obtain rfl := Option.some.inj h
    exact .ack hready
  | data bytes =>
    obtain ⟨hready, h⟩ := Option.ite_none_right_eq_some.mp h
    obtain rfl := Option.some.inj h
    exact .data bytes hready.1 hready.2.1 hready.2.2
  | parse =>
    simp only at h
    split at h
    · cases h
    · rename_i currentByte rest hinbox
      obtain rfl := Option.some.inj h
      exact .parse currentByte rest hinbox
  | poll =>
    obtain ⟨hready, h⟩ := Option.ite_none_right_eq_some.mp h
    obtain rfl := Option.some.inj h
    exact .poll hready
  | connect =>
    obtain rfl := Option.some.inj h
    exact .connect
  | disconnect force =>
    obtain ⟨hforce, h⟩ := Option.ite_none_left_eq_some.mp h
    obtain rfl := Option.some.inj h
    exact .disconnect force hforce
  | publish m freeMemory =>
    obtain rfl := Option.some.inj h
    exact .publish m freeMemory
  | subscribe topic qos =>
    obtain rfl := Option.some.inj h
    exact .subscribe topic qos
  | unsubscribe topic =>
    obtain rfl := Option.some.inj h
    exact .unsubscribe topic
  | clearQueue =>
    obtain rfl := Option.some.inj h
    exact .clearQueue

end Client

end Mqtt

end SentinelEdge
