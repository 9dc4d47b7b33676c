import SentinelEdge.Mqtt.Client

/-!
# What a step of the client does to its line

Most of what can be said about the client concerns its queue, its connection and its
state; the parser and the callbacks only decide what happens to these. Together they are
the `SentinelEdge.Mqtt.Line`, and this file says once what a step can do to it.

A step begins with what is peculiar to it: a connection is opened, a ping is noted, the
server's CONNACK is taken in (`SentinelEdge.Mqtt.Client.prepare`). Whatever it does after
that is a sequence of six changes (`SentinelEdge.Mqtt.Line.Change`), and which packets
it can bring into the queue depends on the step and on the state before it
(`SentinelEdge.Mqtt.Client.Brings`). That is `SentinelEdge.Mqtt.Client.step_changes`; an
invariant of the line has to be checked for the beginnings and for the six changes, and for
nothing else (`SentinelEdge.Mqtt.Client.step_inv`).
-/

namespace SentinelEdge

namespace Mqtt

open Relation LabelledRun

/-- The queue, the connection and the state. -/
structure Line extends Sender where
  /-- `_state`. -/
  state : ClientState
  /-- The TCP connection. -/
  tcp : Tcp

namespace Line

/-- The line when the connection is gone. -/
def dropped (l : Line) : Line where
  toSender := { l.toSender with lastPingRequestTime := 0 }.clearQueue true
  state := .disconnected
  tcp := .closed

/-- The line when a CONNACK has been taken in. -/
def answered (sessionPresent : Bool) (connectReturnCode : UInt8) (l : Line) : Line where
  toSender := if !sessionPresent then l.toSender.clearQueue false else l.toSender
  state := if connectReturnCode = 0 then .connected else l.state
  tcp := l.tcp

/-- **What can happen to the line**, at a time `now`, with a TCP library that is `R`, with new
packets that are `P`, and with acknowledgements of packets whose identifiers are `A`. -/
inductive Change (now : UInt32) (R : Room → Prop) (P : OutPacket → Prop) (A : UInt16 → Prop) :
    Line → Line → Prop where
  /-- The queue is worked on. -/
  | move {l : Line} {s : Sender} (hmove : Sender.Move now R l.toSender s)
      (hopen : l.tcp = .opened) : Change now R P A l { l with toSender := s }
  /-- A packet is put at the end of the queue. -/
  | push {l : Line} (p : OutPacket) (hp : P p) :
      Change now R P A l { l with queue := l.queue ++ [p] }
  /-- A packet is put behind the head. -/
  | insert {l : Line} {head : OutPacket} {next : List OutPacket} (p : OutPacket) (hp : P p)
      (hqueue : l.queue = head :: next) :
      Change now R P A l { l with queue := head :: p :: next }
  /-- The head is released. -/
  | release {l : Line} {head : OutPacket} {next : List OutPacket}
      (hqueue : l.queue = head :: next) (hid : A head.packetId) :
      Change now R P A l { l with queue := head.release :: next }
  /-- A ping is answered. -/
  | pong {l : Line} : Change now R P A l { l with lastPingRequestTime := 0 }
  /-- The connection is closed. -/
  | drop {l : Line} (hopen : l.tcp = .opened) : Change now R P A l l.dropped

end Line

open Line

/-- What the client is told that is not about the connection. -/
def Event.Plain : Event → Prop
  | .connAck _ _ => False
  | .violation => False
  | _ => True

/-- What the client is told of a message. -/
def Event.OfMessage : Event → Prop
  | .message _ => True
  | .publish _ _ => True
  | _ => False

theorem Event.OfMessage.plain {e : Event} (h : e.OfMessage) : e.Plain := by
  cases e with
  | message m => trivial
  | publish packetId qos => trivial
  | _ => exact h.elim

/-- The identifier of the packet that is acknowledged. -/
def Event.acks : Event → Option UInt16
  | .ack _ packetId => some packetId
  | .unsubAck packetId => some packetId
  | .subAck packetId _ => some packetId
  | _ => none

/-- The acknowledgement that the client owes the server when it is told this. -/
def Event.answer : Event → Option (Ack × UInt16)
  | .publish packetId qos =>
    if qos = 1 then some (.pubAck, packetId)
    else if qos = 2 then some (.pubRec, packetId)
    else none
  | .ack .pubRec packetId => some (.pubRel, packetId)
  | .ack .pubRel packetId => some (.pubComp, packetId)
  | _ => none

/-- The packet is the acknowledgement that is owed. -/
def Event.Answers (e : Event) (p : OutPacket) : Prop :=
  ∃ a packetId, e.answer = some (a, packetId) ∧ p = pubAckOutPacket (a.pending packetId)

namespace Client

/-- The line of the client. -/
def line (c : Client) : Line where
  toSender := c.toSender
  state := c.state
  tcp := c.tcp

/-- What the TCP library is going to say of its room: there is none on a connection that is not
open, and `R` holds of it. -/
structure Roomed (R : Room → Prop) (c : Client) : Prop where
  closed : c.tcp ≠ .opened → c.room = []
  said : ∀ r ∈ c.room, R r

/-- What comes out of `c` by such changes, at one point in time. -/
def Follows (R : Room → Prop) (P : OutPacket → Prop) (A : UInt16 → Prop) (c c' : Client) : Prop :=
  c.Roomed R →
    c'.Roomed R ∧ c'.clock = c.clock ∧ ReflTransGen (Change c.millis R P A) c.line c'.line

variable {R : Room → Prop} {P : OutPacket → Prop} {A : UInt16 → Prop} {c c' c'' : Client}

/-- Without a connection, there is nothing to say. -/
theorem roomed_of_nil (h : c.room = []) : c.Roomed R where
  closed := fun _ => h
  said := by
    rw [h]
    exact fun r hr => absurd hr List.not_mem_nil

/-- The connection is open. -/
theorem roomed_of_opened (hopen : c.tcp = .opened) (h : ∀ r ∈ c.room, R r) : c.Roomed R where
  closed := fun hclosed => absurd hopen hclosed
  said := h

theorem Follows.refl (c : Client) : Follows R P A c c := fun hroom => ⟨hroom, rfl, .refl⟩

theorem Follows.trans {c d e : Client} (h : Follows R P A c d) (h' : Follows R P A d e) :
    Follows R P A c e := by
  intro hroom
  obtain ⟨hroom', hclock, hchanges⟩ := h hroom
  obtain ⟨hroom'', hclock', hchanges'⟩ := h' hroom'
  rw [millis, hclock] at hchanges'
  exact ⟨hroom'', hclock'.trans hclock, hchanges.trans hchanges'⟩

/-- A change of the line, with whatever else happens to the rest. -/
theorem Follows.of_change {c d : Client} (h : Change c.millis R P A c.line d.line)
    (hclock : d.clock = c.clock) (hroom : c.Roomed R → d.Roomed R) : Follows R P A c d :=
  fun hc => ⟨hroom hc, hclock, .single h⟩

/-- A change that leaves the connection and its room as they are. -/
theorem Follows.of_change_queue {c d : Client} (h : Change c.millis R P A c.line d.line)
    (hclock : d.clock = c.clock) (htcp : d.tcp = c.tcp) (hroom : d.room = c.room) :
    Follows R P A c d := by
  refine .of_change h hclock fun hc => ⟨?_, ?_⟩
  · rw [htcp, hroom]
    exact hc.closed
  · rw [hroom]
    exact hc.said

/-- What does not concern the line at all. -/
theorem Follows.of_eq (hline : c'.line = c.line) (hclock : c'.clock = c.clock)
    (hroom : c'.room = c.room) : Follows R P A c c' := by
  intro hc
  have htcp : c'.tcp = c.tcp := congrArg Line.tcp hline
  refine ⟨⟨?_, ?_⟩, hclock, by rw [hline]⟩
  · rw [htcp, hroom]
    exact hc.closed
  · rw [hroom]
    exact hc.said

/-! ### The queue -/

theorem close_follows (c : Client) : Follows R P A c c.close := by
  rw [close]
  split
  · rename_i hopen
    exact .of_change (.drop hopen) rfl fun _ => roomed_of_nil rfl
  · exact .refl c

theorem handleQueueLoop_room_nil (now : UInt32) (s : Sender) (disconnect : Bool) :
    handleQueueLoop now [] s disconnect = (s, [], disconnect) := by
  rw [handleQueueLoop]

/-- Moves of the queue are changes of the line. -/
theorem changes_of_moves {now : UInt32} {l : Line} (hopen : l.tcp = .opened) {s : Sender}
    (h : ReflTransGen (Sender.Move now R) l.toSender s) :
    ReflTransGen (Change now R P A) l { l with toSender := s } := by
  induction h with
  | refl => exact .refl
  | tail hfirst hlast ih => exact ih.tail (.move (l := { l with toSender := _ }) hlast hopen)

theorem handleQueue_follows (c : Client) : Follows R P A c c.handleQueue := by
  rw [handleQueue]
  generalize hr : handleQueueLoop c.millis c.room c.toSender false = r
  have hloop : Follows R P A c { c with toSender := r.1, room := r.2.1 } := by
    intro hroom
    by_cases hopen : c.tcp = .opened
    · have hmoves := Sender.moves_handleQueueLoop c.millis hroom.said c.toSender false
      rw [hr] at hmoves
      refine ⟨roomed_of_opened hopen fun x hx => hroom.said x ?_, rfl,
        changes_of_moves (l := c.line) hopen hmoves⟩
      rw [← hr] at hx
      exact Sender.mem_of_mem_handleQueueLoop c.millis c.toSender false hx
    · rw [hroom.closed hopen, handleQueueLoop_room_nil] at hr
      subst hr
      exact ⟨roomed_of_nil rfl, rfl, .refl⟩
  simp only
  split
  · exact hloop.trans (close_follows _)
  · exact hloop

theorem addBack_follows {p : OutPacket} (hp : P p) (c : Client) : Follows R P A c (c.addBack p) :=
  .trans (.of_change_queue (d := { c with queue := c.queue ++ [p] }) (.push p hp) rfl rfl rfl)
    (handleQueue_follows _)

/-- To ask for the identifier does nothing to the line. -/
theorem addBackId_follows (p : OutPacket) (c : Client) :
    Follows R P A (c.addBack p) (c.addBackId p).2 := by
  rw [addBackId]
  simp only
  split <;> exact .of_eq rfl rfl rfl

/-- A packet that has drawn an identifier, and is asked for it. -/
theorem drawn_follows {p : OutPacket} (hp : P p) (c : Client) (packetId : UInt16) :
    Follows R P A c ({ c with nextPacketId := packetId }.addBackId p).2 :=
  .trans (d := { c with nextPacketId := packetId }) (.of_eq rfl rfl rfl)
    ((addBack_follows hp _).trans (addBackId_follows p _))

theorem insert_follows {p : OutPacket} (hp : P p) (c : Client) :
    Follows R P A c (c.insert p) := by
  rw [insert]
  split
  · exact .of_eq rfl rfl rfl
  · rename_i head next hqueue
    exact .trans (.of_change_queue (d := { c with queue := head :: p :: next })
      (.insert (l := c.line) p hp hqueue) rfl rfl rfl) (handleQueue_follows _)

theorem releaseHead_follows {packetId : UInt16} (hid : A packetId) (c : Client) :
    Follows R P A c (c.releaseHead packetId) := by
  rw [releaseHead]
  split
  · exact .refl c
  · rename_i head next hqueue
    split
    · rename_i hhead
      exact .of_change_queue (.release (l := c.line) hqueue (hhead ▸ hid)) rfl rfl rfl
    · exact .refl c

/-! ### What work on the queue leaves alone -/

/-- The callback is that for messages. -/
def isMessage : Callback → Bool
  | .onMessage .. => true
  | _ => false

/-- The messages that the firmware has been told of. -/
def messages (c : Client) : List Callback := c.calls.filter isMessage

/-- What does not change when the queue is worked on. The parser does, but only when the
connection is closed. -/
structure Keeps (c c' : Client) : Prop where
  pendingPubRels : c'.pendingPubRels = c.pendingPubRels
  messages : c'.messages = c.messages
  inbox : c'.inbox = c.inbox
  parser : c'.tcp = .opened → c.tcp = .opened ∧ c'.parser = c.parser
  cleared : c'.parser = c.parser ∨ c'.parser = clearParser c.parser

theorem Keeps.refl (c : Client) : Keeps c c := ⟨rfl, rfl, rfl, fun h => ⟨h, rfl⟩, Or.inl rfl⟩

/-- A parser that is cleared twice is cleared. -/
theorem cleared_trans {p q r : Parser} (h : q = p ∨ q = clearParser p)
    (h' : r = q ∨ r = clearParser q) : r = p ∨ r = clearParser p := by
  rcases h with rfl | rfl
  · exact h'
  · rcases h' with rfl | rfl <;> exact Or.inr rfl

theorem Keeps.trans {c d e : Client} (h : Keeps c d) (h' : Keeps d e) : Keeps c e where
  pendingPubRels := h'.pendingPubRels.trans h.pendingPubRels
  messages := h'.messages.trans h.messages
  inbox := h'.inbox.trans h.inbox
  parser := by
    intro hopen
    obtain ⟨hopen', hparser'⟩ := h'.parser hopen
    obtain ⟨hopen'', hparser⟩ := h.parser hopen'
    exact ⟨hopen'', hparser'.trans hparser⟩
  cleared := cleared_trans h.cleared h'.cleared

/-- Another callback. -/
theorem messages_append {c c' : Client} (call : Callback) (hcall : isMessage call = false)
    (h : c'.calls = c.calls ++ [call]) : c'.messages = c.messages := by
  rw [messages, messages, h, List.filter_append, List.filter_singleton, hcall]
  exact List.append_nil _

theorem onDisconnect_keeps (c : Client) (h : c.tcp = .closed) : Keeps c c.onDisconnect where
  pendingPubRels := rfl
  messages := messages_append (.onDisconnect c.disconnectReason) rfl rfl
  inbox := rfl
  parser := by
    intro hopen
    have hopen : c.tcp = .opened := hopen
    rw [h] at hopen
    cases hopen
  cleared := Or.inr rfl

theorem close_keeps (c : Client) : Keeps c c.close := by
  rw [close]
  split
  · exact .trans (d := { c with tcp := .closed, room := [] })
      ⟨rfl, rfl, rfl, nofun, Or.inl rfl⟩ (onDisconnect_keeps _ rfl)
  · exact .refl c

theorem handleQueue_keeps (c : Client) : Keeps c c.handleQueue := by
  rw [handleQueue]
  generalize handleQueueLoop c.millis c.room c.toSender false = r
  have hloop : Keeps c { c with toSender := r.1, room := r.2.1 } :=
    ⟨rfl, rfl, rfl, fun h => ⟨h, rfl⟩, Or.inl rfl⟩
  simp only
  split
  · exact hloop.trans (close_keeps _)
  · exact hloop

theorem addBack_keeps (p : OutPacket) (c : Client) : Keeps c (c.addBack p) :=
  .trans (d := { c with queue := c.queue ++ [p] }) ⟨rfl, rfl, rfl, fun h => ⟨h, rfl⟩, Or.inl rfl⟩
    (handleQueue_keeps _)

/-- A packet that has drawn an identifier, and is asked for it. -/
theorem drawn_keeps (p : OutPacket) (c : Client) (packetId : UInt16) :
    Keeps c ({ c with nextPacketId := packetId }.addBackId p).2 := by
  refine .trans (d := { c with nextPacketId := packetId })
    ⟨rfl, rfl, rfl, fun h => ⟨h, rfl⟩, Or.inl rfl⟩ ((addBack_keeps p _).trans ?_)
  rw [addBackId]
  simp only
  split <;> exact ⟨rfl, rfl, rfl, fun h => ⟨h, rfl⟩, Or.inl rfl⟩

theorem insert_keeps (p : OutPacket) (c : Client) : Keeps c (c.insert p) := by
  rw [insert]
  split
  · exact ⟨rfl, rfl, rfl, fun h => ⟨h, rfl⟩, Or.inl rfl⟩
  · rename_i head next hqueue
    exact .trans (d := { c with queue := head :: p :: next })
      ⟨rfl, rfl, rfl, fun h => ⟨h, rfl⟩, Or.inl rfl⟩ (handleQueue_keeps _)

theorem releaseHead_keeps (packetId : UInt16) (c : Client) : Keeps c (c.releaseHead packetId) := by
  rw [releaseHead]
  split
  · exact .refl c
  · split
    · exact ⟨rfl, rfl, rfl, fun h => ⟨h, rfl⟩, Or.inl rfl⟩
    · exact .refl c

/-! ### The identifiers -/

@[simp] theorem close_nextPacketId (c : Client) : c.close.nextPacketId = c.nextPacketId := by
  rw [close]
  split <;> rfl

@[simp] theorem handleQueue_nextPacketId (c : Client) :
    c.handleQueue.nextPacketId = c.nextPacketId := by
  rw [handleQueue]
  simp only
  split
  · exact close_nextPacketId _
  · rfl

@[simp] theorem addBack_nextPacketId (p : OutPacket) (c : Client) :
    (c.addBack p).nextPacketId = c.nextPacketId := handleQueue_nextPacketId _

@[simp] theorem addBackId_nextPacketId (p : OutPacket) (c : Client) :
    (c.addBackId p).2.nextPacketId = c.nextPacketId := by
  rw [addBackId]
  simp only
  split <;> exact addBack_nextPacketId p c

@[simp] theorem insert_nextPacketId (p : OutPacket) (c : Client) :
    (c.insert p).nextPacketId = c.nextPacketId := by
  rw [insert]
  split
  · rfl
  · exact handleQueue_nextPacketId _

@[simp] theorem releaseHead_nextPacketId (packetId : UInt16) (c : Client) :
    (c.releaseHead packetId).nextPacketId = c.nextPacketId := by
  rw [releaseHead]
  split
  · rfl
  · split <;> rfl

@[simp] theorem disconnect_true_nextPacketId (c : Client) :
    (c.disconnect true).nextPacketId = c.nextPacketId := by
  rw [disconnect]
  split
  · rfl
  · exact close_nextPacketId _

/-- No handler draws an identifier. -/
theorem dispatch_nextPacketId (c : Client) (e : Event) :
    (c.dispatch e).nextPacketId = c.nextPacketId := by
  cases e with
  | connAck sessionPresent connectReturnCode =>
    show (c.onConnAck sessionPresent connectReturnCode).nextPacketId = _
    rw [onConnAck]
    cases sessionPresent <;> by_cases hcode : connectReturnCode = 0 <;> simp [hcode]
  | violation => exact disconnect_true_nextPacketId c
  | pingResp => rfl
  | ack a packetId =>
    cases a with
    | pubAck => exact releaseHead_nextPacketId packetId c
    | pubRec => exact (insert_nextPacketId _ _).trans (releaseHead_nextPacketId packetId c)
    | pubRel =>
      show (c.onPubRel packetId).nextPacketId = _
      rw [onPubRel]
      split
      · exact (insert_nextPacketId _ _).trans (releaseHead_nextPacketId packetId c)
      · rfl
    | pubComp => exact releaseHead_nextPacketId packetId c
  | unsubAck packetId =>
    exact (handleQueue_nextPacketId _).trans (releaseHead_nextPacketId packetId c)
  | subAck packetId status =>
    exact (handleQueue_nextPacketId _).trans (releaseHead_nextPacketId packetId c)
  | message m =>
    show (c.onMessage m).nextPacketId = _
    rw [onMessage]
    split <;> rfl
  | publish packetId qos =>
    show (c.onPublish packetId qos).nextPacketId = _
    rw [onPublish]
    split
    · exact addBack_nextPacketId _ c
    · split
      · simp only
        split <;> exact addBack_nextPacketId _ c
      · rfl

theorem foldl_dispatch_nextPacketId (es : List Event) (c : Client) :
    (es.foldl dispatch c).nextPacketId = c.nextPacketId := by
  induction es generalizing c with
  | nil => rfl
  | cons e es ih => exact (ih _).trans (dispatch_nextPacketId c e)

/-- A step in which the firmware does not ask for anything to be sent. -/
def Act.Drawless : Act → Prop
  | .publish .. | .subscribe .. | .unsubscribe _ => False
  | _ => True

/-- **Only what the firmware sends draws an identifier.** -/
theorem step_nextPacketId {cfg : Settings} {a : Act} (h : step cfg c a = some c')
    (ha : a.Drawless) : c'.nextPacketId = c.nextPacketId := by
  cases step_cases h with
  | publish m freeMemory => exact ha.elim
  | subscribe topic qos => exact ha.elim
  | unsubscribe topic => exact ha.elim
  | tcpConnected rooms htcp hinbox =>
    exact (handleQueue_nextPacketId _).trans (handleQueue_nextPacketId _)
  | ack hready => exact handleQueue_nextPacketId c
  | parse b rest hinbox =>
    rw [parse]
    split
    · rfl
    · exact foldl_dispatch_nextPacketId _ _
  | poll hready =>
    rw [onPoll]
    split
    · exact disconnect_true_nextPacketId c
    · split
      · exact (handleQueue_nextPacketId _).trans (handleQueue_nextPacketId _)
      · exact handleQueue_nextPacketId c
  | connect =>
    rw [connect]
    split <;> rfl
  | disconnect force hforce =>
    cases force with
    | true => exact disconnect_true_nextPacketId c
    | false =>
      rw [disconnect]
      simp only [Bool.false_eq_true, if_false]
      split
      · rfl
      · split
        · exact addBack_nextPacketId _ _
        · rfl
  | clearQueue =>
    rw [clearQueue]
    split <;> rfl
  | _ => rfl

/-- The client accepts a message if it does not refuse it. -/
theorem accepts_of_not {freeMemory : ℕ}
    (h : ¬(c.state ≠ .connected ∨ freeMemory < mqttMinFreeMemory)) : Accepts c.state freeMemory :=
  ⟨not_not.mp fun hstate => h (Or.inl hstate), Nat.not_lt.mp fun hmemory => h (Or.inr hmemory)⟩

/-- A message that is not accepted changes nothing. -/
theorem publish_of_not_accepts {m : Message} {freeMemory : ℕ} (h : ¬Accepts c.state freeMemory) :
    (c.publish m freeMemory).2 = c := by
  have hrejected : c.state ≠ .connected ∨ freeMemory < mqttMinFreeMemory := by
    by_contra hnot
    exact h (accepts_of_not hnot)
  rw [publish, if_pos hrejected]

/-- A message that is accepted and has to be acknowledged leaves its identifier behind. -/
theorem publish_nextPacketId {m : Message} {freeMemory : ℕ} (h : Accepts c.state freeMemory) :
    (c.publish m freeMemory).2.nextPacketId =
      if m.qos ≠ 0 then c.publishId m else c.nextPacketId := by
  have hnot : ¬(c.state ≠ .connected ∨ freeMemory < mqttMinFreeMemory) :=
    not_or.mpr ⟨not_not.mpr h.1, Nat.not_lt.mpr h.2⟩
  rw [publish, if_neg hnot]
  exact addBackId_nextPacketId _ _

/-! ### The handlers -/

theorem onConnAck_follows (sessionPresent : Bool) (connectReturnCode : UInt8) (c : Client) :
    ∃ c₁ : Client, c₁.line = c.line.answered sessionPresent connectReturnCode ∧
      c₁.clock = c.clock ∧ c₁.tcp = c.tcp ∧ c₁.room = c.room ∧
      Follows R P A c₁ (c.onConnAck sessionPresent connectReturnCode) := by
  rw [onConnAck]
  by_cases hcode : connectReturnCode = 0
  · refine ⟨{ (if !sessionPresent then
      { c with pendingPubRels := [], toSender := c.toSender.clearQueue false } else c) with
        state := .connected
        calls := (if !sessionPresent then
          { c with pendingPubRels := [], toSender := c.toSender.clearQueue false }
          else c).calls ++ [Callback.onConnect sessionPresent] }, ?_, ?_, ?_, ?_, ?_⟩
    · cases sessionPresent <;> simp [line, answered, hcode]
    · cases sessionPresent <;> rfl
    · cases sessionPresent <;> rfl
    · cases sessionPresent <;> rfl
    · simp only [hcode, if_true]
      exact handleQueue_follows _
  · refine ⟨{ (if !sessionPresent then
      { c with pendingPubRels := [], toSender := c.toSender.clearQueue false } else c) with
        disconnectReason := connectReturnCode }, ?_, ?_, ?_, ?_, ?_⟩
    · cases sessionPresent <;> simp [line, answered, hcode]
    · cases sessionPresent <;> rfl
    · cases sessionPresent <;> rfl
    · cases sessionPresent <;> rfl
    · simp only [hcode, if_false]
      exact .refl _

/-- A forced `disconnect`. -/
theorem disconnect_true_follows (c : Client) :
    ∃ c₁ : Client, c₁.line = { c.line with state := .disconnected } ∧ c₁.clock = c.clock ∧
      c₁.tcp = c.tcp ∧ c₁.room = c.room ∧ Follows R P A c₁ (c.disconnect true) := by
  refine ⟨{ c with state := .disconnected }, rfl, rfl, rfl, rfl, ?_⟩
  rw [disconnect]
  split
  · rename_i hstate
    refine .of_eq ?_ rfl rfl
    simp [line, hstate]
  · exact close_follows _

/-- The handlers of everything but a CONNACK and a violation of the protocol. -/
theorem dispatch_follows (c : Client) {e : Event} (he : e.Plain)
    (hacks : ∀ packetId, e.acks = some packetId → A packetId) (hanswers : ∀ p, e.Answers p → P p) :
    Follows R P A c (c.dispatch e) := by
  cases e with
  | connAck sessionPresent connectReturnCode => exact he.elim
  | violation => exact he.elim
  | pingResp => exact .of_change_queue (.pong (l := c.line)) rfl rfl rfl
  | ack a packetId =>
    have hrelease := releaseHead_follows (R := R) (P := P) (hacks packetId rfl) c
    cases a with
    | pubAck => exact hrelease.trans (.of_eq rfl rfl rfl)
    | pubRec =>
      exact hrelease.trans (insert_follows (hanswers _ ⟨.pubRel, packetId, rfl, rfl⟩) _)
    | pubRel =>
      have hcomplete := hanswers _ ⟨.pubComp, packetId, rfl, rfl⟩
      show Follows R P A c (c.onPubRel packetId)
      rw [onPubRel]
      split
      · exact (hrelease.trans (insert_follows hcomplete _)).trans (.of_eq rfl rfl rfl)
      · exact .of_eq rfl rfl rfl
    | pubComp => exact hrelease.trans (.of_eq rfl rfl rfl)
  | unsubAck packetId =>
    have hrelease := releaseHead_follows (R := R) (P := P) (hacks packetId rfl) c
    have hcall : Follows R P A (c.releaseHead packetId) { c.releaseHead packetId with
        calls := (c.releaseHead packetId).calls ++ [.onUnsubscribe packetId] } :=
      .of_eq rfl rfl rfl
    exact (hrelease.trans hcall).trans (handleQueue_follows _)
  | subAck packetId status =>
    have hrelease := releaseHead_follows (R := R) (P := P) (hacks packetId rfl) c
    have hcall : Follows R P A (c.releaseHead packetId) { c.releaseHead packetId with
        calls := (c.releaseHead packetId).calls ++ [.onSubscribe packetId status] } :=
      .of_eq rfl rfl rfl
    exact (hrelease.trans hcall).trans (handleQueue_follows _)
  | message m =>
    show Follows R P A c (c.onMessage m)
    rw [onMessage]
    split <;> exact .of_eq rfl rfl rfl
  | publish packetId qos =>
    show Follows R P A c (c.onPublish packetId qos)
    rw [onPublish]
    split
    · rename_i hone
      exact addBack_follows (hanswers _ ⟨.pubAck, packetId, if_pos hone, rfl⟩) c
    · rename_i hone
      split
      · rename_i htwo
        have hanswer : (Event.publish packetId qos).answer = some (.pubRec, packetId) :=
          (if_neg hone).trans (if_pos htwo)
        refine (addBack_follows (hanswers _ ⟨.pubRec, packetId, hanswer, rfl⟩) c).trans ?_
        show Follows _ _ _ _ (if _ then _ else _)
        split <;> exact .of_eq rfl rfl rfl
      · exact .refl c

/-! ### A step -/

/-- What the next pass of `_onData` tells the client. -/
def events (c : Client) : List Event :=
  match c.inbox with
  | [] => []
  | currentByte :: rest =>
    match c.parser.step currentByte rest with
    | .error _ => []
    | .ok r => r.2.1

/-- What is peculiar to a step. -/
def prepare (cfg : Settings) (c : Client) : Act → Line
  | .tcpConnected _ =>
    { c.line with tcp := .opened, wire := [], queue := connectOutPacket cfg :: c.queue }
  | .tcpClosed => c.line.dropped
  | .parse =>
    match c.events with
    | [.connAck sessionPresent connectReturnCode] =>
      c.line.answered sessionPresent connectReturnCode
    | [.violation] => { c.line with state := .disconnected }
    | _ => c.line
  | .poll =>
    if PingTimedOut cfg c then { c.line with state := .disconnected }
    else if PingDue cfg c then { c.line with lastPingRequestTime := c.millis }
    else c.line
  | .connect => c.connect.line
  | .disconnect force =>
    if force then { c.line with state := .disconnected }
    else if c.state = .disconnected then c.line
    else { c.line with state := .disconnecting }
  | .clearQueue => c.clearQueue.line
  | _ => c.line

/-- What is peculiar to a pass, by what it tells the client. -/
theorem prepare_parse (cfg : Settings) (c : Client) :
    (∃ sessionPresent connectReturnCode, c.events = [.connAck sessionPresent connectReturnCode] ∧
        prepare cfg c .parse = c.line.answered sessionPresent connectReturnCode) ∨
      (c.events = [.violation] ∧ prepare cfg c .parse = { c.line with state := .disconnected }) ∨
      ((∀ sessionPresent connectReturnCode,
          c.events ≠ [.connAck sessionPresent connectReturnCode]) ∧
        c.events ≠ [.violation] ∧ prepare cfg c .parse = c.line) := by
  have hprepare : prepare cfg c .parse =
      match c.events with
      | [.connAck sessionPresent connectReturnCode] =>
        c.line.answered sessionPresent connectReturnCode
      | [.violation] => { c.line with state := .disconnected }
      | _ => c.line := rfl
  rw [hprepare]
  rcases c.events with _ | ⟨e, _ | ⟨e', es⟩⟩
  · exact .inr (.inr ⟨nofun, nofun, rfl⟩)
  · cases e with
    | connAck sessionPresent connectReturnCode => exact .inl ⟨_, _, rfl, rfl⟩
    | violation => exact .inr (.inl ⟨rfl, rfl⟩)
    | _ => exact .inr (.inr ⟨nofun, nofun, rfl⟩)
  · cases e <;> exact .inr (.inr ⟨nofun, nofun, rfl⟩)

theorem prepare_poll (cfg : Settings) (c : Client) :
    prepare cfg c .poll =
      if PingTimedOut cfg c then { c.line with state := .disconnected }
      else if PingDue cfg c then { c.line with lastPingRequestTime := c.millis }
      else c.line := rfl

theorem prepare_disconnect (cfg : Settings) (c : Client) (force : Bool) :
    prepare cfg c (.disconnect force) =
      if force then { c.line with state := .disconnected }
      else if c.state = .disconnected then c.line
      else { c.line with state := .disconnecting } := rfl

/-- **The packets that a step can bring into the queue**: what the server is owed for what it
has sent, a ping that is due, or what the firmware asks for, if the client accepts it. -/
def Brings (cfg : Settings) (c : Client) : Act → OutPacket → Prop
  | .parse, p => ∃ e ∈ c.events, e.Answers p
  | .poll, p => PingDue cfg c ∧ p = pingReqOutPacket
  | .disconnect force, p => force = false ∧ p = disconnOutPacket
  | .publish m freeMemory, p =>
    Accepts c.state freeMemory ∧ p = publishOutPacket m (c.publishId m)
  | .subscribe topic qos, p =>
    c.state = .connected ∧ p = subscribeOutPacket topic qos (getNextPacketId c.nextPacketId)
  | .unsubscribe topic, p =>
    c.state = .connected ∧ p = unsubscribeOutPacket topic (getNextPacketId c.nextPacketId)
  | _, _ => False

/-- The identifiers that a step takes acknowledgements for. -/
def Acks (c : Client) : Act → UInt16 → Prop
  | .parse, packetId => ∃ e ∈ c.events, e.acks = some packetId
  | _, _ => False

end Client

namespace Parser

/-- What a pass tells the client: one thing at most, but for the end of a message. -/
def Told (es : List Event) : Prop := (∀ e ∈ es, e.OfMessage) ∨ ∃ e, es = [e]

theorem told_singleton (e : Event) : Told [e] := Or.inr ⟨e, rfl⟩

theorem told_nil : Told [] := Or.inl fun _ he => absurd he List.not_mem_nil

theorem told_completePublish (p : Parser) (q : PublishPacket) (m : Chunk) (ms : List Event)
    (hms : ms = [] ∨ ms = [.message m]) : Told (p.completePublish q ms).2 := by
  rw [completePublish]
  split
  · exact told_nil
  · refine Or.inl fun e he => ?_
    rcases hms with rfl | rfl <;> simp at he
    · subst he
      trivial
    · rcases he with rfl | rfl <;> trivial

theorem told_preparePayloadHandling (p : Parser) (q : PublishPacket) (payloadLength : UInt32) :
    Told (p.preparePayloadHandling q payloadLength).2 := by
  rw [preparePayloadHandling]
  split
  · exact told_completePublish _ _ _ _ (Or.inr rfl)
  · exact told_nil

theorem told_parsePublishHeader {p : Parser} {q : PublishPacket} {b : UInt8}
    {r : Parser × List Event} (hr : p.parsePublishHeader q b = .ok r) : Told r.2 := by
  have hmap : ∀ {x : Except Fault Parser} {f : Parser → Parser × List Event},
      x.map f = .ok r → (∀ p', Told (f p').2) → Told r.2 := by
    rintro (e | p') f h hf
    · cases h
    · rw [← Except.ok.inj h]
      exact hf p'
  rw [parsePublishHeader] at hr
  simp only at hr
  split at hr
  · rw [← Except.ok.inj hr]
    exact told_nil
  · split at hr
    · split at hr
      · rw [← Except.ok.inj hr]
        exact told_nil
      · exact hmap hr fun _ => told_nil
    · split at hr
      · refine hmap hr fun p' => ?_
        split
        · exact told_preparePayloadHandling _ _ _
        · exact told_nil
      · split at hr
        · rw [← Except.ok.inj hr]
          exact told_nil
        · split at hr
          · cases hr
          · rw [← Except.ok.inj hr]
            exact told_preparePayloadHandling _ _ _

theorem told_headerByte {p : Parser} {b : UInt8} {r : Parser × List Event}
    (hr : p.headerByte b = .ok r) : Told r.2 := by
  rw [headerByte] at hr
  cases hcurrent : p.current with
  | none =>
    rw [hcurrent] at hr
    cases hr
  | some c =>
    rw [hcurrent] at hr
    cases c with
    | pingResp => cases hr
    | publish q => exact told_parsePublishHeader hr
    | subAck q =>
      rw [← Except.ok.inj hr]
      exact told_nil
    | connAck bytePosition sessionPresent =>
      simp only at hr
      split at hr <;> rw [← Except.ok.inj hr]
      · exact told_nil
      · exact told_singleton _
    | ack a q =>
      simp only at hr
      split at hr <;> rw [← Except.ok.inj hr]
      · exact told_singleton _
      · exact told_nil
    | unsubAck q =>
      simp only at hr
      split at hr <;> rw [← Except.ok.inj hr]
      · exact told_singleton _
      · exact told_nil

/-- **A pass tells the client one thing**, or several that are about a message. -/
theorem told_step {p : Parser} {b : UInt8} {rest : List UInt8}
    {r : Parser × List Event × List UInt8} (hr : p.step b rest = .ok r) : Told r.2.1 := by
  have hone : ∀ {x : Except Fault (Parser × List Event)}, (∀ t, x = .ok t → Told t.2) →
      (x.map fun t => (t.1, t.2, rest)) = .ok r → Told r.2.1 := by
    rintro (f | t) ht h
    · cases h
    · rw [← Except.ok.inj h]
      exact ht t rfl
  rw [step] at hr
  cases hstate : p.bufferState with
  | none =>
    rw [hstate] at hr
    rw [← Except.ok.inj hr]
    show Told (p.firstByte b).2
    unfold firstByte
    simp only
    split
    case h_10 => exact told_singleton _
    all_goals exact told_nil
  | remainingLength =>
    rw [hstate] at hr
    refine hone (fun t ht => ?_) hr
    rw [lengthByte] at ht
    split at ht
    · cases ht
    · simp only at ht
      split at ht
      · split at ht <;> rw [← Except.ok.inj ht]
        · exact told_nil
        · exact told_singleton _
      · rw [← Except.ok.inj ht]
        exact told_nil
  | variableHeader =>
    rw [hstate] at hr
    exact hone (fun t ht => told_headerByte ht) hr
  | payload =>
    rw [hstate] at hr
    cases hcurrent : p.current with
    | none =>
      rw [hcurrent] at hr
      cases hr
    | some c =>
      rw [hcurrent] at hr
      cases c with
      | subAck q =>
        rw [← Except.ok.inj hr]
        exact told_singleton _
      | publish q =>
        rw [← Except.ok.inj hr]
        show Told (p.parsePublishPayload q (b :: rest)).2.1
        rw [parsePublishPayload]
        generalize remainToRead q (b :: rest) = n
        simp only
        split
        · refine told_completePublish _ _ (p.chunk q ((b :: rest).take n.toNat)) _ ?_
          split
          · exact Or.inl rfl
          · exact Or.inr rfl
        · split
          · exact told_nil
          · exact told_singleton _
      | connAck bytePosition sessionPresent => cases hr
      | pingResp => cases hr
      | ack a q => cases hr
      | unsubAck q => cases hr

end Parser

namespace Client

variable {R : Room → Prop} {P : OutPacket → Prop} {A : UInt16 → Prop} {c c' : Client}

/-- Several things that are not about the connection. -/
theorem foldl_dispatch_follows (es : List Event) (hes : ∀ e ∈ es, e.Plain)
    (hacks : ∀ e ∈ es, ∀ packetId, e.acks = some packetId → A packetId)
    (hanswers : ∀ e ∈ es, ∀ p, e.Answers p → P p) (c : Client) :
    Follows R P A c (es.foldl dispatch c) := by
  induction es generalizing c with
  | nil => exact .refl c
  | cons e es ih =>
    obtain ⟨he, hes⟩ := List.forall_mem_cons.mp hes
    obtain ⟨hack, hacks⟩ := List.forall_mem_cons.mp hacks
    obtain ⟨hanswer, hanswers⟩ := List.forall_mem_cons.mp hanswers
    exact (dispatch_follows c he hack hanswer).trans (ih hes hacks hanswers _)

/-- A client with this line follows a client with that one. -/
structure From (R : Room → Prop) (P : OutPacket → Prop) (A : UInt16 → Prop) (now : UInt32)
    (l : Line) (c' : Client) : Prop where
  roomed : c'.Roomed R
  changes : ReflTransGen (Change now R P A) l c'.line

theorem Follows.from (h : Follows R P A c c') (hroom : c.Roomed R) :
    From R P A c.millis c.line c' := by
  obtain ⟨hroom', -, hchanges⟩ := h hroom
  exact ⟨hroom', hchanges⟩

/-- What follows a client that has been prepared. -/
theorem from_of_follows {d : Client} {l : Line} (hline : d.line = l) (hclock : d.clock = c.clock)
    (hroom : d.Roomed R) (h : Follows R P A d c') : From R P A c.millis l c' := by
  have hfrom := h.from hroom
  rwa [hline, millis, hclock] at hfrom

theorem Roomed.of_eq {c₁ : Client} (hroom : c.Roomed R) (htcp : c₁.tcp = c.tcp)
    (hroom₁ : c₁.room = c.room) : c₁.Roomed R where
  closed := by
    rw [htcp, hroom₁]
    exact hroom.closed
  said := by
    rw [hroom₁]
    exact hroom.said

theorem parse_from (cfg : Settings) (hroom : c.Roomed R) {b : UInt8} {rest : List UInt8}
    (hinbox : c.inbox = b :: rest) :
    From R (c.Brings cfg .parse) (c.Acks .parse) c.millis (prepare cfg c .parse)
      (c.parse b rest) := by
  have hevents : c.events = match c.parser.step b rest with
      | .error _ => []
      | .ok r => r.2.1 := by rw [events, hinbox]
  have hprepare := prepare_parse cfg c
  rw [parse]
  cases hstep : c.parser.step b rest with
  | error f =>
    rw [hstep] at hevents
    rw [hevents] at hprepare
    rcases hprepare with ⟨_, _, h, -⟩ | ⟨h, -⟩ | ⟨-, -, h⟩
    · cases h
    · cases h
    · rw [h]
      exact ⟨hroom.of_eq rfl rfl, .refl⟩
  | ok r =>
    rw [hstep] at hevents
    have htold := Parser.told_step hstep
    have hevents : c.events = r.2.1 := hevents
    simp only
    generalize hd : ({ c with parser := r.1, inbox := r.2.2 } : Client) = d
    have hdroom : d.Roomed R := hd ▸ hroom.of_eq rfl rfl
    have hdline : d.line = c.line := hd ▸ rfl
    have hdclock : d.clock = c.clock := hd ▸ rfl
    rw [hevents] at hprepare
    generalize r.2.1 = es at htold hevents hprepare
    rcases hprepare with ⟨sessionPresent, connectReturnCode, rfl, h⟩ | ⟨rfl, h⟩ |
      ⟨hconnAck, hviolation, h⟩
    · obtain ⟨c₁, hline, hclock, htcp, hroom₁, hfollows⟩ :=
        onConnAck_follows (R := R) (P := c.Brings cfg .parse) (A := c.Acks .parse) sessionPresent
          connectReturnCode d
      rw [h, ← hdline]
      exact from_of_follows (c := c) hline (hclock.trans hdclock) (hdroom.of_eq htcp hroom₁)
        hfollows
    · obtain ⟨c₁, hline, hclock, htcp, hroom₁, hfollows⟩ :=
        disconnect_true_follows (R := R) (P := c.Brings cfg .parse) (A := c.Acks .parse) d
      rw [h, ← hdline]
      exact from_of_follows (c := c) hline (hclock.trans hdclock) (hdroom.of_eq htcp hroom₁)
        hfollows
    · -- what is told is plain: it would have been one of the two, otherwise
      have hplain : ∀ e ∈ es, e.Plain := by
        rcases htold with h | ⟨e, rfl⟩
        · exact fun e he => (h e he).plain
        · intro e' he'
          obtain rfl := List.mem_singleton.mp he'
          cases e' with
          | connAck sessionPresent connectReturnCode => exact absurd rfl (hconnAck _ _)
          | violation => exact absurd rfl hviolation
          | _ => trivial
      have hacks : ∀ e ∈ es, ∀ packetId, e.acks = some packetId → c.Acks .parse packetId :=
        fun e he packetId hid => ⟨e, hevents ▸ he, hid⟩
      have hanswers : ∀ e ∈ es, ∀ p, e.Answers p → c.Brings cfg .parse p :=
        fun e he p hp => ⟨e, hevents ▸ he, hp⟩
      rw [h]
      exact from_of_follows (c := c) hdline hdclock hdroom
        (foldl_dispatch_follows es hplain hacks hanswers d)

/-- **What a step does to the line**: what is peculiar to it, and then some changes. -/
theorem step_changes (cfg : Settings) {a : Act} (hroom : c.Roomed R) (hoffers : a.Offers R)
    (h : step cfg c a = some c') :
    From R (c.Brings cfg a) (c.Acks a) c.millis (prepare cfg c a) c' := by
  cases step_cases h with
  | tick ms => exact ⟨hroom.of_eq rfl rfl, .refl⟩
  | room rooms hopen => exact ⟨roomed_of_opened hopen hoffers, .refl⟩
  | tcpConnected rooms htcp hinbox =>
    refine from_of_follows (d := { c with
      tcp := .opened, wire := [], room := rooms, queue := connectOutPacket cfg :: c.queue })
      rfl rfl (roomed_of_opened rfl hoffers) ?_
    exact (handleQueue_follows _).trans (handleQueue_follows _)
  | tcpClosed htcp hinbox => exact ⟨roomed_of_nil rfl, .refl⟩
  | ack hready => exact (handleQueue_follows c).from hroom
  | data bytes hready hsome hsize => exact ⟨hroom.of_eq rfl rfl, .refl⟩
  | parse b rest hinbox => exact parse_from cfg hroom hinbox
  | poll hready =>
    rw [prepare, onPoll]
    split
    · obtain ⟨c₁, hline, hclock, htcp, hroom₁, hfollows⟩ :=
        disconnect_true_follows (R := R) (P := c.Brings cfg .poll) c
      exact from_of_follows (c := c) hline hclock (hroom.of_eq htcp hroom₁) hfollows
    · split
      · rename_i hdue
        refine from_of_follows (d := { c with lastPingRequestTime := c.millis }) rfl rfl
          (hroom.of_eq rfl rfl) ?_
        exact (addBack_follows (P := c.Brings cfg .poll) ⟨hdue, rfl⟩ _).trans
          (handleQueue_follows _)
      · exact (handleQueue_follows c).from hroom
  | connect =>
    refine ⟨?_, .refl⟩
    rw [connect]
    split
    · exact hroom
    · refine ⟨fun hclosed => hroom.closed fun hopen => hclosed ?_, hroom.said⟩
      show (if c.tcp = .closed then _ else _) = _
      rw [hopen]
      rfl
  | disconnect force hforce =>
    cases force with
    | true =>
      obtain ⟨c₁, hline, hclock, htcp, hroom₁, hfollows⟩ :=
        disconnect_true_follows (R := R) (P := c.Brings cfg (.disconnect true)) c
      exact from_of_follows (c := c) hline hclock (hroom.of_eq htcp hroom₁) hfollows
    | false =>
      rw [prepare, disconnect]
      simp only [Bool.false_eq_true, if_false]
      split
      · exact ⟨hroom, .refl⟩
      · split
        · refine from_of_follows (d := { c with state := .disconnecting }) rfl rfl
            (hroom.of_eq rfl rfl) ?_
          exact addBack_follows (P := c.Brings cfg (.disconnect false)) ⟨rfl, rfl⟩ _
        · rename_i hstate
          refine ⟨hroom, ?_⟩
          have : c.line = { c.line with state := .disconnecting } := by
            simp [line, not_not.mp hstate]
          rw [← this]
  | publish m freeMemory =>
    rw [publish]
    split
    · exact ⟨hroom, .refl⟩
    · rename_i hnot
      exact (drawn_follows (P := c.Brings cfg (.publish m freeMemory))
        ⟨accepts_of_not hnot, rfl⟩ c _).from hroom
  | subscribe topic qos =>
    rw [subscribe]
    split
    · exact ⟨hroom, .refl⟩
    · rename_i hstate
      exact (drawn_follows (P := c.Brings cfg (.subscribe topic qos))
        ⟨not_not.mp hstate, rfl⟩ c _).from hroom
  | unsubscribe topic =>
    rw [unsubscribe]
    split
    · exact ⟨hroom, .refl⟩
    · rename_i hstate
      exact (drawn_follows (P := c.Brings cfg (.unsubscribe topic))
        ⟨not_not.mp hstate, rfl⟩ c _).from hroom
  | clearQueue =>
    refine ⟨?_, .refl⟩
    rw [clearQueue]
    split
    · exact hroom
    · exact hroom.of_eq rfl rfl

/-- **The invariant rule for the line**: what holds when the line is prepared for the step,
and every change keeps, holds after the step. -/
theorem step_inv {cfg : Settings} {a : Act} (hroom : c.Roomed R) (hoffers : a.Offers R)
    (h : step cfg c a = some c') {I : Line → Prop} (hprepare : I (prepare cfg c a))
    (hchange : ∀ l l', I l → Change c.millis R (c.Brings cfg a) (c.Acks a) l l' → I l') :
    c'.Roomed R ∧ I c'.line := by
  obtain ⟨hroom', hchanges⟩ := step_changes cfg hroom hoffers h
  refine ⟨hroom', ?_⟩
  generalize c'.line = l at hchanges
  induction hchanges with
  | refl => exact hprepare
  | tail _ hlast ih => exact hchange _ _ ih hlast

end Client

end Mqtt

end SentinelEdge
