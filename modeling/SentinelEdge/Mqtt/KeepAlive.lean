import SentinelEdge.Mqtt.Session

/-!
# The keep-alive

`_onPoll` sends a PINGREQ when there has been no activity for a while, and closes the
connection when the server has not answered it for twice the keep-alive interval, “to
avoid half open connections”. What it takes for a ping that is not answered is
`_lastPingRequestTime`: `_sendPing` sets it, and `_onPingResp` sets it back to zero.

But `_handleQueue` sets it back as well, whenever it writes something, and it is
`_handleQueue` that writes the PINGREQ. So the client never waits for the answer to a ping
that has been sent. As long as `_lastPingRequestTime` is not zero, the PINGREQ is still in
the queue, and none of it has been written (`SentinelEdge.Mqtt.Client.ping_waits`): what
times out is the queue, and not the server. A server that is silent is never given up while
nothing else is in the queue and TCP takes the pings
(`SentinelEdge.Mqtt.Client.connected_of_silent`).

What helps is that the firmware publishes with QoS 1. A message that is not acknowledged
keeps the queue, and the pings in it, where they are; then the time-out does its work, and
the connection is closed within 2.7 times the keep-alive interval and three times that
between two polls (`SentinelEdge.Mqtt.Client.clock_lt_of_unanswered`). One of the three is
needed because zero stands for no ping: a ping that is queued at the very millisecond at
which the counter is at zero goes unnoticed, and the next poll queues another.
-/

namespace SentinelEdge

namespace Mqtt

open Relation LabelledRun WrapClock

namespace Line

variable {now : UInt32} {R : Room → Prop} {P : OutPacket → Prop} {A : UInt16 → Prop}
  {l l' : Line}

/-- A ping that is not answered is in the queue, and none of it has been sent. -/
def Waits (l : Line) : Prop :=
  l.lastPingRequestTime ≠ 0 → l.tcp = .opened ∧
    ∃ ahead behind, l.queue = ahead ++ pingReqOutPacket :: behind ∧ (ahead = [] → l.sent = 0)

theorem waits_of_eq_zero (h : l.lastPingRequestTime = 0) : l.Waits := fun hping => absurd h hping

/-- No change but its own sending gets the ping out of the queue, and that one ends the
waiting. -/
theorem Change.waits (h : Change now R P A l l') (hl : l.Waits) : l'.Waits := by
  cases h with
  | move hmove hopen =>
    cases hmove with
    | write room hqueue hsent hspace hroom => exact waits_of_eq_zero rfl
    | @pop head next hqueue hsent hreleased =>
      intro hping
      obtain ⟨-, ahead, behind, heq, hfirst⟩ := hl hping
      rw [hqueue] at heq
      refine ⟨hopen, ?_⟩
      rcases ahead with _ | ⟨p, ahead⟩
      · -- the ping would have been sent
        obtain ⟨rfl, -⟩ := List.cons.inj heq
        have hzero : l.sent = 0 := hfirst rfl
        rw [hsent] at hzero
        cases hzero
      · exact ⟨ahead, behind, (List.cons.inj heq).2, fun _ => rfl⟩
  | push p hp =>
    intro hping
    obtain ⟨hopen, ahead, behind, heq, hfirst⟩ := hl hping
    exact ⟨hopen, ahead, behind ++ [p], by simp [heq], hfirst⟩
  | @insert head next p hp hqueue =>
    intro hping
    obtain ⟨hopen, ahead, behind, heq, hfirst⟩ := hl hping
    rw [hqueue] at heq
    refine ⟨hopen, ?_⟩
    rcases ahead with _ | ⟨q, ahead⟩
    · obtain ⟨rfl, rfl⟩ := List.cons.inj heq
      exact ⟨[], p :: next, rfl, hfirst⟩
    · obtain ⟨rfl, rfl⟩ := List.cons.inj heq
      exact ⟨head :: p :: ahead, behind, rfl, fun h => absurd h (List.cons_ne_nil _ _)⟩
  | @release head next hqueue hid =>
    intro hping
    obtain ⟨hopen, ahead, behind, heq, hfirst⟩ := hl hping
    rw [hqueue] at heq
    refine ⟨hopen, ?_⟩
    rcases ahead with _ | ⟨q, ahead⟩
    · -- a ping is released from the start
      obtain ⟨rfl, rfl⟩ := List.cons.inj heq
      exact ⟨[], next, rfl, hfirst⟩
    · obtain ⟨rfl, rfl⟩ := List.cons.inj heq
      exact ⟨head.release :: ahead, behind, rfl, fun h => absurd h (List.cons_ne_nil _ _)⟩
  | pong => exact waits_of_eq_zero rfl
  | drop hopen => exact waits_of_eq_zero rfl

theorem waits_of_changes (h : ReflTransGen (Change now R P A) l l') (hl : l.Waits) : l'.Waits := by
  induction h with
  | refl => exact hl
  | tail _ hlast ih => exact hlast.waits ih

end Line

namespace Client

variable {cfg : Settings} {t₀ : ℕ} {R : Room → Prop} {c c' : Client} {a : Act} {as : List Act}

/-! ### What times out -/

/-- The queue is not thrown away while a ping waits in it: neither by a CONNACK without a session
nor by the firmware. -/
def Undisturbed (c : Client) : Act → Prop
  | .parse => ∀ connectReturnCode, c.events = [.connAck false connectReturnCode] →
      c.lastPingRequestTime = 0
  | .clearQueue => c.lastPingRequestTime = 0
  | _ => True

/-- What is peculiar to a step but a poll. -/
theorem waits_prepare (h : step cfg c a = some c') (ha : a ≠ .poll)
    (hundisturbed : c.Undisturbed a) (hl : c.line.Waits) : (prepare cfg c a).Waits := by
  cases a with
  | tcpConnected rooms =>
    refine Line.waits_of_eq_zero ?_
    by_contra hping
    have htcp : c.tcp = .opened := (hl hping).1
    rw [tcp_of_tcpConnected h] at htcp
    cases htcp
  | tcpClosed => exact Line.waits_of_eq_zero rfl
  | parse =>
    rcases prepare_parse cfg c with
      ⟨sessionPresent, connectReturnCode, he, h⟩ | ⟨-, h⟩ | ⟨-, -, h⟩
    · rw [h]
      cases sessionPresent with
      | false => exact Line.waits_of_eq_zero (hundisturbed connectReturnCode he)
      | true => exact hl
    · rw [h]
      exact hl
    · rwa [h]
  | poll => exact absurd rfl ha
  | connect =>
    show c.connect.line.Waits
    rw [connect]
    split
    · exact hl
    · intro hping
      obtain ⟨hopen, hqueue⟩ := hl hping
      have hopen : c.tcp = .opened := hopen
      refine ⟨?_, hqueue⟩
      show (if c.tcp = .closed then Tcp.connecting else c.tcp) = .opened
      rw [hopen]
      rfl
  | disconnect force =>
    rw [prepare_disconnect]
    split
    · exact hl
    · split <;> exact hl
  | clearQueue =>
    show c.clearQueue.line.Waits
    rw [clearQueue]
    split
    · exact hl
    · exact Line.waits_of_eq_zero hundisturbed
  | _ => exact hl

/-- A ping that becomes due is put into the queue. -/
theorem waits_poll (hroom : c.Roomed R) (hsteady : c.line.Steady) (hopen : c.tcp = .opened)
    (hl : c.line.Waits) : (c.onPoll cfg).line.Waits := by
  have hpoll : ∀ {d : Client}, d.Roomed R → d.line.Waits → d.handleQueue.line.Waits := by
    intro d hroom hd
    obtain ⟨-, -, hchanges⟩ :=
      handleQueue_follows (P := fun _ => True) (A := fun _ => True) d hroom
    exact Line.waits_of_changes hchanges hd
  rw [onPoll]
  split
  · obtain ⟨c₁, hline, -, htcp, hroom₁, hfollows⟩ :=
      disconnect_true_follows (P := fun _ => True) (A := fun _ => True) c
    obtain ⟨-, -, hchanges⟩ := hfollows (hroom.of_eq htcp hroom₁)
    refine Line.waits_of_changes hchanges ?_
    rw [hline]
    exact hl
  · split
    · have hping : Line.Waits { c.line with
          lastPingRequestTime := c.millis, queue := c.queue ++ [pingReqOutPacket] } := by
        refine fun _ => ⟨hopen, c.queue, [], rfl, fun hnil => ?_⟩
        have hsane := hsteady.sane
        have hnil : c.line.queue = [] := hnil
        rwa [Sender.Sane, hnil] at hsane
      have hroom' : Roomed R { c with
          lastPingRequestTime := c.millis, queue := c.queue ++ [pingReqOutPacket] } :=
        hroom.of_eq rfl rfl
      have hsend := handleQueue_follows (P := fun _ => True) (A := fun _ => True) _ hroom'
      exact hpoll hsend.1 (Line.waits_of_changes hsend.2.2 hping)
    · exact hpoll hroom hl

theorem waits_step (h : step cfg c a = some c') (hoffers : a.Offers R)
    (hundisturbed : c.Undisturbed a) (hc : c.Roomed R ∧ c.line.Steady ∧ c.line.Waits) :
    c'.Roomed R ∧ c'.line.Steady ∧ c'.line.Waits := by
  obtain ⟨hroom, hsteady, hwaits⟩ := hc
  obtain ⟨hroom', hsteady'⟩ :=
    step_inv hroom hoffers h (steady_prepare h hsteady) fun l l' hl hchange => hchange.steady hl
  refine ⟨hroom', hsteady', ?_⟩
  by_cases ha : a = .poll
  · subst ha
    cases step_cases h with
    | poll hready => exact waits_poll hroom hsteady hready.1 hwaits
  · exact (step_inv hroom hoffers h (waits_prepare h ha hundisturbed hwaits)
      fun l l' hl hchange => hchange.waits hl).2

/-- **The client waits for no answer to a ping that it has sent.** In every run in which the queue
is not thrown away while a ping waits in it, `_lastPingRequestTime` is not zero only as long as
the PINGREQ is in the queue and none of it has been written. -/
theorem ping_waits (hrun : exec (step cfg) (init cfg t₀) as = some c)
    (hundisturbed : Along (step cfg) (fun c a _ => c.Undisturbed a) (init cfg t₀) as)
    (hping : c.lastPingRequestTime ≠ 0) :
    c.tcp = .opened ∧ ∃ ahead behind,
      c.queue = ahead ++ pingReqOutPacket :: behind ∧ (ahead = [] → c.sent = 0) := by
  have hinv := exec_inv_of_along
    (I := fun c : Client => c.Roomed (fun _ => True) ∧ c.line.Steady ∧ c.line.Waits)
    (fun _ a _ hc h hundisturbed => waits_step h a.offers_true hundisturbed hc)
    ⟨roomed_of_nil rfl, Line.steady_of_sent_eq_zero rfl, Line.waits_of_eq_zero rfl⟩ hundisturbed
    hrun
  exact hinv.2.2 hping

/-- A connection whose server says nothing once it has accepted the client, and without room when
the ping is due. -/
def stuckRun : List Act :=
  acceptRun ++ [.tick 21000, .poll]

theorem ping_waits_stuck :
    ∃ c, exec (step plainSettings) (init plainSettings 0) stuckRun = some c ∧
      c.lastPingRequestTime ≠ 0 ∧ c.tcp = .opened ∧ ∃ ahead behind,
        c.queue = ahead ++ pingReqOutPacket :: behind ∧ (ahead = [] → c.sent = 0) := by
  have hrun : exec (step plainSettings) (init plainSettings 0) stuckRun = some _ := rfl
  have hping : (21000 : UInt32) ≠ 0 := by decide
  refine ⟨_, hrun, hping, ping_waits hrun ?_ hping⟩
  exact ⟨trivial, trivial, trivial, fun _ _ => rfl, fun _ _ => rfl, fun _ _ => rfl, fun _ _ => rfl,
    trivial, trivial, trivial⟩

/-! ### A server that is silent -/

/-- The client has nothing to send, and waits for nothing. -/
structure Resting (c : Client) : Prop where
  state : c.state = .connected
  tcp : c.tcp = .opened
  queue : c.queue = []
  sent : c.sent = 0
  ping : c.lastPingRequestTime = 0

/-- The server says nothing, and the firmware does nothing; TCP has room for a ping whenever
the client looks for it, and still has it when the client looks again. -/
def Silent (c : Client) : Act → Prop
  | .tick _ | .room _ | .ack | .connect => True
  | .poll => ∃ room rest, c.room = room :: rest ∧ 10 < room.space ∧
      pingReqOutPacket.size ≤ room.again
  | _ => False

theorem handleQueueLoop_of_nil (now : UInt32) (rooms : List Room) {s : Sender}
    (hs : s.queue = []) (disconnect : Bool) :
    handleQueueLoop now rooms s disconnect = (s, rooms, disconnect) := by
  cases rooms with
  | nil => rw [handleQueueLoop]
  | cons room rooms =>
    rw [handleQueueLoop]
    split
    · rfl
    · rename_i head next hqueue
      rw [hs] at hqueue
      cases hqueue

/-- There is nothing to do about an empty queue. -/
theorem handleQueue_of_nil (h : c.queue = []) : c.handleQueue = c := by
  rw [handleQueue, handleQueueLoop_of_nil _ _ h]
  rfl

/-- **A ping is written at once**, and forgotten. -/
theorem resting_sendPing (hc : c.Resting) {room : Room} {rest : List Room}
    (hroom : c.room = room :: rest) (hspace : 10 < room.space)
    (hagain : pingReqOutPacket.size ≤ room.again) :
    c.sendPing.Resting ∧ c.sendPing.calls = c.calls := by
  obtain ⟨d, hd⟩ : ∃ d : Client, d = { c with
      lastPingRequestTime := c.millis, queue := c.queue ++ [pingReqOutPacket] } := ⟨_, rfl⟩
  have hqueue : d.queue = [pingReqOutPacket] := by rw [hd, hc.queue]; rfl
  have hsent : d.sent = 0 := by rw [hd]; exact hc.sent
  have hroom : d.room = room :: rest := by rw [hd]; exact hroom
  -- all of it is written, and it leaves the queue
  have hloop : handleQueueLoop d.millis d.room d.toSender false =
      ((d.write d.millis pingReqOutPacket room).pop [], rest, false) := by
    have hwhole : d.sent < pingReqOutPacket.size := by rw [hsent]; decide
    have hall : pingReqOutPacket.size = (d.write d.millis pingReqOutPacket room).sent := by
      rw [Sender.write_sent, hsent]
      omega
    rw [hroom, handleQueueLoop, hqueue]
    simp only [Sender.trySend, if_pos hwhole]
    have hother : (pingReqOutPacket.packetType == PacketType.DISCONNECT) = false := rfl
    have hreleased : pingReqOutPacket.released = true := rfl
    rw [if_neg (Nat.not_le.mpr hspace), if_pos hall, if_pos hreleased, hother, Bool.and_false,
      Bool.or_false]
    exact handleQueueLoop_of_nil _ _ rfl _
  have hsend : c.sendPing = { d with
      toSender := (d.write d.millis pingReqOutPacket room).pop [], room := rest } := by
    have hwork : c.sendPing = d.handleQueue := by rw [hd]; rfl
    rw [hwork, handleQueue, hloop]
    rfl
  rw [hsend, hd]
  exact ⟨⟨hc.state, hc.tcp, rfl, rfl, rfl⟩, rfl⟩

theorem resting_step (h : step cfg c a = some c') (hsilent : c.Silent a) (hc : c.Resting) :
    c'.Resting ∧ c'.calls = c.calls := by
  have hqueue : c.handleQueue = c := handleQueue_of_nil hc.queue
  cases step_cases h with
  | tick ms => exact ⟨⟨hc.state, hc.tcp, hc.queue, hc.sent, hc.ping⟩, rfl⟩
  | room rooms hopen => exact ⟨⟨hc.state, hc.tcp, hc.queue, hc.sent, hc.ping⟩, rfl⟩
  | ack hready =>
    rw [hqueue]
    exact ⟨hc, rfl⟩
  | poll hready =>
    obtain ⟨room, rest, hroom, hspace, hagain⟩ := hsilent
    have hcalm : ¬PingTimedOut cfg c := fun h => h.1 hc.ping
    rw [onPoll, if_neg hcalm]
    split
    · obtain ⟨hping, hcalls⟩ := resting_sendPing hc hroom hspace hagain
      rw [handleQueue_of_nil hping.queue]
      exact ⟨hping, hcalls⟩
    · rw [hqueue]
      exact ⟨hc, rfl⟩
  | connect =>
    rw [connect_of_connected hc.state]
    exact ⟨hc, rfl⟩
  | tcpConnected rooms htcp hinbox => exact hsilent.elim
  | tcpClosed htcp hinbox => exact hsilent.elim
  | data bytes hready hsome hsize => exact hsilent.elim
  | parse b rest hinbox => exact hsilent.elim
  | disconnect force hforce => exact hsilent.elim
  | publish m freeMemory => exact hsilent.elim
  | subscribe topic qos => exact hsilent.elim
  | unsubscribe topic => exact hsilent.elim
  | clearQueue => exact hsilent.elim

/-- **A silent server is never given up**, however long it is silent and however often the client
looks after it, if TCP takes its pings: the client is connected all the time, and the firmware
is told nothing else. -/
theorem connected_of_silent (hc : c.Resting) (hrun : exec (step cfg) c as = some c')
    (hsilent : Along (step cfg) (fun c a _ => c.Silent a) c as) :
    c'.state = .connected ∧ c'.tcp = .opened ∧ c'.calls = c.calls := by
  obtain ⟨hrest, hcalls⟩ := exec_inv_of_along
    (I := fun d : Client => d.Resting ∧ d.calls = c.calls)
    (fun d a d' hd h hsilent => by
      obtain ⟨hrest, hcalls⟩ := resting_step h hsilent hd.1
      exact ⟨hrest, hcalls.trans hd.2⟩) ⟨hc, rfl⟩ hsilent hrun
  exact ⟨hrest.state, hrest.tcp, hcalls⟩

/-- Nothing comes for a day, but for two polls. -/
def silentRun : List Act :=
  [.tick 43200000, .room [.of 100], .poll, .tick 43200000, .room [.of 100], .poll]

theorem connected_of_silent_day :
    ∃ c', exec (step plainSettings) acceptedClient silentRun = some c' ∧ c'.clock = 86400000 ∧
      c'.state = .connected ∧ c'.tcp = .opened ∧ c'.calls = acceptedClient.calls := by
  have hrun : exec (step plainSettings) acceptedClient silentRun = some _ := rfl
  refine ⟨_, hrun, rfl, connected_of_silent ⟨rfl, rfl, rfl, rfl, rfl⟩ hrun ?_⟩
  have htakes : 10 < (Room.of 100).space ∧ pingReqOutPacket.size ≤ (Room.of 100).again := by decide
  exact ⟨trivial, trivial, ⟨_, [], rfl, htakes⟩, trivial, trivial, ⟨_, [], rfl, htakes⟩, trivial⟩

/-! ### A message that is not acknowledged -/

/-- The head of the queue has been sent, and waits for its acknowledgement. -/
structure Blocked (c : Client) : Prop where
  state : c.state = .connected
  tcp : c.tcp = .opened
  inbox : c.inbox = []
  waits : ∃ head next, c.queue = head :: next ∧ c.sent = head.size ∧ head.released = false

/-- **Nothing is written** behind a message that is not acknowledged. -/
theorem handleQueue_of_blocked (hc : c.Blocked) :
    ∃ rooms, c.handleQueue = { c with room := rooms } := by
  obtain ⟨head, next, hqueue, hsent, hreleased⟩ := hc.waits
  have hloop : ∃ rooms,
      handleQueueLoop c.millis c.room c.toSender false = (c.toSender, rooms, false) := by
    cases c.room with
    | nil => exact ⟨[], by rw [handleQueueLoop]⟩
    | cons room rooms =>
      rw [handleQueueLoop, hqueue]
      simp only
      split
      · exact ⟨rooms, rfl⟩
      · have hnothing : c.toSender.trySend c.millis head room = c.toSender :=
          if_neg (by rw [hsent]; exact Nat.lt_irrefl _)
        have hdone : ¬c.sent < head.size := by rw [hsent]; exact Nat.lt_irrefl _
        rw [hnothing, if_pos hsent.symm, hreleased, decide_eq_false hdone]
        exact ⟨rooms, rfl⟩
  obtain ⟨rooms, hloop⟩ := hloop
  refine ⟨rooms, ?_⟩
  rw [handleQueue, hloop]
  rfl

/-- What a client with such a head keeps. -/
structure Rests (c c' : Client) : Prop where
  blocked : c'.Blocked
  clock : c.clock ≤ c'.clock
  written : c'.lastClientActivity = c.lastClientActivity
  ping : c'.lastPingRequestTime = c.lastPingRequestTime

theorem Rests.refl (hc : c.Blocked) : Rests c c := ⟨hc, Nat.le_refl _, rfl, rfl⟩

theorem Rests.trans {d e : Client} (h : Rests c d) (h' : Rests d e) : Rests c e :=
  ⟨h'.blocked, h.clock.trans h'.clock, h'.written.trans h.written, h'.ping.trans h.ping⟩

theorem handleQueue_rests (hc : c.Blocked) : Rests c c.handleQueue := by
  obtain ⟨rooms, hrooms⟩ := handleQueue_of_blocked hc
  rw [hrooms]
  exact ⟨⟨hc.state, hc.tcp, hc.inbox, hc.waits⟩, Nat.le_refl _, rfl, rfl⟩

/-- Another packet behind it. -/
theorem addBack_rests (hc : c.Blocked) (p : OutPacket) : Rests c (c.addBack p) := by
  obtain ⟨head, next, hqueue, hsent, hreleased⟩ := hc.waits
  have hpush : Blocked { c with queue := c.queue ++ [p] } :=
    ⟨hc.state, hc.tcp, hc.inbox, head, next ++ [p], by rw [hqueue]; rfl, hsent, hreleased⟩
  obtain ⟨hblocked, hclock, hwritten, hping⟩ := handleQueue_rests hpush
  exact ⟨hblocked, hclock, hwritten, hping⟩

/-- A packet that has drawn an identifier, and is asked for it. -/
theorem drawn_rests (hc : c.Blocked) (p : OutPacket) (packetId : UInt16) :
    Rests c ({ c with nextPacketId := packetId }.addBackId p).2 := by
  have hdrawn : Blocked { c with nextPacketId := packetId } :=
    ⟨hc.state, hc.tcp, hc.inbox, hc.waits⟩
  obtain ⟨hblocked, hclock, hwritten, hping⟩ := addBack_rests hdrawn p
  rw [addBackId]
  simp only
  split
  · exact ⟨⟨hblocked.state, hblocked.tcp, hblocked.inbox, hblocked.waits⟩, hclock, hwritten, hping⟩
  · exact ⟨hblocked, hclock, hwritten, hping⟩

/-- Nothing comes from the server, and the firmware does not disconnect. -/
def Unanswered : Act → Prop
  | .data _ | .parse | .disconnect _ => False
  | _ => True

/-- **A step but a poll**, of a client that gets no answer and stays connected. -/
theorem rests_step (h : step cfg c a = some c') (hc : c.Blocked) (ha : Unanswered a)
    (hpoll : a ≠ .poll) (hopen : c'.tcp = .opened) : Rests c c' := by
  cases step_cases h with
  | tick ms => exact ⟨⟨hc.state, hc.tcp, hc.inbox, hc.waits⟩, Nat.le_add_right _ _, rfl, rfl⟩
  | room rooms _ => exact ⟨⟨hc.state, hc.tcp, hc.inbox, hc.waits⟩, Nat.le_refl _, rfl, rfl⟩
  | tcpConnected rooms htcp hinbox =>
    rw [hc.tcp] at htcp
    cases htcp
  | tcpClosed htcp hinbox => cases hopen
  | ack hready => exact handleQueue_rests hc
  | data bytes hready hsome hsize => exact ha.elim
  | parse b rest hinbox => exact ha.elim
  | poll hready => exact absurd rfl hpoll
  | connect =>
    rw [connect_of_connected hc.state]
    exact .refl hc
  | disconnect force hforce => exact ha.elim
  | publish m freeMemory =>
    rw [publish]
    split
    · exact .refl hc
    · exact drawn_rests hc _ _
  | subscribe topic qos =>
    rw [subscribe]
    split
    · exact .refl hc
    · exact drawn_rests hc _ _
  | unsubscribe topic =>
    rw [unsubscribe]
    split
    · exact .refl hc
    · exact drawn_rests hc _ _
  | clearQueue =>
    rw [clearQueue_of_connected hc.state]
    exact .refl hc

/-- **A poll**, of a client that gets no answer and stays connected: no ping has timed out, and
if one is due it is queued. -/
theorem poll_rests (hc : c.Blocked) (hopen : (c.onPoll cfg).tcp = .opened) :
    ¬PingTimedOut cfg c ∧
      Rests (if PingDue cfg c then { c with lastPingRequestTime := c.millis } else c)
        (c.onPoll cfg) := by
  have hcalm : ¬PingTimedOut cfg c := by
    intro hlate
    have hclosed : (c.onPoll cfg).tcp = .closed := by
      have hstate : ¬c.state = .disconnected := by rw [hc.state]; decide
      rw [onPoll, if_pos hlate, disconnect, if_neg hstate, if_pos rfl, close, if_pos hc.tcp]
      rfl
    rw [hclosed] at hopen
    cases hopen
  refine ⟨hcalm, ?_⟩
  rw [onPoll, if_neg hcalm]
  split
  · have hdue : Blocked { c with lastPingRequestTime := c.millis } :=
      ⟨hc.state, hc.tcp, hc.inbox, hc.waits⟩
    have hsend : Rests { c with lastPingRequestTime := c.millis } c.sendPing :=
      addBack_rests hdue pingReqOutPacket
    exact hsend.trans (handleQueue_rests hsend.blocked)
  · exact handleQueue_rests hc

/-! ### How long it takes -/

/-- The true time of the last poll. -/
def lastPoll (polled : ℕ) (c : Client) : Act → Client → ℕ
  | .poll, _ => c.clock
  | _, _ => polled

theorem lastPoll_of_ne (ha : a ≠ .poll) (polled : ℕ) : lastPoll polled c a c' = polled := by
  cases a with
  | poll => exact absurd rfl ha
  | _ => rfl

/-- The client stays connected without an answer, and polls come at least every `D`
milliseconds. -/
def Patient (D : ℕ) (_ : Client × ℕ) (a : Act) (y : Client × ℕ) : Prop :=
  Unanswered a ∧ y.1.tcp = .opened ∧ y.1.clock ≤ y.2 + D

/-- How far the client has got, that wrote to the connection at `W` for the last time. -/
inductive Phase (keepAlive W D : ℕ) (ping : UInt32) (polled : ℕ) : Prop where
  /-- No ping was due at the last poll. -/
  | calm (hping : ping = 0) (hpolled : polled < W + 700 * keepAlive)
  /-- A ping has been queued just when the clock was at zero. -/
  | unnoticed (hping : ping = 0) (hzero : stamp polled = 0)
      (hpolled : polled < W + 700 * keepAlive + D)
  /-- A ping has been queued at `P`, and had not timed out at the last poll. -/
  | pinged (P : ℕ) (hping : ping = stamp P) (hnoticed : ping ≠ 0) (hle : P ≤ polled)
      (hP : P < W + 700 * keepAlive + 2 * D) (hpolled : polled < P + 2000 * keepAlive)

/-- What holds while the client waits for an answer. -/
structure Waiting (cfg : Settings) (W D : ℕ) (x : Client × ℕ) : Prop where
  blocked : x.1.Blocked
  written : x.1.lastClientActivity = stamp W
  since : W ≤ x.2
  polled : x.2 ≤ x.1.clock
  soon : x.1.clock ≤ x.2 + D
  phase : Phase cfg.keepAlive.toNat W D x.1.lastPingRequestTime x.2

variable {W D polled : ℕ} {ping : UInt32}

/-- The last poll was not too long ago. -/
theorem Phase.polled_lt {keepAlive : ℕ} (h : Phase keepAlive W D ping polled) :
    polled < W + 2700 * keepAlive + 2 * D := by
  cases h with
  | calm hping hpolled => omega
  | unnoticed hping hzero hpolled => omega
  | pinged P hping hnoticed hle hP hpolled => omega

/-- A ping is queued at a poll that comes in time. -/
theorem phase_of_due {keepAlive t : ℕ} (hkeep : 0 < keepAlive) (hD : D ≤ 2 ^ 28)
    (hpolled : polled ≤ t) (hsoon : t ≤ polled + D)
    (hdue : polled < W + 700 * keepAlive ∨
      stamp polled = 0 ∧ polled < W + 700 * keepAlive + D) :
    Phase keepAlive W D (stamp t) t := by
  by_cases hzero : stamp t = 0
  · refine .unnoticed hzero hzero ?_
    rcases hdue with hearly | ⟨hzero', hearly⟩
    · omega
    · -- the clock has been at zero since the last poll
      have hsame := toNat_stamp_sub hpolled (by omega)
      rw [hzero, hzero'] at hsame
      have hnone : 0 = t - polled := hsame
      omega
  · refine .pinged t rfl hzero (Nat.le_refl _) ?_ (by omega)
    rcases hdue with hearly | ⟨-, hearly⟩ <;> omega

/-- **What a poll does**, that comes in time: it goes on waiting, or it queues a ping. -/
theorem Waiting.poll {c : Client} (h : Waiting cfg W D (c, polled)) (hD : D ≤ 2 ^ 28)
    (hkeep : 0 < cfg.keepAlive.toNat) (hcalm : ¬PingTimedOut cfg c) :
    Phase cfg.keepAlive.toNat W D
      (if PingDue cfg c then { c with lastPingRequestTime := c.millis }
        else c).lastPingRequestTime c.clock := by
  have hsince : W ≤ polled := h.since
  have hpolled : polled ≤ c.clock := h.polled
  have hsoon : c.clock ≤ polled + D := h.soon
  have hphase : Phase cfg.keepAlive.toNat W D c.lastPingRequestTime polled := h.phase
  have hlt := hphase.polled_lt
  have hK : cfg.keepAlive.toNat < 2 ^ 16 := cfg.keepAlive.toNat_lt
  have hage : (c.millis - c.lastClientActivity).toNat = c.clock - W := by
    rw [show c.lastClientActivity = stamp W from h.written]
    exact toNat_stamp_sub (by omega) (by omega)
  -- what happens as long as no ping is noticed
  have hnext : c.lastPingRequestTime = 0 →
      (polled < W + 700 * cfg.keepAlive.toNat ∨
        stamp polled = 0 ∧ polled < W + 700 * cfg.keepAlive.toNat + D) →
      Phase cfg.keepAlive.toNat W D
        (if PingDue cfg c then { c with lastPingRequestTime := c.millis }
          else c).lastPingRequestTime c.clock := by
    intro hping hearly
    split
    · exact phase_of_due hkeep hD hpolled hsoon hearly
    · rename_i hnot
      have hyoung : ¬Quiet cfg c c.lastClientActivity := fun hquiet =>
        hnot ⟨h.blocked.state, hping, Or.inl hquiet⟩
      rw [Quiet, hage] at hyoung
      exact .calm hping (by omega)
  cases hphase with
  | calm hping hearly => exact hnext hping (Or.inl hearly)
  | unnoticed hping hzero hearly => exact hnext hping (Or.inr ⟨hzero, hearly⟩)
  | pinged P hping hnoticed hle hP hlate =>
    -- nothing is due while a ping is waited for
    have hnot : ¬PingDue cfg c := fun hdue => hnoticed hdue.2.1
    have hsince : (c.millis - c.lastPingRequestTime).toNat = c.clock - P := by
      rw [hping]
      exact toNat_stamp_sub (by omega) (by omega)
    have htime : ¬cfg.keepAlive.toNat * 1000 * 2 ≤ c.clock - P := fun hlong =>
      hcalm ⟨hnoticed, by rwa [hsince]⟩
    rw [if_neg hnot]
    exact .pinged P hping hnoticed (by omega) hP (by omega)

theorem waiting_step (hD : D ≤ 2 ^ 28) (hkeep : 0 < cfg.keepAlive.toNat)
    (hc : Waiting cfg W D (c, polled)) (h : step cfg c a = some c')
    (hpatient : Patient D (c, polled) a (c', lastPoll polled c a c')) :
    Waiting cfg W D (c', lastPoll polled c a c') := by
  obtain ⟨ha, hopen, hsoon⟩ := hpatient
  by_cases hpoll : a = .poll
  · subst hpoll
    cases step_cases h with
    | poll hready =>
      obtain ⟨hcalm, hrests⟩ := poll_rests hc.blocked hopen
      have hphase := hc.poll hD hkeep hcalm
      have hclock : (if PingDue cfg c then { c with lastPingRequestTime := c.millis }
          else c).clock = c.clock := by split <;> rfl
      have hwritten : (if PingDue cfg c then { c with lastPingRequestTime := c.millis }
          else c).lastClientActivity = c.lastClientActivity := by split <;> rfl
      refine ⟨hrests.blocked, ?_, hc.since.trans hc.polled, ?_, hsoon, ?_⟩
      · exact hrests.written.trans (hwritten.trans hc.written)
      · have hle := hrests.clock
        rwa [hclock] at hle
      · show Phase _ W D (c.onPoll cfg).lastPingRequestTime c.clock
        rw [hrests.ping]
        exact hphase
  · rw [lastPoll_of_ne hpoll] at hsoon ⊢
    obtain ⟨hblocked, hclock, hwritten, hping⟩ := rests_step h hc.blocked ha hpoll hopen
    refine ⟨hblocked, hwritten.trans hc.written, hc.since, hc.polled.trans hclock, hsoon, ?_⟩
    show Phase _ W D c'.lastPingRequestTime polled
    rw [hping]
    exact hc.phase

/-- **A server that does not acknowledge a message is given up** in time. From the moment at which a
message has been written that has to be acknowledged, a client that gets no answer is connected
for less than 2.7 times the keep-alive interval and three times that of the polls. -/
theorem clock_lt_of_unanswered {y : Client × ℕ} (hc : c.Blocked)
    (hping : c.lastPingRequestTime = 0) (hwritten : c.lastClientActivity = c.millis)
    (hD : D ≤ 2 ^ 28) (hkeep : 0 < cfg.keepAlive.toNat)
    (hrun : exec (observe (step cfg) lastPoll) (c, c.clock) as = some y)
    (hpatient : Along (observe (step cfg) lastPoll) (Patient D) (c, c.clock) as) :
    y.1.clock < c.clock + 2700 * cfg.keepAlive.toNat + 3 * D := by
  have hstart : Waiting cfg c.clock D (c, c.clock) :=
    ⟨hc, hwritten, Nat.le_refl _, Nat.le_refl _, Nat.le_add_right _ _, .calm hping (by omega)⟩
  have hend : Waiting cfg c.clock D y := by
    refine exec_inv_of_along ?_ hstart hpatient hrun
    rintro ⟨s, polled⟩ a ⟨s', polled'⟩ hs h hpatient
    obtain ⟨hstep, hpolled⟩ := observe_eq_some.mp h
    obtain rfl : polled' = lastPoll polled s a s' := hpolled
    exact waiting_step hD hkeep hs hstep hpatient
  have hlt := hend.phase.polled_lt
  have hsoon := hend.soon
  omega

/-- A message has been written, and the server does not acknowledge it. -/
def unansweredRun : List Act :=
  [.tick 20000, .poll, .publish shortMessage 8192, .tick 20000, .room [.of 100], .poll]

/-- The client that has written it. -/
def blockedClient : Client :=
  (exec (step plainSettings) (init plainSettings 0)
    (publishRun ++ [.room [.of 100], .ack])).get rfl

theorem clock_lt_of_unanswered_short :
    ∃ y, exec (observe (step plainSettings) lastPoll) (blockedClient, blockedClient.clock)
        unansweredRun = some y ∧
      y.1.clock < blockedClient.clock + 2700 * plainSettings.keepAlive.toNat + 3 * 20000 := by
  have hrun : exec (observe (step plainSettings) lastPoll) (blockedClient, blockedClient.clock)
      unansweredRun = some _ := rfl
  have hblocked : blockedClient.Blocked := ⟨rfl, rfl, rfl, _, _, rfl, rfl, rfl⟩
  refine ⟨_, hrun, clock_lt_of_unanswered (D := 20000) hblocked rfl rfl (by decide) (by decide)
    hrun ?_⟩
  exact ⟨⟨trivial, rfl, by decide⟩, ⟨trivial, rfl, by decide⟩, ⟨trivial, rfl, by decide⟩,
    ⟨trivial, rfl, by decide⟩, ⟨trivial, rfl, by decide⟩, ⟨trivial, rfl, by decide⟩, trivial⟩

end Client

end Mqtt

end SentinelEdge
