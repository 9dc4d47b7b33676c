import SentinelEdge.Mqtt.Delivery

/-!
# What can go wrong

The source guards little against a server that breaks the protocol, and not much against one
that keeps to it. What is undefined there is a `SentinelEdge.Mqtt.Fault` of the model, and this
file says exactly when there is one, in any run (`SentinelEdge.Mqtt.Client.fault_iff`):

* at a fifth digit of a length, which is written behind `_remainingLengthBuffer`;
* at a PINGRESP that is longer than it may be: the loop of `_onData` never ends;
* at the end of a message that has an identifier and no payload: the handler frees the
  `PublishPacket`, and that counts a byte afterwards;
* at a PUBREC while nothing is queued: `_insert` uses a `_head` that is null;
* when the firmware publishes, subscribes or unsubscribes and the packet is not in the queue any
  more when it is asked for its identifier. A message of QoS 0 that goes out at once has been
  deleted by then.

The topic stays in its buffer, and the object for a packet is there whenever it is used. The
latter takes an assumption. A byte that no packet starts with makes the client close the
connection, which clears the parser; but `_onData` goes on with the bytes it has got, and
when it comes to another such byte there is no connection left to close. The parser then
waits for the length of a packet without an object for it, and two bytes later it uses the
object. So what is said here is said of runs in which such a byte is handled on an open
connection only (`SentinelEdge.Mqtt.Client.Tidy`).

A server that sends what can be read does none of this
(`SentinelEdge.Mqtt.Client.Given.sound`): the first three faults need a packet that cannot be
read, and the fourth a PUBREC, which a client that publishes with QoS 1 is not sent. The last
one is up to the firmware, which is safe if it publishes with QoS 1 or 2
(`SentinelEdge.Mqtt.Client.lasts_of_waiting`).
-/

namespace SentinelEdge

namespace Mqtt

open LabelledRun

namespace Client

variable {cfg : Settings} {t₀ : ℕ} {c c' : Client} {a : Act} {as : List Act}

/-! ### What has nothing to do with faults -/

@[simp] theorem close_fault (c : Client) : c.close.fault = c.fault := by
  rw [close]
  split <;> rfl

@[simp] theorem handleQueue_fault (c : Client) : c.handleQueue.fault = c.fault := by
  rw [handleQueue]
  generalize handleQueueLoop c.millis c.room c.toSender false = r
  simp only
  split
  · exact close_fault _
  · rfl

@[simp] theorem addBack_fault (p : OutPacket) (c : Client) : (c.addBack p).fault = c.fault :=
  handleQueue_fault _

@[simp] theorem releaseHead_fault (packetId : UInt16) (c : Client) :
    (c.releaseHead packetId).fault = c.fault := by
  rw [releaseHead]
  split
  · rfl
  · split <;> rfl

@[simp] theorem disconnect_fault (force : Bool) (c : Client) :
    (c.disconnect force).fault = c.fault := by
  rw [disconnect]
  split
  · rfl
  · split
    · exact close_fault _
    · split
      · exact addBack_fault _ _
      · rfl

theorem onConnAck_fault (sessionPresent : Bool) (connectReturnCode : UInt8) (c : Client) :
    (c.onConnAck sessionPresent connectReturnCode).fault = c.fault := by
  rw [onConnAck]
  by_cases hcode : connectReturnCode = 0
  · cases sessionPresent <;> simp [hcode]
  · cases sessionPresent <;> simp [hcode]

theorem onPublish_fault (packetId : UInt16) (qos : UInt8) (c : Client) :
    (c.onPublish packetId qos).fault = c.fault := by
  rw [onPublish]
  split
  · exact addBack_fault _ _
  · split
    · simp only
      split <;> exact addBack_fault _ _
    · rfl

/-! ### The head of the queue -/

/-- Only an empty queue has no head. -/
theorem insert_fault_iff (p : OutPacket) (hnone : c.fault = none) (f : Fault) :
    (c.insert p).fault = some f ↔ f = .nullHead ∧ c.queue = [] := by
  rw [insert]
  split
  · rename_i hqueue
    simp [hqueue, eq_comm]
  · rename_i head next hqueue
    simp [hqueue, hnone]

theorem releaseHead_queue_eq_nil_iff (packetId : UInt16) (c : Client) :
    (c.releaseHead packetId).queue = [] ↔ c.queue = [] := by
  rw [releaseHead]
  split
  · rfl
  · rename_i head next hqueue
    split <;> simp [hqueue]

/-- A client with something in its queue. -/
theorem queue_ne_nil_of_headHas {packetId : UInt16} (h : c.headHas packetId = true) :
    c.queue ≠ [] := by
  intro hqueue
  rw [headHas, hqueue] at h
  cases h

theorem onPubRel_fault (packetId : UInt16) (hnone : c.fault = none) :
    (c.onPubRel packetId).fault = none := by
  rw [onPubRel]
  split
  · rename_i hhead
    refine Option.eq_none_iff_forall_ne_some.mpr fun f hf => ?_
    obtain ⟨-, hqueue⟩ := (insert_fault_iff _ (by rw [releaseHead_fault, hnone]) f).mp hf
    exact queue_ne_nil_of_headHas hhead ((releaseHead_queue_eq_nil_iff _ _).mp hqueue)
  · exact hnone

/-- The handler of this event uses a head that is not there. -/
def Headless (c : Client) : Event → Prop
  | .ack .pubRec _ => c.queue = []
  | _ => False

/-- **What a handler can go wrong on**: a PUBREC while nothing is queued. -/
theorem dispatch_fault_iff (hnone : c.fault = none) (e : Event) (f : Fault) :
    (c.dispatch e).fault = some f ↔ f = .nullHead ∧ c.Headless e := by
  have hnever : ∀ {e : Event}, ¬c.Headless e → (c.dispatch e).fault = none →
      ((c.dispatch e).fault = some f ↔ f = .nullHead ∧ c.Headless e) := by
    intro e he hfault
    rw [hfault]
    exact iff_of_false (fun h => by cases h) fun h => he h.2
  cases e with
  | connAck sessionPresent connectReturnCode =>
    exact hnever id ((onConnAck_fault _ _ c).trans hnone)
  | pingResp => exact hnever id hnone
  | ack a packetId =>
    cases a with
    | pubAck => exact hnever id ((releaseHead_fault packetId c).trans hnone)
    | pubRec =>
      have hrelease : (c.releaseHead packetId).fault = none := by rw [releaseHead_fault, hnone]
      show ((c.releaseHead packetId).insert _).fault = _ ↔ _
      rw [insert_fault_iff _ hrelease, releaseHead_queue_eq_nil_iff]
      rfl
    | pubRel => exact hnever id (onPubRel_fault packetId hnone)
    | pubComp => exact hnever id ((releaseHead_fault packetId c).trans hnone)
  | unsubAck packetId =>
    exact hnever id ((handleQueue_fault _).trans ((releaseHead_fault packetId c).trans hnone))
  | subAck packetId status =>
    exact hnever id ((handleQueue_fault _).trans ((releaseHead_fault packetId c).trans hnone))
  | message m =>
    refine hnever id ?_
    show (c.onMessage m).fault = none
    rw [onMessage]
    split <;> exact hnone
  | publish packetId qos => exact hnever id ((onPublish_fault packetId qos c).trans hnone)
  | violation => exact hnever id ((disconnect_fault true c).trans hnone)

/-- What is told of a message does no harm. -/
theorem foldl_dispatch_fault {es : List Event} (hes : ∀ e ∈ es, e.OfMessage)
    (hnone : c.fault = none) : (es.foldl dispatch c).fault = none := by
  induction es generalizing c with
  | nil => exact hnone
  | cons e es ih =>
    obtain ⟨he, hes⟩ := List.forall_mem_cons.mp hes
    refine ih hes (Option.eq_none_iff_forall_ne_some.mpr fun f hf => ?_)
    obtain ⟨-, hhead⟩ := (dispatch_fault_iff hnone e f).mp hf
    cases e with
    | message m => exact hhead
    | publish packetId qos => exact hhead
    | _ => exact he

/-! ### The parser stays as it should be -/

theorem events_of_ok {b : UInt8} {rest : List UInt8} {r : Parser × List Event × List UInt8}
    (hinbox : c.inbox = b :: rest) (hr : c.parser.step b rest = .ok r) : c.events = r.2.1 := by
  rw [events, hinbox]
  simp only [hr]

theorem events_of_error {b : UInt8} {rest : List UInt8} {f : Fault} (hinbox : c.inbox = b :: rest)
    (hr : c.parser.step b rest = .error f) : c.events = [] := by
  rw [events, hinbox]
  simp only [hr]

/-- A byte that no packet starts with is handled on an open connection only. -/
def Tidy (c : Client) : Act → Prop
  | .parse => .violation ∈ c.events → c.state ≠ .disconnected ∧ c.tcp = .opened
  | _ => True

instance (c : Client) (a : Act) : Decidable (c.Tidy a) := by
  cases a with
  | parse => exact inferInstanceAs (Decidable (_ → _))
  | _ => exact inferInstanceAs (Decidable True)

theorem wf_clearParser {p : Parser} (h : p.WF) : (clearParser p).WF :=
  Parser.wf_of_none rfl (Parser.topicFits_of_ne rfl fun q hq => by cases hq) h.digits

/-- **Every step keeps the parser as it should be**. -/
theorem wf_parser_step (h : step cfg c a = some c') (hwf : c.parser.WF) (htidy : c.Tidy a) :
    c'.parser.WF := by
  have hcleared : ∀ {p q : Parser}, p.WF → q = p ∨ q = clearParser p → q.WF := by
    rintro p q hp (rfl | rfl)
    · exact hp
    · exact wf_clearParser hp
  by_cases ha : a = .parse
  · subst ha
    cases step_cases h with
    | parse b rest hinbox =>
      rw [parse]
      cases hr : c.parser.step b rest with
      | error f => exact hwf
      | ok r =>
        simp only
        have hleaves := foldl_dispatch_leaves r.2.1 { c with parser := r.1, inbox := r.2.2 }
        rcases Parser.wf_step hwf hr with hr' | ⟨hviolation, hp⟩
        · exact hcleared hr' hleaves.cleared
        · -- the connection is closed, and with it the parser is cleared
          have hevents : c.events = [.violation] := (events_of_ok hinbox hr).trans hviolation
          obtain ⟨hstate, hopen⟩ := htidy (hevents ▸ List.mem_singleton_self _)
          have hclose : (Client.disconnect true { c with parser := r.1, inbox := r.2.2 }).parser =
              clearParser r.1 := by
            rw [disconnect, if_neg hstate, if_pos rfl, close, if_pos hopen]
            rfl
          rw [hviolation, List.foldl_cons, List.foldl_nil, dispatch, hclose, hp]
          exact Parser.wf_of_none rfl (Parser.topicFits_of_ne rfl fun q hq => by cases hq)
            hwf.digits
  · exact hcleared hwf (step_keeps h ha).2.2.2.2

/-- **In every tidy run the parser is as it should be.** -/
theorem wf_parser_exec (hrun : exec (step cfg) (init cfg t₀) as = some c)
    (htidy : Along (step cfg) (fun c a _ => c.Tidy a) (init cfg t₀) as) : c.parser.WF :=
  exec_inv_of_along (I := fun c : Client => c.parser.WF)
    (fun _ _ _ hwf h htidy => wf_parser_step h hwf htidy)
    (Parser.wf_of_none rfl (Parser.topicFits_of_ne rfl fun q hq => by cases hq) (Nat.zero_le _))
    htidy hrun

/-! ### When something goes wrong -/

/-- The next pass of `_onData` comes to something that the source has no guard against. -/
def Unguarded (c : Client) (f : Fault) : Prop :=
  (f = .lengthOverflow ∧ c.parser.bufferState = .remainingLength ∧
      c.parser.lengthBuffer.length = 4) ∨
    (f = .stuck ∧ c.parser.bufferState = .variableHeader ∧ c.parser.current = some .pingResp) ∨
    (f = .freedPublish ∧ c.parser.bufferState = .variableHeader ∧
      ∃ q, c.parser.current = some (.publish q) ∧ c.parser.EndsEmpty q) ∨
    (f = .nullHead ∧ (∃ packetId, c.events = [.ack .pubRec packetId]) ∧ c.queue = [])

/-- The packet whose identifier the firmware is told, unless the client turns the call down. -/
def drawn (c : Client) : Act → Option OutPacket
  | .publish m freeMemory =>
    if c.state ≠ .connected ∨ freeMemory < mqttMinFreeMemory then none
    else some (publishOutPacket m (c.publishId m))
  | .subscribe topic qos =>
    if c.state ≠ .connected then none
    else some (subscribeOutPacket topic qos (getNextPacketId c.nextPacketId))
  | .unsubscribe topic =>
    if c.state ≠ .connected then none
    else some (unsubscribeOutPacket topic (getNextPacketId c.nextPacketId))
  | _ => none

/-- **The packet does not outlive `_addBack`**: all that is queued goes out and nothing of it
waits for an acknowledgement, or a DISCONNECT goes out, and the packet is not one that stays when
the connection is closed. -/
def Gone (c : Client) (packet : OutPacket) : Prop :=
  let r := handleQueueLoop c.millis c.room { c.toSender with queue := c.queue ++ [packet] } false
  r.1.queue = [] ∨ r.2.2 = true ∧ c.tcp = .opened ∧ retain r.1.sent packet = none

theorem addBackDeletes_iff (packet : OutPacket) (c : Client) :
    c.addBackDeletes packet = true ↔ c.Gone packet := by
  simp [addBackDeletes, Gone, List.isEmpty_iff, and_assoc]

/-- The packet that the firmware is told the identifier of is still there then. -/
def Lasts (c : Client) (a : Act) : Prop := ∀ p ∈ c.drawn a, ¬c.Gone p

instance (c : Client) (a : Act) : Decidable (c.Lasts a) :=
  decidable_of_iff (∀ p ∈ c.drawn a, ¬c.addBackDeletes p = true) <| by
    simp only [addBackDeletes_iff, Lasts]

/-- **A packet that waits for its acknowledgement lasts**, as long as no DISCONNECT is queued. -/
theorem lasts_of_waiting (hwait : ∀ p ∈ c.drawn a, p.released = false)
    (hstays : ∀ p ∈ c.queue, p.packetType ≠ PacketType.DISCONNECT)
    (hdrawn : ∀ p ∈ c.drawn a, p.packetType ≠ PacketType.DISCONNECT) : c.Lasts a := by
  rintro p hp (hempty | ⟨hclose, -⟩)
  · have hmem := Sender.mem_handleQueueLoop_of_waiting
      (s := { c.toSender with queue := c.queue ++ [p] }) c.millis c.room false (hwait p hp)
      (List.mem_append_right _ (List.mem_singleton_self p))
    rw [hempty] at hmem
    cases hmem
  · rw [Sender.handleQueueLoop_of_forall_ne] at hclose
    · cases hclose
    · intro q hq
      rcases List.mem_append.mp hq with hq | hq
      · exact hstays q hq
      · obtain rfl := List.mem_singleton.mp hq
        exact hdrawn q hp

/-- A packet is added, and asked for its identifier. -/
theorem addBackId_fault_iff (packet : OutPacket) (hnone : c.fault = none) (f : Fault) :
    (c.addBackId packet).2.fault = some f ↔ f = .freedOutPacket ∧ c.Gone packet := by
  rw [addBackId, ← addBackDeletes_iff]
  by_cases hgone : c.addBackDeletes packet = true
  · simp [hgone, eq_comm]
  · simp [hgone, hnone]

/-- **Every step but a pass of `_onData`** goes wrong only on a packet that does not last. -/
theorem fault_iff_of_ne (h : step cfg c a = some c') (ha : a ≠ .parse) (hnone : c.fault = none)
    (f : Fault) : c'.fault = some f ↔ f = .freedOutPacket ∧ ¬c.Lasts a := by
  have hnever : ∀ {d : Client}, c.drawn a = none → d.fault = c.fault →
      (d.fault = some f ↔ f = .freedOutPacket ∧ ¬c.Lasts a) := by
    intro d hdrawn hd
    rw [hd, hnone]
    refine iff_of_false (fun h => by cases h) fun h => h.2 fun p hp => ?_
    rw [hdrawn] at hp
    cases hp
  have hasked : ∀ {p : OutPacket} {d : Client}, c.drawn a = some p → d.fault = none →
      (d.Gone p ↔ c.Gone p) →
      ((d.addBackId p).2.fault = some f ↔ f = .freedOutPacket ∧ ¬c.Lasts a) := by
    intro p d hdrawn hd hgone
    have hlasts : ¬c.Lasts a ↔ c.Gone p := by
      simp [Lasts, hdrawn]
    rw [addBackId_fault_iff p hd, hlasts, hgone]
  cases step_cases h with
  | tick ms => exact hnever rfl rfl
  | room rooms hopen => exact hnever rfl rfl
  | tcpConnected rooms htcp hinbox =>
    exact hnever rfl ((handleQueue_fault _).trans (handleQueue_fault _))
  | tcpClosed htcp hinbox => exact hnever rfl rfl
  | ack hready => exact hnever rfl (handleQueue_fault c)
  | data bytes hready hsome hsize => exact hnever rfl rfl
  | parse b rest hinbox => exact absurd rfl ha
  | poll hready =>
    refine hnever rfl ?_
    rw [onPoll]
    split
    · exact disconnect_fault true c
    · split
      · exact (handleQueue_fault _).trans (addBack_fault _ _)
      · exact handleQueue_fault c
  | connect =>
    refine hnever rfl ?_
    rw [connect]
    split <;> rfl
  | disconnect force hforce => exact hnever rfl (disconnect_fault force c)
  | publish m freeMemory =>
    rw [publish]
    split
    · rename_i hdown
      exact hnever (if_pos hdown) rfl
    · rename_i hup
      exact hasked (if_neg hup) hnone Iff.rfl
  | subscribe topic qos =>
    rw [subscribe]
    split
    · rename_i hdown
      exact hnever (if_pos hdown) rfl
    · rename_i hup
      exact hasked (if_neg hup) hnone Iff.rfl
  | unsubscribe topic =>
    rw [unsubscribe]
    split
    · rename_i hdown
      exact hnever (if_pos hdown) rfl
    · rename_i hup
      exact hasked (if_neg hup) hnone Iff.rfl
  | clearQueue =>
    refine hnever rfl ?_
    rw [clearQueue]
    split <;> rfl

/-- **A pass that the parser gets through.** -/
theorem parse_fault_iff {b : UInt8} {rest : List UInt8} {r : Parser × List Event × List UInt8}
    (hr : c.parser.step b rest = .ok r) (hnone : c.fault = none) (f : Fault) :
    (c.parse b rest).fault = some f ↔
      f = .nullHead ∧ (∃ packetId, r.2.1 = [.ack .pubRec packetId]) ∧ c.queue = [] := by
  obtain ⟨d, hd, hqueue⟩ : ∃ d : Client,
      d = { c with parser := r.1, inbox := r.2.2 } ∧ d.queue = c.queue := ⟨_, rfl, rfl⟩
  have hd_none : d.fault = none := by rw [hd, hnone]
  have hparse : c.parse b rest = r.2.1.foldl dispatch d := by rw [parse, hr, hd]
  rw [hparse, ← hqueue]
  rcases Parser.told_step hr with hmessage | ⟨e, he⟩
  · rw [foldl_dispatch_fault hmessage hd_none]
    refine iff_of_false (fun h => by cases h) ?_
    rintro ⟨-, ⟨packetId, hpubRec⟩, -⟩
    exact hmessage _ (hpubRec ▸ List.mem_singleton_self _)
  · rw [he, List.foldl_cons, List.foldl_nil, dispatch_fault_iff hd_none]
    refine and_congr_right fun _ => ?_
    constructor
    · intro h
      cases e with
      | ack a packetId =>
        cases a with
        | pubRec => exact ⟨⟨packetId, rfl⟩, h⟩
        | _ => exact h.elim
      | _ => exact h.elim
    · rintro ⟨⟨packetId, hpubRec⟩, hnil⟩
      obtain rfl := List.singleton_inj.mp hpubRec
      exact hnil

/-- **A pass**, of a parser that is as it should be. -/
theorem parse_fault_iff_unguarded {b : UInt8} {rest : List UInt8} (hwf : c.parser.WF)
    (hinbox : c.inbox = b :: rest) (hnone : c.fault = none) (f : Fault) :
    (c.parse b rest).fault = some f ↔ c.Unguarded f := by
  have hunguarded : c.Unguarded f ↔ c.parser.step b rest = .error f ∨
      (f = .nullHead ∧ (∃ packetId, c.events = [.ack .pubRec packetId]) ∧ c.queue = []) := by
    rw [Parser.step_error_iff hwf, or_assoc, or_assoc]
    rfl
  rw [hunguarded]
  cases hr : c.parser.step b rest with
  | error g =>
    have hfault : (c.parse b rest).fault = some g := by rw [parse, hr]
    rw [hfault, events_of_error hinbox hr]
    constructor
    · intro hg
      exact Or.inl (congrArg Except.error (Option.some.inj hg))
    · rintro (herror | ⟨-, ⟨packetId, hpubRec⟩, -⟩)
      · exact congrArg some (Except.error.inj herror)
      · cases hpubRec
  | ok r =>
    rw [parse_fault_iff hr hnone, events_of_ok hinbox hr]
    exact ⟨Or.inr, fun h => h.resolve_left fun herror => by cases herror⟩

/-- Something goes wrong only where nothing has gone wrong before. -/
theorem fault_of_step (h : step cfg c a = some c') : c.fault = none := by
  by_contra hsome
  unfold step at h
  rw [if_pos hsome] at h
  cases h

/-- **Exactly when something goes wrong**, in every run in which a byte that no packet starts with
is handled on an open connection only. -/
theorem fault_iff (hrun : exec (step cfg) (init cfg t₀) as = some c)
    (htidy : Along (step cfg) (fun c a _ => c.Tidy a) (init cfg t₀) as)
    (h : step cfg c a = some c') (f : Fault) :
    c'.fault = some f ↔
      a = .parse ∧ c.Unguarded f ∨ f = .freedOutPacket ∧ ¬c.Lasts a := by
  have hnone := fault_of_step h
  by_cases ha : a = .parse
  · subst ha
    have hlasts : c.Lasts .parse := fun p hp => by cases hp
    cases step_cases h with
    | parse b rest hinbox =>
      rw [parse_fault_iff_unguarded (wf_parser_exec hrun htidy) hinbox hnone]
      simp [hlasts]
  · rw [fault_iff_of_ne h ha hnone]
    simp [ha]

/-- The server sends a message of QoS 1 that has no payload. -/
def emptyRun : List Act :=
  acceptRun ++ .data [0x32, 5, 0, 1, 116, 0, 7] :: List.replicate 6 .parse

set_option maxRecDepth 8192 in
theorem fault_iff_empty :
    ∃ c c', exec (step plainSettings) (init plainSettings 0) emptyRun = some c ∧
      step plainSettings c .parse = some c' ∧ c'.fault = some .freedPublish ∧
      ∀ f, c'.fault = some f ↔
        Act.parse = .parse ∧ c.Unguarded f ∨ f = .freedOutPacket ∧ ¬c.Lasts .parse := by
  have hrun : exec (step plainSettings) (init plainSettings 0) emptyRun = some _ := rfl
  exact ⟨_, _, hrun, rfl, rfl, fault_iff hrun (by decide +kernel) rfl⟩

-- the firmware publishes with QoS 0 while there is room
example : (exec (step plainSettings) (init plainSettings 0) (acceptRun ++
    [.room [.of 100], .publish { shortMessage with qos := 0 } 8192])).map Client.fault =
      some (some .freedOutPacket) := rfl

-- the server acknowledges a message that it has never got
example : (exec (step plainSettings) (init plainSettings 0) (acceptRun ++
    [.data [0x50, 2, 0, 9], .parse, .parse, .parse, .parse])).map Client.fault =
      some (some .nullHead) := rfl

-- not tidy: the second of two bytes that no packet starts with comes when the connection is closed
example : (exec (step plainSettings) (init plainSettings 0) (acceptRun ++
    [.data [0, 0, 1, 0], .parse, .parse, .parse, .parse])).map Client.fault =
      some (some .nullPacket) := rfl

/-! ### A server that sends what can be read -/

theorem ack_mem_explodeAll {k : Ack} {packetId : UInt16} {es : List Event}
    (h : .ack k packetId ∈ explodeAll es) : .ack k packetId ∈ es := by
  obtain ⟨e, he, hmem⟩ := List.mem_flatMap.mp h
  cases e with
  | message m =>
    have hpieces : ∀ (bs : List UInt8) (index : UInt32), .ack k packetId ∉ m.pieces index bs := by
      intro bs
      induction bs with
      | nil => exact fun _ => List.not_mem_nil
      | cons b bs ih =>
        intro index hmem
        rcases List.mem_cons.mp hmem with heq | hmem
        · cases heq
        · exact ih _ hmem
    rw [Event.explode] at hmem
    split at hmem
    · cases List.mem_singleton.mp hmem
    · exact absurd hmem (hpieces _ _)
  | _ => exact List.mem_singleton.mp hmem ▸ he

/-- Only an acknowledgement acknowledges something. -/
theorem ack_mem_events {k : Ack} {packetId : UInt16} {maxTopicLength : UInt16}
    {packets : List ServerPacket}
    (h : .ack k packetId ∈ packets.flatMap (ServerPacket.events maxTopicLength)) :
    .ack k packetId ∈ packets := by
  obtain ⟨packet, hpacket, hmem⟩ := List.mem_flatMap.mp h
  cases packet with
  | ack k' packetId' =>
    obtain ⟨rfl, rfl⟩ := Event.ack.inj (List.mem_singleton.mp hmem)
    exact hpacket
  | publish m hm i dup =>
    rw [events_publish] at hmem
    split at hmem
    · cases hmem
    · rcases List.mem_cons.mp hmem with heq | hmem
      · cases heq
      · cases List.mem_singleton.mp hmem
  | _ => cases List.mem_singleton.mp hmem

variable {packets : List ServerPacket} {more : List UInt8}

/-- **A server that sends what can be read does no harm**, as long as the connection stays open: if
there is no PUBREC in it, and the packets that the firmware adds last, then nothing goes wrong,
however TCP cuts the bytes and whatever the client does in between. -/
theorem Given.sound (h : Given cfg c as packets more c') (hnone : c.fault = none)
    (hpubRec : ∀ packetId, .ack .pubRec packetId ∉ packets)
    (hlasts : Along (step cfg) (fun c a _ => c.Lasts a) c as) : c'.fault = none := by
  rcases List.eq_nil_or_concat as with rfl | ⟨as', a, rfl⟩
  · obtain rfl : c = c' := Option.some.inj h.run
    exact hnone
  · rw [List.concat_eq_append] at h hlasts
    have hrun := h.run
    rw [exec_append] at hrun
    obtain ⟨d, hd, hlast⟩ := Option.bind_eq_some_iff.mp hrun
    rw [exec_singleton] at hlast
    refine Option.eq_none_iff_forall_ne_some.mpr fun f hf => ?_
    by_cases ha : a = .parse
    · subst ha
      have hgiven : Given cfg c as' packets more d :=
        { between := h.between
          inbox := h.inbox
          readable := h.readable
          bytes := by
            have hbytes := h.bytes
            rwa [List.flatMap_append, List.flatMap_singleton,
              show Act.bytes .parse = [] from rfl, List.append_nil] at hbytes
          run := hd
          opened := (along_append.mp h.opened).1 }
      obtain ⟨es, p, hsize, hreads, -, hevents⟩ := hgiven.heard
      cases step_cases hlast with
      | parse b rest hinbox =>
        rw [hinbox] at hreads hsize
        obtain ⟨r, es', hr, -, hsplit, -⟩ := Parser.exists_pass hreads hsize
        obtain ⟨-, ⟨packetId, htold⟩, -⟩ := (parse_fault_iff hr (fault_of_step hlast) f).mp hf
        -- so the server has sent it
        have hsent : .ack .pubRec packetId ∈
            explodeAll (packets.flatMap (ServerPacket.events c.parser.maxTopicLength)) := by
          rw [← hevents, ← hsplit, htold]
          exact List.mem_append_right _ (List.mem_append_left _ (List.mem_singleton_self _))
        exact hpubRec packetId (ack_mem_events (ack_mem_explodeAll hsent))
    · obtain ⟨-, hgone⟩ := (fault_iff_of_ne hlast ha (fault_of_step hlast) f).mp hf
      exact hgone (along_cons.mp ((along_append.mp hlasts).2 d hd) c' hlast).1

theorem sound_talk : ∃ c', exec (step plainSettings) acceptedClient talkRun = some c' ∧
    c'.fault = none := by
  obtain ⟨c', hgiven, -⟩ := given_talk
  refine ⟨c', hgiven.run, hgiven.sound rfl ?_ (by decide +kernel)⟩
  intro packetId h
  rcases List.mem_cons.mp h with heq | h
  · cases heq
  · cases List.mem_singleton.mp h

end Client

end Mqtt

end SentinelEdge
