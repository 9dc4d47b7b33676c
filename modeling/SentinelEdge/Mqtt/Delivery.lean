import SentinelEdge.Library.Once
import SentinelEdge.Mqtt.Incoming
import SentinelEdge.Mqtt.Session

/-!
# What the firmware is told of the messages

The way of a message through the client, from the bytes that TCP delivers to the callback
of the firmware, over whole runs.

* `SentinelEdge.Mqtt.Client.hears`: from a point between two packets on, and as long as the
  connection stays open, the handlers are called as the server meant it, whatever the client
  does between the passes of `_onData`. The beginning of a connection is such a point, unless
  the one before it was lost in the middle of a length: `_clear` leaves the digits behind.
* `SentinelEdge.Mqtt.Client.messages_eq`: which of the messages reach the firmware. The
  client remembers the messages of QoS 2 that it has got whole until the server releases
  them; in this it is the receiver of `Once`, in spite of the loop that forgets an
  identifier and can skip one: no identifier is in the list twice.
* `SentinelEdge.Mqtt.Client.delivers_once`: both together. A message of QoS 2 that the server
  sends again over the same connection does not reach the firmware again.
-/

namespace SentinelEdge

namespace Mqtt

open LabelledRun

/-- The call of the callback for some of a message. -/
def Chunk.callback (m : Chunk) : Callback :=
  .onMessage m.topic m.payload m.qos m.dup m.retain m.index m.total

/-- What an event means for the delivery of messages. -/
def Event.signal : Event → Once.Signal UInt16 Callback
  | .message m => .offer (if m.qos = 2 then some m.packetId else none) m.callback
  | .publish packetId qos => if qos = 2 then .settle packetId else .other
  | .ack .pubRel packetId => .release packetId
  | .connAck false _ => .reset
  | _ => .other

namespace Client

variable {cfg : Settings} {t₀ : ℕ} {c c' : Client} {a : Act} {as : List Act}

/-! ### What the handlers are told -/

/-- What the handlers are told in a step. -/
def told (c : Client) : Act → List Event
  | .parse => c.events
  | _ => []

/-- What the handlers are told in a run. -/
def heard (cfg : Settings) : Client → List Act → List Event
  | _, [] => []
  | c, a :: as =>
    c.told a ++
      match step cfg c a with
      | none => []
      | some c' => heard cfg c' as

/-- The bytes that TCP delivers in a step. -/
def Act.bytes : Act → List UInt8
  | .data bytes => bytes
  | _ => []

/-- What a step leaves to the parser, as long as the connection is open. -/
structure Leaves (c c' : Client) : Prop where
  inbox : c'.inbox = c.inbox
  parser : c'.tcp = .opened → c.tcp = .opened ∧ c'.parser = c.parser
  cleared : c'.parser = c.parser ∨ c'.parser = clearParser c.parser

theorem Keeps.leaves (h : Keeps c c') : Leaves c c' := ⟨h.inbox, h.parser, h.cleared⟩

theorem Leaves.refl (c : Client) : Leaves c c := ⟨rfl, fun h => ⟨h, rfl⟩, Or.inl rfl⟩

theorem Leaves.trans {c d e : Client} (h : Leaves c d) (h' : Leaves d e) : Leaves c e where
  inbox := h'.inbox.trans h.inbox
  parser := by
    intro hopen
    obtain ⟨hopen', hparser'⟩ := h'.parser hopen
    obtain ⟨hopen'', hparser⟩ := h.parser hopen'
    exact ⟨hopen'', hparser'.trans hparser⟩
  cleared := cleared_trans h.cleared h'.cleared

/-- What does not concern the parser at all. -/
theorem leaves_of_eq (hinbox : c'.inbox = c.inbox) (hparser : c'.parser = c.parser)
    (htcp : c'.tcp = c.tcp) : Leaves c c' :=
  ⟨hinbox, fun h => ⟨htcp ▸ h, hparser⟩, Or.inl hparser⟩

theorem handleQueue_leaves {d : Client} (hinbox : d.inbox = c.inbox) (hparser : d.parser = c.parser)
    (htcp : d.tcp = c.tcp) : Leaves c d.handleQueue :=
  (leaves_of_eq hinbox hparser htcp).trans (handleQueue_keeps d).leaves

theorem disconnect_true_keeps (c : Client) : Keeps c (c.disconnect true) := by
  rw [disconnect]
  split
  · exact .refl c
  · exact .trans (d := { c with state := .disconnected })
      ⟨rfl, rfl, rfl, fun h => ⟨h, rfl⟩, Or.inl rfl⟩ (close_keeps _)

/-- No handler touches the parser of a connection that stays open. -/
theorem dispatch_leaves (c : Client) (e : Event) : Leaves c (c.dispatch e) := by
  cases e with
  | connAck sessionPresent connectReturnCode =>
    show Leaves c (c.onConnAck sessionPresent connectReturnCode)
    rw [onConnAck]
    have hforget : Leaves c (if !sessionPresent then
        { c with pendingPubRels := [], toSender := c.toSender.clearQueue false } else c) := by
      split <;> exact leaves_of_eq rfl rfl rfl
    generalize (if !sessionPresent then
        { c with pendingPubRels := [], toSender := c.toSender.clearQueue false }
      else c) = d at hforget
    split
    · exact hforget.trans (handleQueue_leaves rfl rfl rfl)
    · exact hforget.trans (leaves_of_eq rfl rfl rfl)
  | pingResp => exact leaves_of_eq rfl rfl rfl
  | ack a packetId =>
    have hrelease := (releaseHead_keeps packetId c).leaves
    cases a with
    | pubAck => exact hrelease.trans (leaves_of_eq rfl rfl rfl)
    | pubRec => exact hrelease.trans (insert_keeps _ _).leaves
    | pubRel =>
      show Leaves c (c.onPubRel packetId)
      rw [onPubRel]
      split
      · exact (hrelease.trans (insert_keeps _ _).leaves).trans (leaves_of_eq rfl rfl rfl)
      · exact leaves_of_eq rfl rfl rfl
    | pubComp => exact hrelease.trans (leaves_of_eq rfl rfl rfl)
  | unsubAck packetId =>
    show Leaves c (c.onUnsubAck packetId)
    rw [onUnsubAck]
    exact (releaseHead_keeps packetId c).leaves.trans (handleQueue_leaves rfl rfl rfl)
  | subAck packetId status =>
    show Leaves c (c.onSubAck packetId status)
    rw [onSubAck]
    exact (releaseHead_keeps packetId c).leaves.trans (handleQueue_leaves rfl rfl rfl)
  | message m =>
    show Leaves c (c.onMessage m)
    rw [onMessage]
    split <;> exact leaves_of_eq rfl rfl rfl
  | publish packetId qos =>
    show Leaves c (c.onPublish packetId qos)
    rw [onPublish]
    split
    · exact (addBack_keeps _ c).leaves
    · split
      · refine (addBack_keeps (pubAckOutPacket (Ack.pubRec.pending packetId)) c).leaves.trans ?_
        show Leaves _ (if _ then _ else _)
        split <;> exact leaves_of_eq rfl rfl rfl
      · exact .refl c
  | violation => exact (disconnect_true_keeps c).leaves

theorem foldl_dispatch_leaves (es : List Event) (c : Client) : Leaves c (es.foldl dispatch c) := by
  induction es generalizing c with
  | nil => exact .refl c
  | cons e es ih => exact (dispatch_leaves c e).trans (ih _)

/-- **A pass of `_onData`** does what the parser says, if the connection is open then. -/
theorem parse_leaves {b : UInt8} {rest : List UInt8} {r : Parser × List Event × List UInt8}
    (hr : c.parser.step b rest = .ok r) (hopen : (c.parse b rest).tcp = .opened) :
    (c.parse b rest).parser = r.1 ∧ (c.parse b rest).inbox = r.2.2 := by
  rw [parse, hr] at hopen ⊢
  have hleaves := foldl_dispatch_leaves r.2.1 { c with parser := r.1, inbox := r.2.2 }
  exact ⟨(hleaves.parser hopen).2, hleaves.inbox⟩

/-- **Every other step** leaves to the passes what TCP delivers, does not touch the parser of
a connection that is open then, clears it at most, and has nothing to do with messages. -/
theorem step_keeps (h : step cfg c a = some c') (ha : a ≠ .parse) :
    c'.inbox = c.inbox ++ a.bytes ∧ (c'.tcp = .opened → c'.parser = c.parser) ∧
      c'.pendingPubRels = c.pendingPubRels ∧ c'.messages = c.messages ∧
        (c'.parser = c.parser ∨ c'.parser = clearParser c.parser) := by
  have hkeeps : a.bytes = [] → Keeps c c' →
      c'.inbox = c.inbox ++ a.bytes ∧ (c'.tcp = .opened → c'.parser = c.parser) ∧
        c'.pendingPubRels = c.pendingPubRels ∧ c'.messages = c.messages ∧
          (c'.parser = c.parser ∨ c'.parser = clearParser c.parser) := by
    intro hbytes hkeeps
    rw [hbytes, List.append_nil]
    exact ⟨hkeeps.inbox, fun hopen => (hkeeps.parser hopen).2, hkeeps.pendingPubRels,
      hkeeps.messages, hkeeps.cleared⟩
  cases step_cases h with
  | tick ms => exact hkeeps rfl ⟨rfl, rfl, rfl, fun h => ⟨h, rfl⟩, Or.inl rfl⟩
  | room rooms _ => exact hkeeps rfl ⟨rfl, rfl, rfl, fun h => ⟨h, rfl⟩, Or.inl rfl⟩
  | tcpConnected rooms htcp hinbox =>
    have hqueue := (handleQueue_keeps
      { c with
        tcp := .opened, wire := [], room := rooms
        queue := connectOutPacket cfg :: c.queue }).trans (handleQueue_keeps _)
    rw [show Act.bytes (.tcpConnected rooms) = [] from rfl, List.append_nil]
    exact ⟨hqueue.inbox, fun hopen => (hqueue.parser hopen).2, hqueue.pendingPubRels,
      hqueue.messages, hqueue.cleared⟩
  | tcpClosed htcp hinbox =>
    exact hkeeps rfl (.trans (d := { c with tcp := .closed, room := [] })
      ⟨rfl, rfl, rfl, nofun, Or.inl rfl⟩ (onDisconnect_keeps _ rfl))
  | ack hready => exact hkeeps rfl (handleQueue_keeps c)
  | data bytes hready hsome hsize =>
    rw [hready.2]
    exact ⟨rfl, fun _ => rfl, rfl, rfl, Or.inl rfl⟩
  | parse b rest hinbox => exact absurd rfl ha
  | poll hready =>
    refine hkeeps rfl ?_
    rw [onPoll]
    split
    · exact disconnect_true_keeps c
    · split
      · exact .trans (d := { c with lastPingRequestTime := c.millis })
          ⟨rfl, rfl, rfl, fun h => ⟨h, rfl⟩, Or.inl rfl⟩
          ((addBack_keeps _ _).trans (handleQueue_keeps _))
      · exact handleQueue_keeps c
  | connect =>
    refine hkeeps rfl ?_
    rw [connect]
    split
    · exact .refl c
    · refine ⟨rfl, rfl, rfl, fun hopen => ?_, Or.inl rfl⟩
      have hopen : (if c.tcp = .closed then Tcp.connecting else c.tcp) = .opened := hopen
      split at hopen
      · cases hopen
      · exact ⟨hopen, rfl⟩
  | disconnect force hforce =>
    refine hkeeps rfl ?_
    cases force with
    | true => exact disconnect_true_keeps c
    | false =>
      rw [disconnect]
      simp only [Bool.false_eq_true, if_false]
      split
      · exact .refl c
      · split
        · exact .trans (d := { c with state := .disconnecting })
            ⟨rfl, rfl, rfl, fun h => ⟨h, rfl⟩, Or.inl rfl⟩ (addBack_keeps _ _)
        · exact .refl c
  | publish m freeMemory =>
    refine hkeeps rfl ?_
    rw [publish]
    split
    · exact .refl c
    · exact drawn_keeps _ c _
  | subscribe topic qos =>
    refine hkeeps rfl ?_
    rw [subscribe]
    split
    · exact .refl c
    · exact drawn_keeps _ c _
  | unsubscribe topic =>
    refine hkeeps rfl ?_
    rw [unsubscribe]
    split
    · exact .refl c
    · exact drawn_keeps _ c _
  | clearQueue =>
    refine hkeeps rfl ?_
    rw [clearQueue]
    split <;> exact ⟨rfl, rfl, rfl, fun h => ⟨h, rfl⟩, Or.inl rfl⟩

/-- What TCP has delivered is not longer than it may be. -/
theorem length_inbox_lt (h : step cfg c a = some c') (ha : a ≠ .parse)
    (hsize : c.inbox.length < 2 ^ 31) : c'.inbox.length < 2 ^ 31 := by
  rw [(step_keeps h ha).1]
  cases step_cases h with
  | data bytes hready hsome hbytes =>
    rw [hready.2, List.nil_append]
    exact hbytes
  | parse b rest hinbox => exact absurd rfl ha
  | _ =>
    show (c.inbox ++ []).length < 2 ^ 31
    rwa [List.append_nil]

/-- In no other step the handlers are told anything. -/
theorem told_of_ne (ha : a ≠ .parse) : c.told a = [] := by
  cases a with
  | parse => exact absurd rfl ha
  | _ => rfl

/-- The passes of `_onData` and everything between them, of a parser that could read the
bytes one by one; `more` is what TCP has not delivered yet. -/
theorem heard_of_reads {es : List Event} {p' : Parser} {more : List UInt8}
    (hread : c.parser.Reads (c.inbox ++ (as.flatMap Act.bytes ++ more)) es p')
    (hsize : c.inbox.length < 2 ^ 31) (hrun : exec (step cfg) c as = some c')
    (hopen : Along (step cfg) (fun _ _ c' => c'.tcp = .opened) c as) :
    c'.inbox.length < 2 ^ 31 ∧ ∃ es', c'.parser.Reads (c'.inbox ++ more) es' p' ∧
      explodeAll (heard cfg c as) ++ explodeAll es' = explodeAll es := by
  induction as generalizing c es with
  | nil =>
    obtain rfl : c = c' := Option.some.inj hrun
    exact ⟨hsize, es, hread, rfl⟩
  | cons a as ih =>
    obtain ⟨d, hd, hrest⟩ := Option.bind_eq_some_iff.mp hrun
    obtain ⟨hd_open, hopen⟩ := along_cons.mp hopen d hd
    have hheard : heard cfg c (a :: as) = c.told a ++ heard cfg d as := by
      rw [heard, hd]
    rw [hheard, explodeAll_append]
    by_cases ha : a = .parse
    · subst ha
      cases step_cases hd with
      | parse b rest hinbox =>
        rw [hinbox] at hread hsize
        obtain ⟨r, es₁, hr, hreads, hsplit, hlength⟩ := Parser.exists_pass hread hsize
        obtain ⟨hparser, hleft⟩ := parse_leaves hr hd_open
        have htold : c.told .parse = r.2.1 := by
          show c.events = _
          rw [events, hinbox]
          simp only [hr]
        rw [← hparser, ← hleft] at hreads
        rw [List.length_cons] at hsize
        obtain ⟨hsize', es', hends, hevents⟩ := ih hreads (by rw [hleft]; omega) hrest hopen
        refine ⟨hsize', es', hends, ?_⟩
        rw [htold, List.append_assoc, hevents, hsplit]
    · obtain ⟨hinbox, hparser, -⟩ := step_keeps hd ha
      rw [told_of_ne ha, explodeAll_nil, List.nil_append]
      refine ih ?_ (length_inbox_lt hd ha hsize) hrest hopen
      rw [hparser hd_open, hinbox]
      simpa only [List.flatMap_cons, List.append_assoc] using hread

/-- A client between two packets of the server is given some more of its packets, cut by TCP in
any way, while the connection stays open, and does what it likes in between; `more` is what TCP
has not delivered yet. -/
structure Given (cfg : Settings) (c : Client) (as : List Act) (packets : List ServerPacket)
    (more : List UInt8) (c' : Client) : Prop where
  between : c.parser.Between
  inbox : c.inbox = []
  readable : ∀ s ∈ packets, s.Readable
  bytes : as.flatMap Act.bytes ++ more = packets.flatMap fun s => s.frame.bytes
  run : exec (step cfg) c as = some c'
  opened : Along (step cfg) (fun _ _ c' => c'.tcp = .opened) c as

variable {packets : List ServerPacket} {more : List UInt8}

theorem Given.heard (h : Given cfg c as packets more c') :
    ∃ es' p', c'.inbox.length < 2 ^ 31 ∧ c'.parser.Reads (c'.inbox ++ more) es' p' ∧ p'.Between ∧
      explodeAll (Client.heard cfg c as) ++ explodeAll es' =
        explodeAll (packets.flatMap (ServerPacket.events c.parser.maxTopicLength)) := by
  obtain ⟨p', es, hreads, hbetween, -, hevents⟩ := Parser.gets_packets h.between h.readable
  have hread : c.parser.Reads (c.inbox ++ (as.flatMap Act.bytes ++ more)) es p' := by
    rw [h.inbox, h.bytes]
    exact hreads
  obtain ⟨hsize, es', hends, hheard⟩ :=
    heard_of_reads hread (by rw [h.inbox]; decide) h.run h.opened
  exact ⟨es', p', hsize, hends, hbetween, hheard.trans hevents⟩

/-- **The handlers are called as the server meant it**, but for how the payloads are cut. At any
time they have been called for the packets that have come, one after the other, up to some
point. When all of it has been read they have been called for all of it, and the parser is
between two packets again. -/
theorem hears (h : Given cfg c as packets more c') :
    explodeAll (heard cfg c as) <+:
        explodeAll (packets.flatMap (ServerPacket.events c.parser.maxTopicLength)) ∧
      (c'.inbox = [] → more = [] → c'.parser.Between ∧ explodeAll (heard cfg c as) =
        explodeAll (packets.flatMap (ServerPacket.events c.parser.maxTopicLength))) := by
  obtain ⟨es', p', -, hends, hbetween, hheard⟩ := h.heard
  refine ⟨⟨_, hheard⟩, ?_⟩
  rintro hinbox rfl
  rw [hinbox] at hends
  cases hends with
  | nil =>
    rw [explodeAll_nil, List.append_nil] at hheard
    exact ⟨hbetween, hheard⟩

/-- A frame that is short. -/
theorem bytes_of_lt (f : Frame) (h : f.body.length < 128) :
    f.bytes = f.header :: UInt8.ofNat f.body.length :: f.body := by
  rw [Frame.bytes, VarInt.encode_of_lt h]
  rfl

/-- A message of QoS 1, from the server. -/
def serverMessage : Message :=
  { topic := [116], qos := 1, retain := false, payload := some [65, 66], length := 2 }

theorem serverMessage_valid : serverMessage.Valid where
  topic := ⟨by decide, by decide⟩
  qos := .inr (.inl rfl)
  backed := show 2 ≤ 2 from Nat.le_refl 2
  short := by decide

/-- The client publishes a message; the server acknowledges it and sends one of its own. TCP cuts
that within the payload. -/
def talkRun : List Act :=
  [.room [.of 100], .publish shortMessage 8192, .data [0x40, 2, 0, 1, 0x32, 7], .parse, .parse,
    .parse, .parse, .parse, .parse, .room [.of 100, .of 100], .ack, .data [0, 1, 116, 0, 9, 65],
    .parse, .parse, .parse, .parse, .parse, .parse, .data [66], .parse]

def talk : List ServerPacket := [.ack .pubAck 1, .publish serverMessage serverMessage_valid 9 false]

set_option maxRecDepth 8192 in
theorem given_talk :
    ∃ c', Given plainSettings acceptedClient talkRun talk [] c' ∧ c'.inbox = [] := by
  have hrun : exec (step plainSettings) acceptedClient talkRun = some _ := rfl
  have hgiven : Given plainSettings acceptedClient talkRun talk [] _ := {
    between := ⟨rfl, rfl⟩
    inbox := rfl
    readable := fun s hs => by
      rcases List.mem_cons.mp hs with rfl | hs
      · trivial
      · obtain rfl := List.mem_singleton.mp hs
        exact ⟨by decide, by decide⟩
    bytes := by
      rw [talk, List.flatMap_cons, List.flatMap_singleton, bytes_of_lt _ (by decide),
        bytes_of_lt _ (by decide)]
      rfl
    run := hrun
    opened := by decide }
  exact ⟨_, hgiven, rfl⟩

theorem hears_talk : ∃ c', exec (step plainSettings) acceptedClient talkRun = some c' ∧
    c'.parser.Between ∧ explodeAll (heard plainSettings acceptedClient talkRun) =
      explodeAll (talk.flatMap (ServerPacket.events acceptedClient.parser.maxTopicLength)) := by
  obtain ⟨c', hgiven, hinbox⟩ := given_talk
  exact ⟨c', hgiven.run, (hears hgiven).2 hinbox rfl⟩

/-! ### What reaches the firmware -/

theorem erasePubRels_of_notMem {packetId : UInt16} {is : List UInt16} (h : packetId ∉ is) :
    erasePubRels packetId is = is := by
  induction is with
  | nil => rfl
  | cons i is ih =>
    have hi := List.ne_of_not_mem_cons h
    unfold erasePubRels
    rw [if_neg (Ne.symm hi), ih (List.not_mem_of_not_mem_cons h)]

/-- **The loop that skips an element does what it should**, in a list without
repetitions. -/
theorem erasePubRels_eq {is : List UInt16} (h : is.Nodup) (packetId : UInt16) :
    erasePubRels packetId is = is.erase packetId := by
  induction is with
  | nil => rfl
  | cons i is ih =>
    obtain ⟨hi, his⟩ := List.nodup_cons.mp h
    unfold erasePubRels
    split
    · rename_i heq
      subst heq
      rw [List.erase_cons_head]
      cases is with
      | nil => rfl
      | cons j js =>
        show j :: erasePubRels i js = _
        rw [erasePubRels_of_notMem (List.not_mem_of_not_mem_cons hi)]
    · rename_i hne
      rw [ih his, List.erase_cons_tail (by simpa using hne)]

/-- The messages a handler passes on, and what it remembers. -/
structure Receives (c : Client) (s : Once.Signal UInt16 Callback) (c' : Client) : Prop where
  nodup : c'.pendingPubRels.Nodup
  remembers : c'.pendingPubRels.toFinset = Once.next c.pendingPubRels.toFinset s
  messages : c'.messages = c.messages ++ Once.deliver c.pendingPubRels.toFinset s

/-- What does not concern the messages. -/
theorem receives_other (hnodup : c.pendingPubRels.Nodup)
    (hpending : c'.pendingPubRels = c.pendingPubRels) (hmessages : c'.messages = c.messages) :
    Receives c .other c' where
  nodup := by rwa [hpending]
  remembers := congrArg _ hpending
  messages := hmessages.trans (List.append_nil _).symm

theorem Keeps.receives (h : Keeps c c') (hnodup : c.pendingPubRels.Nodup) : Receives c .other c' :=
  receives_other hnodup h.pendingPubRels h.messages

/-- The end of a message of QoS 2, whose identifier is remembered. -/
theorem onPublish_receives (hnodup : c.pendingPubRels.Nodup) (packetId : UInt16) (qos : UInt8) :
    Receives c (Event.publish packetId qos).signal (c.onPublish packetId qos) := by
  rw [onPublish, Event.signal]
  by_cases hone : qos = 1
  · rw [if_pos hone, if_neg (by rw [hone]; decide)]
    exact (addBack_keeps _ c).receives hnodup
  · rw [if_neg hone]
    split
    · have hkeeps := addBack_keeps (pubAckOutPacket (Ack.pubRec.pending packetId)) c
      generalize c.addBack (pubAckOutPacket (Ack.pubRec.pending packetId)) = d at hkeeps
      show Receives c _ (if d.pendingPubRels.contains packetId = true then d else _)
      have hpending := hkeeps.pendingPubRels
      split
      · -- it is remembered already
        rename_i hmem
        rw [List.contains_iff_mem, hpending] at hmem
        refine ⟨by rwa [hpending], ?_, hkeeps.messages.trans (List.append_nil _).symm⟩
        rw [hpending]
        exact (Finset.insert_eq_of_mem (List.mem_toFinset.mpr hmem)).symm
      · rename_i hmem
        rw [List.contains_iff_mem, hpending] at hmem
        refine ⟨?_, ?_, hkeeps.messages.trans (List.append_nil _).symm⟩
        · show (d.pendingPubRels ++ [packetId]).Nodup
          rw [hpending]
          exact List.nodup_append.mpr ⟨hnodup, List.nodup_singleton _, fun i hi j hj hij =>
            hmem (List.mem_singleton.mp hj ▸ hij ▸ hi)⟩
        · show (d.pendingPubRels ++ [packetId]).toFinset =
            Once.next _ (.settle packetId : Once.Signal _ Callback)
          rw [hpending]
          ext i
          simp only [Once.next, List.mem_toFinset, List.mem_append, List.mem_singleton,
            Finset.mem_insert]
          exact or_comm
    · exact receives_other hnodup rfl rfl

/-- A part of a message, which is passed on if its identifier is not remembered. -/
theorem onMessage_receives (hnodup : c.pendingPubRels.Nodup) (m : Chunk) :
    Receives c (Event.message m).signal (c.onMessage m) := by
  have hcontains : c.pendingPubRels.contains m.packetId = true ↔
      m.packetId ∈ c.pendingPubRels.toFinset := by
    rw [List.contains_iff_mem, List.mem_toFinset]
  have hpass : Client.messages { c with calls := c.calls ++ [m.callback] } =
      c.messages ++ [m.callback] := by
    rw [messages, List.filter_append]
    rfl
  rw [onMessage, Event.signal]
  by_cases hqos : m.qos = 2
  · rw [if_pos hqos]
    by_cases hmem : m.packetId ∈ c.pendingPubRels.toFinset
    · have hskip : ¬(!(m.qos == 2 && c.pendingPubRels.contains m.packetId)) = true := by
        simp [hqos, List.mem_toFinset.mp hmem]
      rw [if_neg hskip]
      exact ⟨hnodup, rfl, by rw [Once.deliver, if_pos hmem, List.append_nil]⟩
    · have hnotify : (!(m.qos == 2 && c.pendingPubRels.contains m.packetId)) = true := by
        have : m.packetId ∉ c.pendingPubRels := fun h => hmem (List.mem_toFinset.mpr h)
        simp [this]
      rw [if_pos hnotify]
      exact ⟨hnodup, rfl, by rw [Once.deliver, if_neg hmem]; exact hpass⟩
  · have hnotify : (!(m.qos == 2 && c.pendingPubRels.contains m.packetId)) = true := by
      simp [hqos]
    rw [if_neg hqos, if_pos hnotify]
    exact ⟨hnodup, rfl, hpass⟩

/-- **A handler is a step of the receiver.** -/
theorem dispatch_receives (hnodup : c.pendingPubRels.Nodup) (e : Event) :
    Receives c e.signal (c.dispatch e) := by
  have hmessages : ∀ (d : Client) (call : Callback), isMessage call = false →
      d.messages = c.messages →
      Client.messages { d with calls := d.calls ++ [call] } = c.messages := by
    intro d call hcall hd
    exact (messages_append (c := d) call hcall rfl).trans hd
  cases e with
  | connAck sessionPresent connectReturnCode =>
    show Receives c _ (c.onConnAck sessionPresent connectReturnCode)
    rw [onConnAck]
    cases sessionPresent with
    | true =>
      show Receives c .other _
      simp only [Bool.not_true, Bool.false_eq_true, if_false]
      split
      · exact receives_other hnodup (handleQueue_keeps _).pendingPubRels
          ((handleQueue_keeps _).messages.trans
            (hmessages c (.onConnect true) rfl rfl))
      · exact receives_other hnodup rfl rfl
    | false =>
      -- everything is forgotten
      show Receives c .reset _
      simp only [Bool.not_false, if_true]
      split
      · have hkeeps := handleQueue_keeps { c with
          pendingPubRels := [], toSender := c.toSender.clearQueue false, state := .connected
          calls := c.calls ++ [Callback.onConnect false] }
        refine ⟨?_, ?_, hkeeps.messages.trans (Eq.trans ?_ (List.append_nil _).symm)⟩
        · rw [hkeeps.pendingPubRels]
          exact List.nodup_nil
        · rw [hkeeps.pendingPubRels]
          rfl
        · exact hmessages { c with toSender := c.toSender.clearQueue false } (.onConnect false)
            rfl rfl
      · exact ⟨List.nodup_nil, rfl, (List.append_nil _).symm⟩
  | pingResp => exact receives_other hnodup rfl rfl
  | ack a packetId =>
    have hrelease := releaseHead_keeps packetId c
    cases a with
    | pubAck =>
      exact receives_other hnodup hrelease.pendingPubRels (hmessages (c.releaseHead packetId)
        (.onPublish packetId) rfl hrelease.messages)
    | pubRec => exact (hrelease.trans (insert_keeps _ _)).receives hnodup
    | pubRel =>
      show Receives c (.release packetId) (c.onPubRel packetId)
      have hqueue : Keeps c (if c.headHas packetId then
          (c.releaseHead packetId).insert (pubAckOutPacket (Ack.pubComp.pending packetId))
        else c) := by
        split
        · exact hrelease.trans (insert_keeps _ _)
        · exact .refl c
      rw [onPubRel]
      generalize (if c.headHas packetId then
          (c.releaseHead packetId).insert (pubAckOutPacket (Ack.pubComp.pending packetId))
        else c) = d at hqueue
      have herase := erasePubRels_eq hnodup packetId
      refine ⟨?_, ?_, hqueue.messages.trans (List.append_nil _).symm⟩
      · show (erasePubRels packetId d.pendingPubRels).Nodup
        rw [hqueue.pendingPubRels, herase]
        exact hnodup.erase packetId
      · show (erasePubRels packetId d.pendingPubRels).toFinset = Finset.erase _ _
        rw [hqueue.pendingPubRels, herase]
        ext i
        rw [List.mem_toFinset, hnodup.mem_erase_iff, Finset.mem_erase, List.mem_toFinset]
    | pubComp =>
      exact receives_other hnodup hrelease.pendingPubRels (hmessages (c.releaseHead packetId)
        (.onPublish packetId) rfl hrelease.messages)
  | unsubAck packetId =>
    have hrelease := releaseHead_keeps packetId c
    have hkeeps := handleQueue_keeps { c.releaseHead packetId with
      calls := (c.releaseHead packetId).calls ++ [.onUnsubscribe packetId] }
    exact receives_other hnodup (hkeeps.pendingPubRels.trans hrelease.pendingPubRels)
      (hkeeps.messages.trans (hmessages (c.releaseHead packetId) (.onUnsubscribe packetId) rfl
        hrelease.messages))
  | subAck packetId status =>
    have hrelease := releaseHead_keeps packetId c
    have hkeeps := handleQueue_keeps { c.releaseHead packetId with
      calls := (c.releaseHead packetId).calls ++ [.onSubscribe packetId status] }
    exact receives_other hnodup (hkeeps.pendingPubRels.trans hrelease.pendingPubRels)
      (hkeeps.messages.trans (hmessages (c.releaseHead packetId) (.onSubscribe packetId status) rfl
        hrelease.messages))
  | message m => exact onMessage_receives hnodup m
  | publish packetId qos => exact onPublish_receives hnodup packetId qos
  | violation => exact (disconnect_true_keeps c).receives hnodup

/-- The same of several signals. -/
structure ReceivesAll (c : Client) (ss : List (Once.Signal UInt16 Callback)) (c' : Client) :
    Prop where
  nodup : c'.pendingPubRels.Nodup
  remembers : c'.pendingPubRels.toFinset = Once.pending c.pendingPubRels.toFinset ss
  messages : c'.messages = c.messages ++ Once.delivered c.pendingPubRels.toFinset ss

theorem receivesAll_nil (hnodup : c.pendingPubRels.Nodup)
    (hpending : c'.pendingPubRels = c.pendingPubRels) (hmessages : c'.messages = c.messages) :
    ReceivesAll c [] c' where
  nodup := by rwa [hpending]
  remembers := congrArg _ hpending
  messages := hmessages.trans (List.append_nil _).symm

theorem ReceivesAll.append {d : Client} {ss ts : List (Once.Signal UInt16 Callback)}
    (h : ReceivesAll c ss d) (h' : ReceivesAll d ts c') : ReceivesAll c (ss ++ ts) c' where
  nodup := h'.nodup
  remembers := by rw [h'.remembers, h.remembers, Once.pending_append]
  messages := by rw [h'.messages, h.messages, h.remembers, Once.delivered_append, List.append_assoc]

theorem foldl_dispatch_receives (es : List Event) (hnodup : c.pendingPubRels.Nodup) :
    ReceivesAll c (es.map Event.signal) (es.foldl dispatch c) := by
  induction es generalizing c with
  | nil => exact receivesAll_nil hnodup rfl rfl
  | cons e es ih =>
    have hone := dispatch_receives hnodup e
    have hrest := ih hone.nodup
    refine ⟨hrest.nodup, ?_, ?_⟩
    · rw [List.foldl_cons, hrest.remembers, hone.remembers]
      rfl
    · rw [List.foldl_cons, hrest.messages, hone.messages, hone.remembers, List.append_assoc]
      rfl

/-- A step passes on what the handlers are told. -/
theorem step_receives (h : step cfg c a = some c') (hnodup : c.pendingPubRels.Nodup) :
    ReceivesAll c ((c.told a).map Event.signal) c' := by
  by_cases ha : a = .parse
  · subst ha
    cases step_cases h with
    | parse b rest hinbox =>
      show ReceivesAll c (c.events.map _) _
      rw [parse, events, hinbox]
      simp only
      cases c.parser.step b rest with
      | error f => exact receivesAll_nil hnodup rfl rfl
      | ok r =>
        have hall := foldl_dispatch_receives (c := { c with parser := r.1, inbox := r.2.2 }) r.2.1
          hnodup
        exact ⟨hall.nodup, hall.remembers, hall.messages⟩
  · obtain ⟨-, -, hpending, hmessages, -⟩ := step_keeps h ha
    rw [told_of_ne ha]
    exact receivesAll_nil hnodup hpending hmessages

/-- So does a run. -/
theorem receives_of_exec (hnodup : c.pendingPubRels.Nodup) (hrun : exec (step cfg) c as = some c') :
    ReceivesAll c ((heard cfg c as).map Event.signal) c' := by
  induction as generalizing c with
  | nil =>
    obtain rfl : c = c' := Option.some.inj hrun
    exact receivesAll_nil hnodup rfl rfl
  | cons a as ih =>
    obtain ⟨d, hd, hrest⟩ := Option.bind_eq_some_iff.mp hrun
    have hone := step_receives hd hnodup
    rw [heard, hd, List.map_append]
    exact hone.append (ih hone.nodup hrest)

/-- No identifier is remembered twice. -/
theorem nodup_of_exec (hrun : exec (step cfg) (init cfg t₀) as = some c) : c.pendingPubRels.Nodup :=
  (receives_of_exec (c := init cfg t₀) List.nodup_nil hrun).nodup

/-- **What the firmware is told of the messages**, in any run: what the receiver of `Once`
hands on when it is told the same as the handlers. -/
theorem messages_eq {before : List Act} (hbefore : exec (step cfg) (init cfg t₀) before = some c)
    (hrun : exec (step cfg) c as = some c') :
    c'.pendingPubRels.Nodup ∧
      c'.pendingPubRels.toFinset =
        Once.pending c.pendingPubRels.toFinset ((heard cfg c as).map Event.signal) ∧
      c'.messages = c.messages ++
        Once.delivered c.pendingPubRels.toFinset ((heard cfg c as).map Event.signal) :=
  have h := receives_of_exec (nodup_of_exec hbefore) hrun
  ⟨h.nodup, h.remembers, h.messages⟩

/-- The server sends a message of QoS 2, and sends it again, and releases it. -/
def againRun : List Act :=
  .room (List.replicate 3 (.of 100)) ::
    .data [0x34, 6, 0, 1, 116, 0, 1, 7, 0x3C, 6, 0, 1, 116, 0, 1, 7] :: List.replicate 16 .parse

def releaseRun : List Act := againRun ++ .data [0x62, 2, 0, 1] :: List.replicate 4 .parse

set_option maxRecDepth 8192 in
theorem messages_eq_release :
    ∃ c', exec (step plainSettings) acceptedClient releaseRun = some c' ∧
      c'.messages = [.onMessage [116] [7] 2 false false 0 1] ∧
      c'.pendingPubRels.Nodup ∧
        c'.pendingPubRels.toFinset = Once.pending acceptedClient.pendingPubRels.toFinset
          ((heard plainSettings acceptedClient releaseRun).map Event.signal) ∧
        c'.messages = acceptedClient.messages ++ Once.delivered
          acceptedClient.pendingPubRels.toFinset
            ((heard plainSettings acceptedClient releaseRun).map Event.signal) := by
  have hbefore : exec (step plainSettings) (init plainSettings 0) acceptRun =
    some acceptedClient := rfl
  have hrun : exec (step plainSettings) acceptedClient releaseRun = some _ := rfl
  have hmessages : (exec (step plainSettings) acceptedClient releaseRun).map messages =
    some [.onMessage [116] [7] 2 false false 0 1] := by decide +kernel
  rw [hrun] at hmessages
  exact ⟨_, hrun, Option.some.inj hmessages, messages_eq hbefore hrun⟩

/-! ### From the server to the firmware -/

/-- The calls for the bytes of a payload, one by one. -/
def bytewise (call : UInt32 → List UInt8 → Callback) : UInt32 → List UInt8 → List Callback
  | _, [] => []
  | index, b :: bs => call index [b] :: bytewise call (index + 1) bs

/-- A call of a callback, with a payload byte by byte. -/
def pieces : Callback → List Callback
  | .onMessage topic payload qos dup retain index total =>
    if payload = [] then [.onMessage topic payload qos dup retain index total]
    else
      bytewise (fun index bytes => .onMessage topic bytes qos dup retain index total) index payload
  | call => [call]

theorem map_signal_pieces (m : Chunk) (index : UInt32) (bs : List UInt8) :
    (m.pieces index bs).map Event.signal =
      (bytewise (fun index bytes => .onMessage m.topic bytes m.qos m.dup m.retain index m.total)
        index bs).map (.offer (if m.qos = 2 then some m.packetId else none)) := by
  induction bs generalizing index with
  | nil => rfl
  | cons b bs ih =>
    rw [Chunk.pieces, bytewise, List.map_cons, List.map_cons, ih]
    rfl

/-- An event with the payload byte by byte means the same, piece by piece. -/
theorem map_signal_explode (e : Event) : e.explode.map Event.signal = e.signal.split pieces := by
  cases e with
  | message m =>
    rw [Event.explode, Event.signal, Once.Signal.split, Chunk.callback, pieces]
    split
    · rfl
    · exact map_signal_pieces m m.index m.payload
  | ack a packetId => cases a <;> rfl
  | connAck sessionPresent connectReturnCode => cases sessionPresent <;> rfl
  | publish packetId qos =>
    show [Event.signal (.publish packetId qos)] = _
    rw [Event.signal]
    split <;> rfl
  | _ => rfl

theorem map_signal_explodeAll (es : List Event) :
    (explodeAll es).map Event.signal =
      (es.map Event.signal).flatMap (Once.Signal.split pieces) := by
  rw [explodeAll, List.map_flatMap, List.flatMap_map]
  exact List.flatMap_congr fun e _ => map_signal_explode e

/-- What the packets of a server mean for the delivery of messages. -/
def signals (maxTopicLength : UInt16) (packets : List ServerPacket) :
    List (Once.Signal UInt16 Callback) :=
  (packets.flatMap (ServerPacket.events maxTopicLength)).map Event.signal

/-- What the firmware should be told of the messages in these packets, byte by byte, by a client
that remembers the identifiers in `S`. -/
def due (S : Finset UInt16) (maxTopicLength : UInt16) (packets : List ServerPacket) :
    List Callback :=
  (Once.delivered S (signals maxTopicLength packets)).flatMap pieces

/-- **From the bytes of the server to the callback.** -/
theorem Given.messages {before : List Act} (h : Given cfg c as packets more c')
    (hbefore : exec (step cfg) (init cfg t₀) before = some c) :
    c'.messages.flatMap pieces <+: c.messages.flatMap pieces ++
        due c.pendingPubRels.toFinset c.parser.maxTopicLength packets ∧
      (c'.inbox = [] → more = [] → c'.messages.flatMap pieces = c.messages.flatMap pieces ++
        due c.pendingPubRels.toFinset c.parser.maxTopicLength packets) := by
  have hmessages := (receives_of_exec (nodup_of_exec hbefore) h.run).messages
  obtain ⟨es', p', -, hends, -, hheard⟩ := h.heard
  generalize c.pendingPubRels.toFinset = S at hmessages
  -- what is due is what has been passed on, and what the rest is good for
  have hdue : due S c.parser.maxTopicLength packets =
      (Once.delivered S ((Client.heard cfg c as).map Event.signal)).flatMap pieces ++
        Once.delivered (Once.pending S ((explodeAll (Client.heard cfg c as)).map Event.signal))
          ((explodeAll es').map Event.signal) := by
    rw [due, ← Once.delivered_flatMap_split, ← Once.delivered_flatMap_split, signals,
      ← map_signal_explodeAll, ← map_signal_explodeAll, ← hheard, List.map_append,
      Once.delivered_append]
  rw [hmessages, List.flatMap_append, hdue]
  refine ⟨⟨_, List.append_assoc ..⟩, ?_⟩
  rintro hinbox rfl
  rw [hinbox] at hends
  cases hends with
  | nil => rw [explodeAll_nil, List.map_nil, Once.delivered_nil, List.append_nil]

theorem signals_append (maxTopicLength : UInt16) (packets₁ packets₂ : List ServerPacket) :
    signals maxTopicLength (packets₁ ++ packets₂) =
      signals maxTopicLength packets₁ ++ signals maxTopicLength packets₂ := by
  rw [signals, List.flatMap_append, List.map_append]
  rfl

theorem signals_cons (maxTopicLength : UInt16) (packet : ServerPacket)
    (packets : List ServerPacket) :
    signals maxTopicLength (packet :: packets) =
      (packet.events maxTopicLength).map Event.signal ++ signals maxTopicLength packets := by
  rw [signals, List.flatMap_cons, List.map_append]
  rfl

/-- The packet is a message of QoS 2 with this identifier. -/
def isCopy (packetId : UInt16) : ServerPacket → Bool
  | .publish m _ i _ => m.qos = 2 ∧ i = packetId
  | _ => false

/-- The packet makes the client forget the identifier: a PUBREL, or a CONNACK without a
session. -/
def Frees (packetId : UInt16) : ServerPacket → Prop
  | .ack .pubRel i => i = packetId
  | .connAck sessionPresent _ => sessionPresent = false
  | _ => False

variable {packetId : UInt16} {packet : ServerPacket} (maxTopicLength : UInt16)

theorem events_publish (m : Message) (hm : m.Valid) (i : UInt16) (dup : Bool) :
    (ServerPacket.publish m hm i dup).events maxTopicLength =
      if maxTopicLength.toNat < m.topic.length then []
      else
        [.message ⟨m.topic, m.content, m.qos, dup, m.retain, 0, UInt32.ofNat m.content.length,
          if m.qos = 0 then 0 else i⟩, .publish (if m.qos = 0 then 0 else i) m.qos] := rfl

theorem frees_of_signal {s : Once.Signal UInt16 Callback}
    (hs : s ∈ (packet.events maxTopicLength).map Event.signal) (h : Once.Frees packetId s) :
    Frees packetId packet := by
  cases packet with
  | connAck sessionPresent connectReturnCode =>
    obtain rfl := List.mem_singleton.mp hs
    cases sessionPresent with
    | false => rfl
    | true => exact h.elim
  | ack a i =>
    obtain rfl := List.mem_singleton.mp hs
    cases a with
    | pubRel => exact h
    | _ => exact h.elim
  | publish m hm i dup =>
    rw [events_publish] at hs
    split at hs
    · cases hs
    · rcases List.mem_cons.mp hs with rfl | hs
      · exact h.elim
      · obtain rfl := List.mem_singleton.mp hs
        rw [Event.signal] at h
        split at h <;> exact h.elim
  | _ =>
    obtain rfl := List.mem_singleton.mp hs
    exact h.elim

/-- All that a copy means concerns its identifier. -/
theorem concerns_of_isCopy (h : isCopy packetId packet = true)
    {s : Once.Signal UInt16 Callback} (hs : s ∈ (packet.events maxTopicLength).map Event.signal) :
    Once.concerns packetId s = true := by
  cases packet with
  | publish m hm i dup =>
    obtain ⟨hqos, rfl⟩ : m.qos = 2 ∧ i = packetId := of_decide_eq_true h
    have hnonzero : ¬m.qos = 0 := by
      rw [hqos]
      decide
    rw [events_publish, if_neg hnonzero] at hs
    split at hs
    · cases hs
    · rcases List.mem_cons.mp hs with rfl | hs
      · rw [Event.signal, if_pos hqos]
        exact decide_eq_true rfl
      · obtain rfl := List.mem_singleton.mp hs
        rw [Event.signal, if_pos hqos]
        exact decide_eq_true rfl
  | _ => cases h

theorem filter_signals (packetId : UInt16) (packets : List ServerPacket) :
    (signals maxTopicLength packets).filter (fun s => !Once.concerns packetId s) =
      (signals maxTopicLength (packets.filter fun s => !isCopy packetId s)).filter
        (fun s => !Once.concerns packetId s) := by
  induction packets with
  | nil => rfl
  | cons packet packets ih =>
    rw [signals_cons, List.filter_append, ih]
    by_cases hcopy : isCopy packetId packet = true
    · have hnone : ((packet.events maxTopicLength).map Event.signal).filter
          (fun s => !Once.concerns packetId s) = [] :=
        List.filter_eq_nil_iff.mpr fun s hs => by
          simp [concerns_of_isCopy maxTopicLength hcopy hs]
      rw [hnone, List.filter_cons_of_neg (by simp [hcopy])]
      rfl
    · rw [List.filter_cons_of_pos (by simp [hcopy]), signals_cons, List.filter_append]

/-- A message of QoS 2 that is not ignored is remembered. -/
theorem mem_pending_publish {m : Message} (hm : m.Valid) (hqos : m.qos = 2)
    (hfits : m.topic.length ≤ maxTopicLength.toNat) (packetId : UInt16) (dup : Bool)
    (S : Finset UInt16) :
    packetId ∈ Once.pending S
      (((ServerPacket.publish m hm packetId dup).events maxTopicLength).map Event.signal) := by
  have hnonzero : ¬m.qos = 0 := by
    rw [hqos]
    decide
  rw [events_publish, if_neg hnonzero, if_neg (Nat.not_lt.mpr hfits), List.map_cons, List.map_cons,
    Once.pending, Once.pending]
  have hsettle : Event.signal (.publish packetId m.qos) = .settle packetId := if_pos hqos
  rw [hsettle]
  exact Finset.mem_insert_self packetId _

/-- **Copies of a message of QoS 2 make no difference**, up to its release. -/
theorem due_filter {m : Message} (hm : m.Valid) (hqos : m.qos = 2)
    (hfits : m.topic.length ≤ maxTopicLength.toNat) (dup : Bool) (S : Finset UInt16)
    (packets₁ : List ServerPacket) {packets₂ : List ServerPacket}
    (hkept : ∀ s ∈ packets₂, ¬Frees packetId s) :
    due S maxTopicLength (packets₁ ++ .publish m hm packetId dup :: packets₂) =
      due S maxTopicLength (packets₁ ++ .publish m hm packetId dup ::
        packets₂.filter fun s => !isCopy packetId s) := by
  have hfrees : ∀ packets : List ServerPacket, (∀ s ∈ packets, ¬Frees packetId s) →
      ∀ s ∈ signals maxTopicLength packets, ¬Once.Frees packetId s := by
    intro packets hpackets s hs hfree
    rw [signals, List.map_flatMap] at hs
    obtain ⟨packet, hpacket, hs⟩ := List.mem_flatMap.mp hs
    exact hpackets packet hpacket (frees_of_signal maxTopicLength hs hfree)
  simp only [due, signals_append, signals_cons, Once.delivered_append]
  have hmem := mem_pending_publish maxTopicLength hm hqos hfits packetId dup
    (Once.pending S (signals maxTopicLength packets₁))
  rw [Once.delivered_filter hmem (hfrees packets₂ hkept), filter_signals,
    ← Once.delivered_filter hmem (hfrees _ fun s hs => hkept s (List.mem_of_mem_filter hs))]

variable {maxTopicLength}

/-- **A message of QoS 2 reaches the firmware once.** The server sends a message of QoS 2, then
other things, its release not among them, and the message again any number of times, or
others with the identifier of this one. The firmware is told the same as if it had sent it
once. -/
theorem delivers_once {before : List Act} {m : Message} {hm : m.Valid} {dup : Bool}
    {packets₁ packets₂ : List ServerPacket}
    (hbefore : exec (step cfg) (init cfg t₀) before = some c)
    (h : Given cfg c as (packets₁ ++ .publish m hm packetId dup :: packets₂) more c')
    (hqos : m.qos = 2) (hfits : m.topic.length ≤ c.parser.maxTopicLength.toNat)
    (hkept : ∀ s ∈ packets₂, ¬Frees packetId s) :
    let once := packets₁ ++ .publish m hm packetId dup ::
      packets₂.filter fun s => !isCopy packetId s
    c'.messages.flatMap pieces <+: c.messages.flatMap pieces ++
        due c.pendingPubRels.toFinset c.parser.maxTopicLength once ∧
      (c'.inbox = [] → more = [] → c'.messages.flatMap pieces = c.messages.flatMap pieces ++
        due c.pendingPubRels.toFinset c.parser.maxTopicLength once) := by
  have hmessages := h.messages hbefore
  rw [due_filter _ hm hqos hfits dup _ packets₁ hkept] at hmessages
  exact hmessages

/-- A message of QoS 2. -/
def sureMessage : Message :=
  { topic := [116], qos := 2, retain := false, payload := some [7], length := 1 }

theorem sureMessage_valid : sureMessage.Valid where
  topic := ⟨by decide, by decide⟩
  qos := .inr (.inr rfl)
  backed := show 1 ≤ 1 from Nat.le_refl 1
  short := by decide

set_option maxRecDepth 4096 in
theorem delivers_once_again :
    ∃ c', exec (step plainSettings) acceptedClient againRun = some c' ∧
      c'.messages.flatMap pieces = acceptedClient.messages.flatMap pieces ++
        due acceptedClient.pendingPubRels.toFinset acceptedClient.parser.maxTopicLength
          [.publish sureMessage sureMessage_valid 1 false] := by
  have hbefore : exec (step plainSettings) (init plainSettings 0) acceptRun =
    some acceptedClient := rfl
  have hrun : exec (step plainSettings) acceptedClient againRun = some _ := rfl
  have hgiven : Given plainSettings acceptedClient againRun
      ([] ++ .publish sureMessage sureMessage_valid 1 false ::
        [.publish sureMessage sureMessage_valid 1 true]) [] _ := {
    between := ⟨rfl, rfl⟩
    inbox := rfl
    readable := fun s hs => by
      rcases List.mem_cons.mp hs with rfl | hs
      · exact ⟨by decide, by decide⟩
      · obtain rfl := List.mem_singleton.mp hs
        exact ⟨by decide, by decide⟩
    bytes := by
      rw [List.nil_append, List.flatMap_cons, List.flatMap_singleton, bytes_of_lt _ (by decide),
        bytes_of_lt _ (by decide)]
      rfl
    run := hrun
    opened := by decide }
  refine ⟨_, hrun, (delivers_once hbefore hgiven rfl (by decide) fun s hs => ?_).2 rfl rfl⟩
  obtain rfl := List.mem_singleton.mp hs
  exact fun h => h

end Client

end Mqtt

end SentinelEdge
