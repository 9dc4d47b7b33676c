import SentinelEdge.Mqtt.Session

/-!
# The order of the messages

The queue of the client is not a plain one: a CONNECT goes in front of everything, an
acknowledgement behind the head, a message that has been sent stays until it is acknowledged,
and when the connection is lost some packets are kept, with their flags changed, and others are
not. All the same, the messages that a server gets over one connection are messages that the
client has accepted, in the order it has accepted them, and under the identifiers it has given
them, so that none comes more often than it has been accepted
(`SentinelEdge.Mqtt.Client.published_in_order`).

What is said of a list of packets to this end is `SentinelEdge.Mqtt.InOrder`. It goes on to hold
whatever becomes of the packets (`SentinelEdge.Mqtt.upheld_inOrder`), so that the rules for the
bytes of a connection apply to it.
-/

namespace SentinelEdge

namespace Mqtt

open Relation LabelledRun

/-! ### The messages among the packets -/

/-- The message that a client sends with a packet, and its identifier. -/
def ClientPacket.message : ClientPacket → Option Publication
  | .publish r => some r.plain
  | _ => none

/-- The message in a frame. -/
def Frame.message (f : Frame) : Option Publication := f.read.bind ClientPacket.message

/-- The message in a packet that waits in the queue. -/
def OutPacket.message (p : OutPacket) : Option Publication :=
  (decodeFrame p.data).bind fun r => r.1.message

namespace OutPacket

variable {p q : OutPacket} {f : Frame}

theorem IsFrame.message (h : p.IsFrame f) : p.message = f.message := by
  have hdec := decodeFrame_bytes f []
  rw [List.append_nil, ← (show p.data = f.bytes from h)] at hdec
  rw [OutPacket.message, hdec]
  rfl

/-- Sending a message again does not change it. -/
theorem IsFrame.message_setDup (h : p.IsFrame f) (htype : p.packetType = PacketType.PUBLISH) :
    p.setDup.message = p.message := by
  have htype : f.header >>> 4 = PacketType.PUBLISH := h.packetType.symm.trans htype
  rw [h.setDup.message, h.message, Frame.message, Frame.message, Frame.read, Frame.read,
    if_pos ((Frame.dup_bits f.header).1.trans htype), if_pos htype, Frame.readPublish_dup]
  cases readPublish f.header f.body <;> rfl

/-- What the queue keeps of a packet has the same message in it. -/
theorem IsFrame.retain {sent : ℕ} (h : p.IsFrame f) (hq : Mqtt.retain sent p = some q) :
    (∃ g, q.IsFrame g) ∧ q.message = p.message := by
  rw [Mqtt.retain] at hq
  split at hq
  · rename_i hkeep
    obtain rfl := Option.some.inj hq
    refine ⟨⟨_, h.setDup⟩, h.message_setDup ?_⟩
    by_contra htype
    have hqos : p.qos = 0 := if_neg htype
    rw [hqos] at hkeep
    exact absurd hkeep.1 (by decide)
  · obtain ⟨-, hq⟩ := Option.ite_none_right_eq_some.mp hq
    obtain rfl := Option.some.inj hq
    exact ⟨⟨f, h⟩, rfl⟩

end OutPacket

/-- The messages among the packets are some of `ms`, in their order. -/
def InOrder (ms : List Publication) (ps : List OutPacket) : Prop :=
  (∀ p ∈ ps, ∃ f, p.IsFrame f) ∧ (ps.filterMap OutPacket.message).Sublist ms

variable {ms : List Publication}

/-- The messages among what the queue keeps. -/
theorem sublist_dropped {ps : List OutPacket} (h : ∀ p ∈ ps, ∃ f, p.IsFrame f) (sent : ℕ) :
    ((ps.filterMap (retain sent)).filterMap OutPacket.message).Sublist
      (ps.filterMap OutPacket.message) := by
  induction ps with
  | nil => exact .refl _
  | cons p ps ih =>
    obtain ⟨⟨f, hf⟩, hps⟩ := List.forall_mem_cons.mp h
    have hrest := ih hps
    have hbehind : (ps.filterMap OutPacket.message).Sublist
        ((p :: ps).filterMap OutPacket.message) := (List.sublist_cons_self p ps).filterMap _
    cases hq : retain sent p with
    | none =>
      rw [List.filterMap_cons_none hq]
      exact hrest.trans hbehind
    | some q =>
      rw [List.filterMap_cons_some hq]
      have hsame := (hf.retain hq).2
      cases hm : p.message with
      | none =>
        rw [List.filterMap_cons_none hm, List.filterMap_cons_none (hsame.trans hm)]
        exact hrest
      | some m =>
        rw [List.filterMap_cons_some hm, List.filterMap_cons_some (hsame.trans hm)]
        exact hrest.cons_cons m

/-- **That the messages are in order goes on to hold**, whatever becomes of the packets. -/
theorem upheld_inOrder (ms : List Publication) : Upheld (InOrder ms) where
  readable := fun h => h.1
  leave := fun hsub h => ⟨fun p hp => h.1 p (hsub.subset hp), (hsub.filterMap _).trans h.2⟩
  release := by
    rintro ps p qs ⟨hframes, hsub⟩
    refine ⟨fun q hq => ?_, ?_⟩
    · rcases List.mem_append.mp hq with hq | hq
      · exact hframes q (List.mem_append_left _ hq)
      · rcases List.mem_cons.mp hq with rfl | hq
        · exact hframes p (List.mem_append_right _ List.mem_cons_self)
        · exact hframes q (List.mem_append_right _ (List.mem_cons_of_mem _ hq))
    · rw [List.filterMap_append, List.filterMap_cons] at hsub ⊢
      exact hsub
  dropped := by
    rintro ps sent ⟨hframes, hsub⟩
    refine ⟨fun q hq => ?_, (sublist_dropped hframes sent).trans hsub⟩
    obtain ⟨p, hp, hretain⟩ := List.mem_filterMap.mp hq
    obtain ⟨f, hf⟩ := hframes p hp
    exact (hf.retain hretain).1

/-- A packet that is not a message can be anywhere. -/
theorem welcome_inOrder {p : OutPacket} {f : Frame} (hp : p.IsFrame f)
    (hmessage : f.message = none) : Welcome (InOrder ms) p := by
  rintro ps qs ⟨hframes, hsub⟩
  refine ⟨fun q hq => ?_, ?_⟩
  · rcases List.mem_append.mp hq with hq | hq
    · exact hframes q (List.mem_append_left _ hq)
    · rcases List.mem_cons.mp hq with rfl | hq
      · exact ⟨f, hp⟩
      · exact hframes q (List.mem_append_right _ hq)
  · rw [List.filterMap_append, List.filterMap_cons_none (hp.message.trans hmessage),
      ← List.filterMap_append]
    exact hsub

/-- A message comes last. -/
theorem inOrder_push {p : OutPacket} {f : Frame} {m : Publication} (hp : p.IsFrame f)
    (hmessage : f.message = some m) (ps : List OutPacket) (h : InOrder ms ps) :
    InOrder (ms ++ [m]) (ps ++ [p]) := by
  obtain ⟨hframes, hsub⟩ := h
  refine ⟨fun q hq => ?_, ?_⟩
  · rcases List.mem_append.mp hq with hq | hq
    · exact hframes q hq
    · rw [List.mem_singleton.mp hq]
      exact ⟨f, hp⟩
  · rw [List.filterMap_append, List.filterMap_cons_some (hp.message.trans hmessage)]
    exact hsub.append (.refl _)

/-- The messages in some frames. -/
theorem filterMap_message {ps : List OutPacket} {fs : List Frame}
    (h : List.Forall₂ OutPacket.IsFrame ps fs) :
    fs.filterMap Frame.message = ps.filterMap OutPacket.message := by
  induction h with
  | nil => rfl
  | cons hf _ ih => rw [List.filterMap_cons, List.filterMap_cons, hf.message, ih]

/-! ### The messages of a run -/

namespace Client

variable {cfg : Settings} {t₀ : ℕ} {c c' : Client} {a : Act} {as : List Act}

/-- The message that the client accepts in a step, if it accepts one, with the identifier that it
gets. -/
def accepts (c : Client) : Act → List Publication
  | .publish m freeMemory =>
    if Accepts c.state freeMemory then [m.publication (c.publishId m)] else []
  | _ => []

/-- The messages that the client accepts in a run. -/
def accepted (cfg : Settings) : Client → List Act → List Publication :=
  answers (step cfg) fun c a _ => c.accepts a

theorem accepts_of_ne (ha : ∀ m freeMemory, a ≠ .publish m freeMemory) : c.accepts a = [] := by
  cases a with
  | publish m freeMemory => exact absurd rfl (ha m freeMemory)
  | _ => rfl

/-- Only `publish` means a message. -/
theorem message_of_means {r : ClientPacket} (ha : ∀ m freeMemory, a ≠ .publish m freeMemory)
    (hr : c.Means cfg a r) : r.message = none := by
  cases r with
  | publish r =>
    cases a with
    | publish m freeMemory => exact absurd rfl (ha m freeMemory)
    | _ => exact hr.elim
  | _ => rfl

/-- A message that is accepted goes to the end of the queue, with its identifier. -/
theorem publish_of_accepts {m : Message} {freeMemory : ℕ} (h : Accepts c.state freeMemory) :
    ∃ nextPacketId, (c.publish m freeMemory).2 =
      ({ c with nextPacketId := nextPacketId }.addBackId
        (publishOutPacket m (c.publishId m))).2 := by
  have hnot : ¬(c.state ≠ .connected ∨ freeMemory < mqttMinFreeMemory) :=
    not_or.mpr ⟨not_not.mpr h.1, Nat.not_lt.mpr h.2⟩
  rw [publish, if_neg hnot]
  exact ⟨_, rfl⟩

/-- **A message that is accepted** comes behind the others. -/
theorem publish_inOrder {m : Message} {freeMemory : ℕ} {first : Frame} (hm : m.Valid)
    (h : Accepts c.state freeMemory)
    (hc : c.Roomed Room.Honest ∧ c.line.Framed (InOrder ms) first) :
    (c.publish m freeMemory).2.Roomed Room.Honest ∧
      (c.publish m freeMemory).2.line.Framed (InOrder (ms ++ [m.publication (c.publishId m)]))
        first := by
  obtain ⟨nextPacketId, heq⟩ := publish_of_accepts (m := m) h
  have hread := Message.read_frame hm (publishId_ne_zero m c) false
  have hmessage : (m.frame hm (c.publishId m) false).message =
      some (m.publication (c.publishId m)) := by
    rw [Frame.message, hread]
    rfl
  have hpush : Line.Framed (InOrder (ms ++ [m.publication (c.publishId m)])) first
      { c.line with queue := c.queue ++ [publishOutPacket m (c.publishId m)] } :=
    hc.2.push (inOrder_push (Message.isFrame_publishOutPacket hm _) hmessage)
  -- then the queue is worked on, and nothing is added
  have hqueue := (handleQueue_follows (R := Room.Honest) (P := fun _ => False)
    (A := fun _ => False) { c with
      nextPacketId := nextPacketId
      queue := c.queue ++ [publishOutPacket m (c.publishId m)] }).trans
    (addBackId_follows (publishOutPacket m (c.publishId m)) { c with nextPacketId := nextPacketId })
  obtain ⟨hroom, -, hchanges⟩ := hqueue (hc.1.of_eq rfl rfl)
  rw [heq]
  exact ⟨hroom, Line.framed_of_changes (upheld_inOrder _) (fun _ hr => hr) hchanges
    (fun p => False.elim) hpush⟩

/-- **A step keeps the messages in order**, with the one that it accepts, if any, behind the
others. -/
theorem inOrder_step (hcfg : cfg.Valid) (h : step cfg c a = some c') (hvalid : a.Valid)
    (hhonest : a.Offers Room.Honest) (htimely : c.Timely a)
    (hc : c.Roomed Room.Honest ∧ c.line.Framed (InOrder ms) (cfg.frame hcfg)) :
    c'.Roomed Room.Honest ∧ c'.line.Framed (InOrder (ms ++ c.accepts a)) (cfg.frame hcfg) := by
  by_cases ha : ∃ m freeMemory, a = .publish m freeMemory
  · obtain ⟨m, freeMemory, rfl⟩ := ha
    cases step_cases h with
    | publish =>
      by_cases hacc : Accepts c.state freeMemory
      · rw [accepts, if_pos hacc]
        exact publish_inOrder hvalid hacc hc
      · rw [accepts, if_neg hacc, List.append_nil, publish_of_not_accepts hacc]
        exact hc
  · have hother : ∀ m freeMemory, a ≠ .publish m freeMemory := fun m freeMemory heq =>
      ha ⟨m, freeMemory, heq⟩
    rw [accepts_of_ne hother, List.append_nil]
    refine framed_step (upheld_inOrder ms) hcfg h (fun p hp => ?_) hhonest htimely hc
    obtain ⟨f, hf, r, hread, hr⟩ := hp.legal hcfg hvalid
    refine welcome_inOrder hf ?_
    rw [Frame.message, hread]
    exact message_of_means hother hr

/-- A run keeps the messages in order. -/
theorem inOrder_exec (hcfg : cfg.Valid) (hrun : exec (step cfg) c as = some c')
    (hargs : ∀ a ∈ as, a.Valid) (hhonest : ∀ a ∈ as, a.Offers Room.Honest)
    (htimely : Along (step cfg) (fun c a _ => c.Timely a) c as)
    (hc : c.Roomed Room.Honest ∧ c.line.Framed (InOrder ms) (cfg.frame hcfg)) :
    c'.Roomed Room.Honest ∧
      c'.line.Framed (InOrder (ms ++ accepted cfg c as)) (cfg.frame hcfg) := by
  induction as generalizing c ms with
  | nil =>
    obtain rfl := Option.some.inj hrun
    rwa [accepted, answers, List.append_nil]
  | cons a as ih =>
    obtain ⟨d, hd, hrest⟩ := Option.bind_eq_some_iff.mp hrun
    obtain ⟨hvalid, hargs⟩ := List.forall_mem_cons.mp hargs
    obtain ⟨hoffers, hhonest⟩ := List.forall_mem_cons.mp hhonest
    obtain ⟨hone, htimely⟩ := along_cons.mp htimely d hd
    rw [accepted, answers_cons hd, ← List.append_assoc]
    exact ih hrest hargs hhonest htimely (inOrder_step hcfg hd hvalid hoffers hone hc)

/-- **The messages come in order, and none comes more often over one connection than it has been
accepted**: in every run in which the firmware passes what can be sent, the TCP library takes
what it has said that it has room for, and the queue is thrown away only when something has
been sent and nothing of its head in part, the messages that a server gets over the open
connection are some of those that the client has accepted in the run, under the same
identifiers and in the order in which it has accepted them. -/
theorem published_in_order (hcfg : cfg.Valid) (hrun : exec (step cfg) (init cfg t₀) as = some c)
    (hargs : ∀ a ∈ as, a.Valid) (hhonest : ∀ a ∈ as, a.Offers Room.Honest)
    (htimely : Along (step cfg) (fun c a _ => c.Timely a) (init cfg t₀) as)
    (hopen : c.tcp = .opened) :
    ∃ frames rest, framing.receive c.wire = (frames, rest) ∧
      (frames.filterMap Frame.message).Sublist (accepted cfg (init cfg t₀) as) := by
  have hinit := framed_init cfg t₀ (cfg.frame hcfg) (J := InOrder [])
    ⟨fun p hp => absurd hp List.not_mem_nil, .refl _⟩
  obtain ⟨-, hframed⟩ := inOrder_exec hcfg hrun hargs hhonest htimely hinit
  obtain ⟨packets, frames, rest, hreceive, horder, hall, -, -⟩ :=
    hframed.receive (upheld_inOrder _) hopen
  exact ⟨frames, rest, hreceive, filterMap_message hall ▸ horder.2⟩

/-- A message is published and sent, and sent again when the connection has been lost; then it is
acknowledged, and another one with the same content follows. -/
def reconnectRun : List Act :=
  publishRun ++ [.room [.of 100], .ack, .tcpClosed, .connect,
    .tcpConnected [.of 100, .of 100, .of 100], .data [0x20, 2, 1, 0], .parse, .parse, .parse,
    .parse, .data [0x40, 2, 0, 1], .parse, .parse, .parse, .parse, .room [.of 100, .of 100],
    .publish shortMessage 8192]

theorem reconnectRun_valid : ∀ a ∈ reconnectRun, a.Valid := by
  simp [reconnectRun, publishRun, acceptRun, Act.Valid, shortMessage_valid]

set_option maxRecDepth 8192 in
theorem published_in_order_reconnect :
    ∃ c, exec (step plainSettings) (init plainSettings 0) reconnectRun = some c ∧
      ∃ frames rest, framing.receive c.wire = (frames, rest) ∧
        (frames.filterMap Frame.message).Sublist
          (accepted plainSettings (init plainSettings 0) reconnectRun) := by
  have hrun : exec (step plainSettings) (init plainSettings 0) reconnectRun = some _ := rfl
  exact ⟨_, hrun, published_in_order plainSettings_valid hrun reconnectRun_valid (by decide)
    (by decide) rfl⟩

end Client

end Mqtt

end SentinelEdge
