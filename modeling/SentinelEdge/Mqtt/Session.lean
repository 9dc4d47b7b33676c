import SentinelEdge.Mqtt.Format
import SentinelEdge.Mqtt.Line

/-!
# What goes over a connection

Three questions about the queue of the client, over whole runs and whatever the server,
the network and the firmware do.

* **Does the loop of `_handleQueue` come to an end?** It does, in every state the client
  gets into, if the room does not shrink within a pass
  (`SentinelEdge.Mqtt.Client.handleQueue_returns`).
* **Can the server make sense of what it is sent?** The bytes of a connection are whole
  packets, of which the CONNECT is the first, and a part of another one; and each of them
  says what some step of the run meant (`SentinelEdge.Mqtt.Client.server_reads`). Two things
  are asked for. The TCP library takes what it has said that it has room for
  (`SentinelEdge.Mqtt.Room.Honest`), since the client does not look at what it took. And a
  CONNACK that says that there is no session makes the client throw its queue away, also
  if nothing has been sent, so that the CONNECT is gone, or if the head has been sent in
  part, and the rest of it will never come. So no such CONNACK arrives at such a time
  (`SentinelEdge.Mqtt.Client.Timely`).
* **Is a message kept until it is acknowledged?** It is, through any number of
  connections, if its length is right, and only then
  (`SentinelEdge.Mqtt.Client.unacknowledged_stays`, `SentinelEdge.Mqtt.Client.survives_iff`).
-/

namespace SentinelEdge

namespace Mqtt

open Relation LabelledRun

/-! ### How much of the head has been sent -/

namespace Sender

variable {s : Sender}

theorem sane_of_sent_eq_zero (h : s.sent = 0) : s.Sane := by
  rw [Sane]
  split
  · exact h
  · rw [h]
    exact Nat.zero_le _

/-- What the count says if there is a head. -/
theorem sane_iff_of_cons {head : OutPacket} {next : List OutPacket} (h : s.queue = head :: next) :
    s.Sane ↔ s.sent ≤ head.size := by
  rw [Sane, h]

theorem half_of_cons {head : OutPacket} {next : List OutPacket} (h : s.queue = head :: next) :
    s.half = head.data.take s.sent := by
  rw [half, h]

theorem half_of_sent_eq_zero (h : s.sent = 0) : s.half = [] := by
  rw [half, h]
  split <;> rfl

end Sender

namespace Line

variable {now : UInt32} {R : Room → Prop} {P : OutPacket → Prop} {A : UInt16 → Prop} {l l' : Line}

/-- No more is marked as sent than there is, and nothing without a connection. -/
structure Steady (l : Line) : Prop where
  sane : l.toSender.Sane
  fresh : l.tcp ≠ .opened → l.sent = 0

theorem steady_of_sent_eq_zero (h : l.sent = 0) : l.Steady :=
  ⟨Sender.sane_of_sent_eq_zero h, fun _ => h⟩

/-- A packet at the end, as the count sees it. -/
theorem sane_push {s : Sender} (h : s.Sane) (p : OutPacket) :
    Sender.Sane { s with queue := s.queue ++ [p] } := by
  cases hqueue : s.queue with
  | nil =>
    rw [Sender.Sane, hqueue] at h
    exact Sender.sane_of_sent_eq_zero h
  | cons head next =>
    rw [Sender.sane_iff_of_cons hqueue] at h
    exact (Sender.sane_iff_of_cons (s := { s with queue := (head :: next) ++ [p] }) rfl).mpr h

/-- **Every change keeps the count right.** -/
theorem Change.steady (h : Change now R P A l l') (hl : l.Steady) : l'.Steady := by
  cases h with
  | move hmove hopen => exact ⟨hmove.sane hl.sane, fun hclosed => absurd hopen hclosed⟩
  | push p hp => exact ⟨sane_push hl.sane p, hl.fresh⟩
  | @insert head next p hp hqueue =>
    have hsent : l.sent ≤ head.size := (Sender.sane_iff_of_cons hqueue).mp hl.sane
    exact ⟨hsent, hl.fresh⟩
  | @release head next hqueue hid =>
    have hsent : l.sent ≤ head.size := (Sender.sane_iff_of_cons hqueue).mp hl.sane
    exact ⟨hsent, hl.fresh⟩
  | pong => exact ⟨hl.sane, hl.fresh⟩
  | drop hopen => exact steady_of_sent_eq_zero rfl

end Line

namespace Client

variable {cfg : Settings} {t₀ : ℕ} {c c' : Client} {a : Act} {as : List Act}

/-- A connection is reported only while it is being established. -/
theorem tcp_of_tcpConnected {rooms : List Room} (h : step cfg c (.tcpConnected rooms) = some c') :
    c.tcp = .connecting := by
  cases step_cases h with
  | tcpConnected _ htcp hinbox => exact htcp

/-- What is peculiar to a step keeps the count right, too. -/
theorem steady_prepare (h : step cfg c a = some c') (hl : c.line.Steady) :
    (prepare cfg c a).Steady := by
  cases a with
  | tcpConnected rooms =>
    have htcp := tcp_of_tcpConnected h
    have hsent : c.sent = 0 := hl.fresh fun hopen => by
      have hopen : c.tcp = .opened := hopen
      rw [htcp] at hopen
      cases hopen
    exact Line.steady_of_sent_eq_zero hsent
  | tcpClosed => exact Line.steady_of_sent_eq_zero rfl
  | parse =>
    rcases prepare_parse cfg c with ⟨sessionPresent, connectReturnCode, -, h⟩ | ⟨-, h⟩ | ⟨-, -, h⟩
    · rw [h]
      cases sessionPresent with
      | false => exact Line.steady_of_sent_eq_zero rfl
      | true => exact ⟨hl.sane, hl.fresh⟩
    · rw [h]
      exact ⟨hl.sane, hl.fresh⟩
    · rwa [h]
  | poll =>
    rw [prepare_poll]
    split
    · exact ⟨hl.sane, hl.fresh⟩
    · split
      · exact ⟨hl.sane, hl.fresh⟩
      · exact hl
  | connect =>
    rw [prepare, connect]
    split
    · exact hl
    · refine ⟨hl.sane, fun hclosed => hl.fresh fun hopen => hclosed ?_⟩
      have hopen : c.tcp = .opened := hopen
      show (if c.tcp = .closed then _ else _) = _
      rw [hopen]
      rfl
  | disconnect force =>
    rw [prepare_disconnect]
    split
    · exact ⟨hl.sane, hl.fresh⟩
    · split
      · exact hl
      · exact ⟨hl.sane, hl.fresh⟩
  | clearQueue =>
    rw [prepare, clearQueue]
    split
    · exact hl
    · exact Line.steady_of_sent_eq_zero rfl
  | _ => exact hl

/-- There is a count, and it is right, in every state the client gets into. -/
theorem steady_of_exec (h : exec (step cfg) (init cfg t₀) as = some c) :
    c.Roomed (fun _ => True) ∧ c.line.Steady := by
  refine exec_inv (I := fun c : Client => c.Roomed (fun _ => True) ∧ c.line.Steady)
    (fun c a c' hc hs => ?_) ⟨roomed_of_nil rfl, Line.steady_of_sent_eq_zero rfl⟩ h
  exact step_inv hc.1 a.offers_true hs (steady_prepare hs hc.2) fun l l' hl hchange =>
    hchange.steady hl

/-- **The loop of `_handleQueue` comes to an end** in every state the client gets into, whatever
room there is, if it does not shrink between the two questions of a pass: it asks for room no
more often than there are bytes and packets left, and once more; and if it gets room every
time, nothing is left that could be sent. -/
theorem handleQueue_returns (h : exec (step cfg) (init cfg t₀) as = some c) (rooms : List Room)
    (hsteady : ∀ r ∈ rooms, r.Steady) :
    rooms.length ≤
        (handleQueueLoop c.millis rooms c.toSender false).2.1.length + c.toSender.work + 1 ∧
      (c.toSender.work < rooms.length → (∀ r ∈ rooms, 10 < r.space) →
        (handleQueueLoop c.millis rooms c.toSender false).1.Idle) := by
  have hsane := (steady_of_exec h).2.sane
  exact ⟨Sender.handleQueueLoop_asks _ hsteady hsane false,
    fun hlong hspace => Sender.handleQueueLoop_idle _ hsane false hlong hspace hsteady⟩

/-- The settings of a client that has a name and nothing else. -/
def plainSettings : Settings := { clientId := [101] }

/-- A connection without room. -/
def waitingRun : List Act := [.connect, .tcpConnected []]

theorem handleQueue_returns_waiting :
    ∃ c, exec (step plainSettings) (init plainSettings 0) waitingRun = some c ∧
      (handleQueueLoop c.millis (List.replicate 20 (.of 11)) c.toSender false).1.Idle := by
  have hrun : exec (step plainSettings) (init plainSettings 0) waitingRun = some _ := rfl
  exact ⟨_, hrun, (handleQueue_returns hrun (List.replicate 20 (.of 11)) (by decide)).2 (by decide)
    (by decide)⟩

end Client

/-! ### Packets that a server can read -/

/-- A server can read the frame, and what it reads is what `Q` says. -/
def Frame.Says (Q : ClientPacket → Prop) (f : Frame) : Prop := ∃ r, f.read = some r ∧ Q r

/-- The bytes of the packet are those of a frame that says what `Q` says. -/
def OutPacket.Legal (Q : ClientPacket → Prop) (p : OutPacket) : Prop := ∃ f, p.IsFrame f ∧ f.Says Q

/-- It makes no difference to `Q` whether a message is sent for the first time. -/
def Lenient (Q : ClientPacket → Prop) : Prop :=
  ∀ r : Publication, Q (.publish r) → Q (.publish { r with dup := true })

namespace Frame

/-- The flag changes nothing but itself. -/
theorem dup_bits (b : UInt8) : (b ||| HeaderFlag.PUBLISH_DUP) >>> 4 = b >>> 4 ∧
    (b ||| HeaderFlag.PUBLISH_DUP) &&& HeaderFlag.PUBLISH_DUP ≠ 0 ∧
    (b ||| HeaderFlag.PUBLISH_DUP) &&& HeaderFlag.PUBLISH_RETAIN =
      b &&& HeaderFlag.PUBLISH_RETAIN ∧
    (b ||| HeaderFlag.PUBLISH_DUP) &&& 0x06 = b &&& 0x06 := by
  have h : ∀ n : Fin 256,
      (UInt8.ofNat n.val ||| HeaderFlag.PUBLISH_DUP) >>> 4 = UInt8.ofNat n.val >>> 4 ∧
      (UInt8.ofNat n.val ||| HeaderFlag.PUBLISH_DUP) &&& HeaderFlag.PUBLISH_DUP ≠ 0 ∧
      (UInt8.ofNat n.val ||| HeaderFlag.PUBLISH_DUP) &&& HeaderFlag.PUBLISH_RETAIN =
        UInt8.ofNat n.val &&& HeaderFlag.PUBLISH_RETAIN ∧
      (UInt8.ofNat n.val ||| HeaderFlag.PUBLISH_DUP) &&& 0x06 = UInt8.ofNat n.val &&& 0x06 := by
    decide +kernel
  have hb := h ⟨b.toNat, b.toNat_lt⟩
  rwa [UInt8.ofNat_toNat] at hb

/-- A PUBLISH with the flag is read like one without it. -/
theorem readPublish_dup (header : UInt8) (body : List UInt8) :
    readPublish (header ||| HeaderFlag.PUBLISH_DUP) body =
      (readPublish header body).map fun p => { p with dup := true } := by
  obtain ⟨-, hdup, hretain, hqos⟩ := dup_bits header
  simp only [readPublish, hdup, hretain, hqos, ne_eq, not_false_eq_true, decide_true]
  cases readText body with
  | none => rfl
  | some topic =>
    simp only [Option.bind_some]
    split
    · rfl
    · split
      · rfl
      · cases read16 topic.2 with
        | none => rfl
        | some packetId =>
          simp only [Option.bind_some]
          split <;> rfl

end Frame

namespace OutPacket

variable {p q : OutPacket} {Q : ClientPacket → Prop}

/-- The kind of a packet is that of its frame. -/
theorem IsFrame.packetType {f : Frame} (h : p.IsFrame f) : p.packetType = f.header >>> 4 := by
  have hdata : p.data = f.header :: (VarInt.encode f.body.length ++ f.body) := h
  have hget : p.data.get ⟨0, by have := p.two_le; omega⟩ = f.header := by
    rw [List.get_eq_getElem]
    simp only [hdata]
    rfl
  rw [OutPacket.packetType, hget]

/-- A packet is one frame. -/
theorem IsFrame.unique {f g : Frame} (hf : p.IsFrame f) (hg : p.IsFrame g) : f = g := by
  have hbytes : f.bytes ++ [] = g.bytes ++ [] := by rw [← hf, ← hg]
  have hdec := decodeFrame_bytes f []
  rw [hbytes, decodeFrame_bytes] at hdec
  exact (Prod.mk.inj (Option.some.inj hdec)).1.symm

theorem Legal.release (h : p.Legal Q) : p.release.Legal Q := h

theorem Legal.setDup (hQ : Lenient Q) (h : p.Legal Q) (htype : p.packetType = PacketType.PUBLISH) :
    p.setDup.Legal Q := by
  obtain ⟨f, hf, r, hread, hr⟩ := h
  have htype : f.header >>> 4 = PacketType.PUBLISH := hf.packetType.symm.trans htype
  rw [Frame.read, if_pos htype] at hread
  obtain ⟨m, hm, rfl⟩ := Option.map_eq_some_iff.mp hread
  refine ⟨_, hf.setDup, .publish { m with dup := true }, ?_, hQ m hr⟩
  rw [Frame.read, if_pos ((Frame.dup_bits f.header).1.trans htype), Frame.readPublish_dup, hm]
  rfl

/-- What is kept can be read if what was there could. -/
theorem Legal.of_retain {sent : ℕ} (hQ : Lenient Q) (h : p.Legal Q) (hq : retain sent p = some q) :
    q.Legal Q := by
  rw [retain] at hq
  split at hq
  · rename_i hkeep
    obtain rfl := Option.some.inj hq
    refine h.setDup hQ ?_
    by_contra htype
    have hqos : p.qos = 0 := if_neg htype
    rw [hqos] at hkeep
    exact absurd hkeep.1 (by decide)
  · obtain ⟨-, hq⟩ := Option.ite_none_right_eq_some.mp hq
    obtain rfl := Option.some.inj hq
    exact h

end OutPacket

/-! ### Packets in their order -/

/-- The packet can be put anywhere. -/
def Welcome (J : List OutPacket → Prop) (p : OutPacket) : Prop :=
  ∀ ps qs, J (ps ++ qs) → J (ps ++ p :: qs)

/-- What can be said of packets in their order, and goes on to hold whatever becomes of them:
some leave, one is released, or the connection is lost. -/
structure Upheld (J : List OutPacket → Prop) : Prop where
  readable : ∀ {ps}, J ps → ∀ p ∈ ps, ∃ f, p.IsFrame f
  leave : ∀ {ps qs : List OutPacket}, ps.Sublist qs → J qs → J ps
  release : ∀ {ps p qs}, J (ps ++ p :: qs) → J (ps ++ p.release :: qs)
  dropped : ∀ {ps} (sent : ℕ), J ps → J (ps.filterMap (retain sent))

/-- That all of them can be read, to begin with. -/
theorem upheld_legal {Q : ClientPacket → Prop} (hQ : Lenient Q) :
    Upheld fun ps => ∀ p ∈ ps, p.Legal Q where
  readable := by
    intro ps h p hp
    obtain ⟨f, hf, -⟩ := h p hp
    exact ⟨f, hf⟩
  leave := fun hsub h p hp => h p (hsub.subset hp)
  release := by
    intro ps p qs h q hq
    rcases List.mem_append.mp hq with hq | hq
    · exact h q (List.mem_append_left _ hq)
    · rcases List.mem_cons.mp hq with rfl | hq
      · exact (h p (List.mem_append_right _ List.mem_cons_self)).release
      · exact h q (List.mem_append_right _ (List.mem_cons_of_mem _ hq))
  dropped := by
    intro ps sent h q hq
    obtain ⟨p, hp, hretain⟩ := List.mem_filterMap.mp hq
    exact (h p hp).of_retain hQ hretain

/-- Then a server can read their frames. -/
theorem Frame.says_of_legal {Q : ClientPacket → Prop} {ps : List OutPacket} {fs : List Frame}
    (h : List.Forall₂ OutPacket.IsFrame ps fs) (hps : ∀ p ∈ ps, p.Legal Q) :
    ∀ f ∈ fs, f.Says Q := by
  induction h with
  | nil => exact fun f hf => absurd hf List.not_mem_nil
  | cons hf _ ih =>
    obtain ⟨⟨g, hg, hread⟩, hps⟩ := List.forall_mem_cons.mp hps
    exact List.forall_mem_cons.mpr ⟨hf.unique hg ▸ hread, ih hps⟩

theorem welcome_legal {Q : ClientPacket → Prop} {p : OutPacket} (hp : p.Legal Q) :
    Welcome (fun ps => ∀ p ∈ ps, p.Legal Q) p := by
  intro ps qs h q hq
  rcases List.mem_append.mp hq with hq | hq
  · exact h q (List.mem_append_left _ hq)
  · rcases List.mem_cons.mp hq with rfl | hq
    · exact hp
    · exact h q (List.mem_append_right _ hq)

/-! ### The bytes of a connection -/

/-- The sent part of the head is nothing, or the head, or less. -/
theorem Sender.half_cases {s : Sender} (h : s.Sane) :
    s.half = [] ∨ ∃ head next, s.queue = head :: next ∧
      (s.half = head.data ∨ ∃ more, more ≠ [] ∧ head.data = s.half ++ more) := by
  cases hqueue : s.queue with
  | nil =>
    rw [Sane, hqueue] at h
    exact Or.inl (half_of_sent_eq_zero h)
  | cons head next =>
    refine Or.inr ⟨head, next, rfl, ?_⟩
    rw [half_of_cons hqueue]
    rcases Nat.lt_or_ge s.sent head.size with hpart | hall
    · refine Or.inr ⟨head.data.drop s.sent, fun hnone => ?_, (List.take_append_drop _ _).symm⟩
      exact absurd hpart (Nat.not_lt.mpr (List.drop_eq_nil_iff.mp hnone))
    · exact Or.inl (List.take_of_length_le hall)

namespace Line

variable {now : UInt32} {R : Room → Prop} {P : OutPacket → Prop} {A : UInt16 → Prop} {l l' : Line}
  {first : Frame} {J J' : List OutPacket → Prop}

/-- The bytes of the connection are those of packets that are done with and of a part of
the head, `J` holds of these and the queue, and `first` is the first packet of all. -/
def Carries (J : List OutPacket → Prop) (first : Frame) (l : Line) : Prop :=
  ∃ done : List OutPacket, l.wire = done.flatMap OutPacket.data ++ l.half ∧
    J (done ++ l.queue) ∧ ∃ p, (done ++ l.queue).head? = some p ∧ p.IsFrame first

/-- What holds of the line as long as nothing is thrown away at the wrong time. -/
structure Framed (J : List OutPacket → Prop) (first : Frame) (l : Line) : Prop where
  steady : l.Steady
  waiting : J l.queue
  carries : l.tcp = .opened → l.Carries J first

/-- A change that leaves the sent part of the head and what is first of all. -/
theorem Carries.of_queue (h : l.Carries J first) (hwire : l'.wire = l.wire)
    (hhalf : l'.half = l.half) (hJ : ∀ done, J (done ++ l.queue) → J (done ++ l'.queue))
    (hhead : ∀ p, l.queue.head? = some p →
      ∃ q, l'.queue.head? = some q ∧ (p.IsFrame first → q.IsFrame first)) : l'.Carries J first := by
  obtain ⟨done, hbytes, hall, p, hp, hfirst⟩ := h
  refine ⟨done, by rw [hwire, hhalf]; exact hbytes, hJ done hall, ?_⟩
  cases done with
  | nil =>
    obtain ⟨q, hq, hqfirst⟩ := hhead p hp
    exact ⟨q, hq, hqfirst hfirst⟩
  | cons d done => exact ⟨p, hp, hfirst⟩

/-- A packet at the end does not change what has been sent. -/
theorem half_push {s : Sender} (h : s.Sane) (p : OutPacket) :
    Sender.half { s with queue := s.queue ++ [p] } = s.half := by
  cases hqueue : s.queue with
  | nil =>
    rw [Sender.Sane, hqueue] at h
    rw [Sender.half_of_sent_eq_zero h]
    exact Sender.half_of_sent_eq_zero h
  | cons head next =>
    rw [Sender.half_of_cons hqueue]
    rfl

/-- **A packet at the end of the queue**, where it may make a difference to what holds. -/
theorem Framed.push (hl : l.Framed J first) {p : OutPacket} (hp : ∀ ps, J ps → J' (ps ++ [p])) :
    Framed J' first { l with queue := l.queue ++ [p] } := by
  refine ⟨⟨sane_push hl.steady.sane p, hl.steady.fresh⟩, hp _ hl.waiting, fun hopen => ?_⟩
  obtain ⟨done, hbytes, hall, q, hq, hfirst⟩ := hl.carries hopen
  refine ⟨done, ?_, ?_, q, ?_, hfirst⟩
  · rw [half_push hl.steady.sane p]
    exact hbytes
  · rw [← List.append_assoc]
    exact hp _ hall
  · rw [← List.append_assoc, List.head?_append, hq]
    rfl

/-- **Every change keeps the bytes in order**, if the TCP library is honest and the new packets
can be anywhere. -/
theorem Change.framed (hJ : Upheld J) (hR : ∀ r, R r → r.Honest) (h : Change now R P A l l')
    (hP : ∀ p, P p → Welcome J p) (hl : l.Framed J first) : l'.Framed J first := by
  have hsteady := h.steady hl.steady
  cases h with
  | @move s hmove hopen =>
    obtain ⟨done, hbytes, hall, p, hp, hfirst⟩ := hl.carries hopen
    obtain ⟨done', hsame, hbytes', -⟩ := hmove.wire hR hbytes
    rw [← hsame] at hall hp
    exact ⟨hsteady, hJ.leave (List.sublist_append_right _ _) hall, fun _ =>
      ⟨done', hbytes', hall, p, hp, hfirst⟩⟩
  | push p hp =>
    refine hl.push fun ps hps => hP p hp ps [] ?_
    rwa [List.append_nil]
  | @insert head next p hp hqueue =>
    have hadd : ∀ done, J (done ++ l.queue) → J (done ++ head :: p :: next) := by
      intro done hall
      rw [hqueue, List.append_cons] at hall
      rw [List.append_cons]
      exact hP p hp _ next hall
    refine ⟨hsteady, hadd [] hl.waiting, fun hopen => (hl.carries hopen).of_queue rfl ?_ hadd ?_⟩
    · rw [Sender.half_of_cons hqueue]
      rfl
    · intro q hq
      rw [hqueue] at hq
      exact ⟨q, hq, id⟩
  | @release head next hqueue hid =>
    have hrelease : ∀ done, J (done ++ l.queue) → J (done ++ head.release :: next) := by
      intro done hall
      rw [hqueue] at hall
      exact hJ.release hall
    refine ⟨hsteady, hrelease [] hl.waiting,
      fun hopen => (hl.carries hopen).of_queue rfl ?_ hrelease ?_⟩
    · rw [Sender.half_of_cons hqueue]
      rfl
    · intro q hq
      rw [hqueue] at hq
      obtain rfl : head = q := Option.some.inj hq
      exact ⟨head.release, rfl, fun hfirst => hfirst.release⟩
  | pong => exact ⟨hsteady, hl.waiting, hl.carries⟩
  | drop hopen => exact ⟨hsteady, hJ.dropped l.sent hl.waiting, fun hclosed => by cases hclosed⟩

theorem framed_of_changes (hJ : Upheld J) (hR : ∀ r, R r → r.Honest)
    (h : ReflTransGen (Change now R P A) l l') (hP : ∀ p, P p → Welcome J p)
    (hl : l.Framed J first) : l'.Framed J first := by
  induction h with
  | refl => exact hl
  | tail _ hlast ih => exact hlast.framed hJ hR hP ih

/-- Something has been sent, and the head has not been sent in part. -/
def Whole (l : Line) : Prop :=
  l.wire ≠ [] ∧ ∀ head ∈ l.queue.head?, l.sent = 0 ∨ l.sent = head.size

/-- **The queue can be thrown away**, if the head has not been sent in part. -/
theorem Carries.clear (hJ : Upheld J) (h : l.Carries J first) (hsane : l.toSender.Sane)
    (hwhole : l.Whole) (hwire : l'.wire = l.wire) (hqueue : l'.queue = []) (hsent : l'.sent = 0) :
    l'.Carries J first := by
  obtain ⟨done, hbytes, hall, p, hp, hfirst⟩ := h
  obtain ⟨hsome, hwhole⟩ := hwhole
  have hhalf' : l'.half = [] := Sender.half_of_sent_eq_zero hsent
  rw [Carries, hwire, hhalf', hqueue]
  simp only [List.append_nil]
  rcases Sender.half_cases hsane with hnone | ⟨head, next, hq, hhead⟩
  · rw [hnone, List.append_nil] at hbytes
    refine ⟨done, hbytes, hJ.leave (List.sublist_append_left _ _) hall, ?_⟩
    cases done with
    | nil => exact absurd hbytes hsome
    | cons d done => exact ⟨p, hp, hfirst⟩
  · rcases hwhole head (by rw [hq]; rfl) with h0 | hsize
    · have hnone : l.half = [] := Sender.half_of_sent_eq_zero h0
      rw [hnone, List.append_nil] at hbytes
      refine ⟨done, hbytes, hJ.leave (List.sublist_append_left _ _) hall, ?_⟩
      cases done with
      | nil => exact absurd hbytes hsome
      | cons d done => exact ⟨p, hp, hfirst⟩
    · have hdata : l.half = head.data := by
        rw [Sender.half_of_cons hq, hsize]
        exact List.take_length
      rw [hq, List.append_cons] at hall hp
      refine ⟨done ++ [head], ?_, hJ.leave (List.sublist_append_left _ _) hall, p, ?_, hfirst⟩
      · rw [hbytes, hdata, List.flatMap_append, List.flatMap_singleton]
      · cases done with
        | nil => exact hp
        | cons d done => exact hp

/-- The frames of some packets. -/
theorem exists_frames {ps : List OutPacket} (h : ∀ p ∈ ps, ∃ f, p.IsFrame f) :
    ∃ fs, List.Forall₂ OutPacket.IsFrame ps fs ∧
      ps.flatMap OutPacket.data = fs.flatMap Frame.bytes := by
  induction ps with
  | nil => exact ⟨[], .nil, rfl⟩
  | cons p ps ih =>
    obtain ⟨⟨f, hf⟩, hps⟩ := List.forall_mem_cons.mp h
    obtain ⟨fs, hfs, hbytes⟩ := ih hps
    refine ⟨f :: fs, .cons hf hfs, ?_⟩
    rw [List.flatMap_cons, List.flatMap_cons, hbytes, hf]

/-- **What a server gets out of the bytes**: packets of which `J` holds, the first one first,
and what there is of the head. -/
theorem Framed.receive (hJ : Upheld J) (h : l.Framed J first) (hopen : l.tcp = .opened) :
    ∃ packets frames rest, framing.receive l.wire = (frames, rest) ∧ J packets ∧
      List.Forall₂ OutPacket.IsFrame packets frames ∧ (∀ f ∈ frames.head?, f = first) ∧
        (rest ≠ [] → rest = l.half) := by
  obtain ⟨done, hbytes, hall, p, hp, hfirst⟩ := h.carries hopen
  have hnil : framing.dec [] = none := rfl
  -- what is first of all is the first frame, if there is one
  have hhead : ∀ {packets frames}, packets <+: done ++ l.queue →
      List.Forall₂ OutPacket.IsFrame packets frames → ∀ f ∈ frames.head?, f = first := by
    rintro packets frames ⟨behind, hbeginning⟩ (_ | ⟨hframe, _⟩) f hf
    · cases hf
    · rw [← hbeginning] at hp
      obtain rfl := Option.some.inj hp
      obtain rfl := Option.some.inj hf
      exact hframe.unique hfirst
  obtain ⟨fs, hfs, hflat⟩ := exists_frames fun q hq =>
    hJ.readable hall q (List.mem_append_left _ hq)
  have hdone : done <+: done ++ l.queue := List.prefix_append _ _
  have hleave : J done := hJ.leave hdone.sublist hall
  rcases Sender.half_cases h.steady.sane with
    hnone | ⟨head, next, hq, hwhole | ⟨more, hmore, hpart⟩⟩
  · refine ⟨done, fs, [], ?_, hleave, hfs, hhead hdone hfs, fun h => absurd rfl h⟩
    rw [hbytes, hnone, List.append_nil, hflat]
    exact Framing.receive_flatMap (F := framing) fs hnil
  · have hbeginning : done ++ [head] <+: done ++ l.queue := by
      refine ⟨next, ?_⟩
      rw [hq, List.append_assoc]
      rfl
    obtain ⟨fs', hfs', hflat'⟩ := exists_frames fun q hq =>
      hJ.readable hall q (hbeginning.subset hq)
    refine ⟨done ++ [head], fs', [], ?_, hJ.leave hbeginning.sublist hall, hfs',
      hhead hbeginning hfs', fun h => absurd rfl h⟩
    rw [hbytes, hwhole, ← List.flatMap_singleton OutPacket.data head, ← List.flatMap_append,
      hflat']
    exact Framing.receive_flatMap (F := framing) fs' hnil
  · obtain ⟨f, hf⟩ := hJ.readable h.waiting head (hq ▸ List.mem_cons_self)
    refine ⟨done, fs, l.half, ?_, hleave, hfs, hhead hdone hfs, fun _ => rfl⟩
    rw [hbytes, hflat]
    exact Framing.receive_append (F := framing) fs (hf.symm.trans hpart) hmore

end Line

namespace Client

variable {cfg : Settings} {t₀ : ℕ} {c c' : Client} {a : Act} {as : List Act}
  {Q : ClientPacket → Prop} {J : List OutPacket → Prop}

/-- What the firmware passes can be sent. -/
def Act.Valid : Act → Prop
  | .publish m _ => m.Valid
  | .subscribe topic qos => Sendable topic ∧ qos ≤ 2
  | .unsubscribe topic => Sendable topic
  | _ => True

/-- The step throws the queue away: the server has no session, or the firmware says so. -/
def Forgets (c : Client) : Act → Prop
  | .parse => ∃ connectReturnCode, c.events = [.connAck false connectReturnCode]
  | .clearQueue => c.state = .disconnected
  | _ => False

/-- On an open connection, the queue is thrown away only if something has been sent, and the
head has not been sent in part. -/
def Timely (c : Client) (a : Act) : Prop := c.tcp = .opened → c.Forgets a → c.line.Whole

/-- A CONNACK without a session is all that a pass tells. -/
theorem forgets_parse_iff (es : List Event) :
    (∃ connectReturnCode, es = [.connAck false connectReturnCode]) ↔
      (es.map fun | .connAck false _ => true | _ => false) = [true] := by
  constructor
  · rintro ⟨connectReturnCode, rfl⟩
    rfl
  · intro h
    obtain ⟨e, rfl, he⟩ := List.map_eq_singleton_iff.mp h
    split at he
    · exact ⟨_, rfl⟩
    · cases he

instance (c : Client) : ∀ a, Decidable (c.Forgets a)
  | .parse => decidable_of_iff _ (forgets_parse_iff c.events).symm
  | .clearQueue => inferInstanceAs (Decidable (c.state = .disconnected))
  | .tick _ | .room _ | .tcpConnected _ | .tcpClosed | .ack | .data _ | .poll | .connect
  | .disconnect _ | .publish .. | .subscribe .. | .unsubscribe _ =>
    inferInstanceAs (Decidable False)

instance (c : Client) (a : Act) : Decidable (c.Timely a) :=
  inferInstanceAs (Decidable (_ → _ → _ ≠ [] ∧ ∀ head ∈ c.queue.head?, _ ∨ _))

/-- **What a step can want the server to read**: who the client is, the acknowledgement that is
owed for what the pass has told, a ping that is due, or what the firmware asks for, if the
client accepts it. -/
def Means (cfg : Settings) (c : Client) : Act → ClientPacket → Prop
  | .tcpConnected _, .connect r =>
    r = ⟨cfg.cleanSession, cfg.keepAlive, cfg.clientId, cfg.will.map Will.message, cfg.username,
      cfg.password⟩
  | .parse, .ack packetType packetId =>
    ∃ e ∈ c.events, ∃ a : Ack, e.answer = some (a, packetId) ∧ packetType = a.packetType
  | .poll, .pingReq => PingDue cfg c
  | .disconnect force, .disconnect => force = false
  | .publish m freeMemory, .publish r =>
    Accepts c.state freeMemory ∧ r.plain = m.publication (c.publishId m)
  | .subscribe topic qos, .subscribe packetId topic' qos' =>
    c.state = .connected ∧ packetId = getNextPacketId c.nextPacketId ∧ topic' = topic ∧ qos' = qos
  | .unsubscribe topic, .unsubscribe packetId topic' =>
    c.state = .connected ∧ packetId = getNextPacketId c.nextPacketId ∧ topic' = topic
  | _, _ => False

/-- The packets that a step can put into the queue, the CONNECT among them. -/
def Puts (cfg : Settings) (c : Client) (a : Act) (p : OutPacket) : Prop :=
  c.Brings cfg a p ∨ (∃ rooms, a = .tcpConnected rooms) ∧ p = connectOutPacket cfg

/-- What a step puts into the queue says what the step means. -/
theorem Puts.legal {p : OutPacket} (h : c.Puts cfg a p) (hcfg : cfg.Valid) (ha : a.Valid) :
    p.Legal (c.Means cfg a) := by
  rcases h with h | ⟨⟨rooms, rfl⟩, rfl⟩
  · cases a with
    | parse =>
      obtain ⟨e, he, a, packetId, hanswer, rfl⟩ := h
      exact ⟨_, a.isFrame_pubAckOutPacket packetId, _, a.read_frame packetId, e, he, a, hanswer,
        rfl⟩
    | poll =>
      obtain ⟨hdue, rfl⟩ := h
      exact ⟨_, isFrame_pingReqOutPacket, .pingReq, Frame.read_of_ne (by decide) _ _, hdue⟩
    | disconnect force =>
      obtain ⟨hforce, rfl⟩ := h
      exact ⟨_, isFrame_disconnOutPacket, .disconnect, Frame.read_of_ne (by decide) _ _, hforce⟩
    | publish m freeMemory =>
      obtain ⟨hacc, rfl⟩ := h
      have hread := Message.read_frame ha (publishId_ne_zero m c) false
      exact ⟨_, Message.isFrame_publishOutPacket ha (c.publishId m), _, hread, hacc, rfl⟩
    | subscribe topic qos =>
      obtain ⟨hstate, rfl⟩ := h
      exact ⟨_, isFrame_subscribeOutPacket ha.1 qos _, _,
        read_subscribeFrame ha.1 ha.2 (getNextPacketId_ne_zero _), hstate, rfl, rfl, rfl⟩
    | unsubscribe topic =>
      obtain ⟨hstate, rfl⟩ := h
      exact ⟨_, isFrame_unsubscribeOutPacket ha _, _,
        read_unsubscribeFrame ha (getNextPacketId_ne_zero _), hstate, rfl, rfl⟩
    | _ => exact h.elim
  · exact ⟨_, Settings.isFrame_connectOutPacket hcfg, _, Settings.read_frame hcfg, rfl⟩

/-- What is peculiar to a step keeps the bytes in order. -/
theorem framed_prepare (hJ : Upheld J) (hcfg : cfg.Valid) (h : step cfg c a = some c')
    (hwelcome : ∀ p, c.Puts cfg a p → Welcome J p) (hl : c.line.Framed J (cfg.frame hcfg))
    (htimely : c.Timely a) : (prepare cfg c a).Framed J (cfg.frame hcfg) := by
  have hsteady := steady_prepare h hl.steady
  -- the queue is thrown away
  have hclear : ∀ {l : Line}, l.Steady → l.queue = [] → l.sent = 0 → l.wire = c.wire →
      l.tcp = c.tcp → c.Forgets a → l.Framed J (cfg.frame hcfg) := by
    intro l hsteady hqueue hsent hwire htcp hforgets
    refine ⟨hsteady, ?_, fun hopen => ?_⟩
    · rw [hqueue]
      exact hJ.leave (List.nil_sublist _) hl.waiting
    · have hopen' : c.tcp = .opened := htcp.symm.trans hopen
      exact (hl.carries hopen').clear hJ hl.steady.sane (htimely hopen' hforgets) hwire hqueue
        hsent
  cases a with
  | tcpConnected rooms =>
    have htcp := tcp_of_tcpConnected h
    have hsent : c.sent = 0 := hl.steady.fresh fun hopen => by
      have hopen : c.tcp = .opened := hopen
      rw [htcp] at hopen
      cases hopen
    have hall : J (connectOutPacket cfg :: c.queue) :=
      hwelcome _ (Or.inr ⟨⟨rooms, rfl⟩, rfl⟩) [] c.queue hl.waiting
    refine ⟨hsteady, hall, fun _ => ⟨[], ?_, hall, ?_⟩⟩
    · have hprepared : (prepare cfg c (.tcpConnected rooms)).sent = 0 := hsent
      exact (Sender.half_of_sent_eq_zero hprepared).symm
    · exact ⟨connectOutPacket cfg, rfl, Settings.isFrame_connectOutPacket hcfg⟩
  | tcpClosed => exact ⟨hsteady, hJ.dropped c.sent hl.waiting, fun hclosed => by cases hclosed⟩
  | parse =>
    rcases prepare_parse cfg c with ⟨sessionPresent, connectReturnCode, hevents, h⟩ | ⟨-, h⟩ |
      ⟨-, -, h⟩
    · rw [h] at hsteady ⊢
      cases sessionPresent with
      | false => exact hclear hsteady rfl rfl rfl rfl ⟨connectReturnCode, hevents⟩
      | true => exact ⟨hsteady, hl.waiting, hl.carries⟩
    · rw [h] at hsteady ⊢
      exact ⟨hsteady, hl.waiting, hl.carries⟩
    · rwa [h]
  | poll =>
    rw [prepare_poll] at hsteady ⊢
    split
    · exact ⟨⟨hl.steady.sane, hl.steady.fresh⟩, hl.waiting, hl.carries⟩
    · split
      · exact ⟨⟨hl.steady.sane, hl.steady.fresh⟩, hl.waiting, hl.carries⟩
      · exact hl
  | connect =>
    refine ⟨hsteady, ?_, ?_⟩
    · rw [prepare, connect]
      split <;> exact hl.waiting
    · rw [prepare, connect]
      split
      · exact hl.carries
      · intro hopen
        refine hl.carries ?_
        by_contra hclosed
        have hopen : (if c.tcp = .closed then Tcp.connecting else c.tcp) = .opened := hopen
        split at hopen
        · cases hopen
        · exact hclosed hopen
  | disconnect force =>
    rw [prepare_disconnect] at hsteady ⊢
    split
    · exact ⟨⟨hl.steady.sane, hl.steady.fresh⟩, hl.waiting, hl.carries⟩
    · split
      · exact hl
      · exact ⟨⟨hl.steady.sane, hl.steady.fresh⟩, hl.waiting, hl.carries⟩
  | clearQueue =>
    rw [prepare, clearQueue] at hsteady ⊢
    split
    · exact hl
    · rename_i hstate
      rw [if_neg hstate] at hsteady
      exact hclear hsteady rfl rfl rfl rfl (not_not.mp hstate)
  | _ => exact hl

/-- A client that has just been switched on. -/
theorem framed_init (cfg : Settings) (t₀ : ℕ) (first : Frame) (hnil : J []) :
    (init cfg t₀).Roomed Room.Honest ∧ (init cfg t₀).line.Framed J first :=
  ⟨roomed_of_nil rfl, Line.steady_of_sent_eq_zero rfl, hnil, nofun⟩

/-- A step keeps the bytes in order, if what it puts into the queue can be anywhere. -/
theorem framed_step (hJ : Upheld J) (hcfg : cfg.Valid) (h : step cfg c a = some c')
    (hwelcome : ∀ p, c.Puts cfg a p → Welcome J p) (hhonest : a.Offers Room.Honest)
    (htimely : c.Timely a) (hc : c.Roomed Room.Honest ∧ c.line.Framed J (cfg.frame hcfg)) :
    c'.Roomed Room.Honest ∧ c'.line.Framed J (cfg.frame hcfg) :=
  step_inv hc.1 hhonest h (framed_prepare hJ hcfg h hwelcome hc.2 htimely) fun _ _ hl hchange =>
    hchange.framed hJ (fun _ hr => hr) (fun p hp => hwelcome p (Or.inl hp)) hl

/-- What a step puts into the queue says what it should, if the step means it. -/
theorem welcome_of_means (hcfg : cfg.Valid) (hvalid : a.Valid)
    (hmeans : ∀ r, c.Means cfg a r → Q r) (p : OutPacket) (hp : c.Puts cfg a p) :
    Welcome (fun ps => ∀ p ∈ ps, p.Legal Q) p := by
  obtain ⟨f, hf, r, hread, hr⟩ := hp.legal hcfg hvalid
  exact welcome_legal ⟨f, hf, r, hread, hmeans r hr⟩

/-- Whether a message is sent for the first time does not matter to what a step means. -/
theorem means_dup {r : Publication} (h : c.Means cfg a (.publish r)) :
    c.Means cfg a (.publish { r with dup := true }) := by
  cases a <;> exact h

/-- Some step of the run meant this. -/
def Meant (cfg : Settings) (c : Client) (as : List Act) (r : ClientPacket) : Prop :=
  Sometime (step cfg) (fun c a _ => c.Means cfg a r) c as

/-- What a step means, some step of the run has meant. -/
theorem along_meant (cfg : Settings) (c : Client) (as : List Act) :
    Along (step cfg) (fun d a _ => ∀ r, d.Means cfg a r → c.Meant cfg as r) c as :=
  along_sometime (fun r d a _ => d.Means cfg a r) c as

theorem lenient_meant (cfg : Settings) (c : Client) (as : List Act) : Lenient (c.Meant cfg as) :=
  fun _ h => h.imp fun _ _ _ => means_dup

/-- **What a server gets out of the bytes of a connection**, in every run in which the firmware
passes what can be sent, the TCP library takes what it has said that it has room for, and the
queue is thrown away only when something has been sent and nothing of its head in part: a
CONNECT with the settings, then packets that say what a step of the run meant, and then a part
of the packet that is being sent. -/
theorem server_reads (hcfg : cfg.Valid) (hrun : exec (step cfg) (init cfg t₀) as = some c)
    (hargs : ∀ a ∈ as, a.Valid) (hhonest : ∀ a ∈ as, a.Offers Room.Honest)
    (htimely : Along (step cfg) (fun c a _ => c.Timely a) (init cfg t₀) as)
    (hopen : c.tcp = .opened) :
    ∃ frames rest, framing.receive c.wire = (frames, rest) ∧
      (∀ f ∈ frames, ∃ r, f.read = some r ∧ (init cfg t₀).Meant cfg as r) ∧
      (∀ f ∈ frames.head?, f = cfg.frame hcfg) ∧ (rest ≠ [] → rest = c.toSender.half) := by
  have hlenient := lenient_meant cfg (init cfg t₀) as
  have hframed := exec_inv_of_along
    (I := fun c : Client => c.Roomed Room.Honest ∧ c.line.Framed
      (fun ps => ∀ p ∈ ps, p.Legal ((init cfg t₀).Meant cfg as)) (cfg.frame hcfg))
    (fun c a c' hc hs ⟨⟨⟨hvalid, hhonest⟩, htimely⟩, hmeant⟩ =>
      framed_step (upheld_legal hlenient) hcfg hs (welcome_of_means hcfg hvalid hmeant) hhonest
        htimely hc)
    (framed_init cfg t₀ _ fun p hp => absurd hp List.not_mem_nil)
    ((((along_of_forall_mem hargs _).and (along_of_forall_mem hhonest _)).and htimely).and
      (along_meant cfg (init cfg t₀) as)) hrun
  obtain ⟨packets, frames, rest, hreceive, hlegal, hall, hfirst, hrest⟩ :=
    hframed.2.receive (upheld_legal hlenient) hopen
  exact ⟨frames, rest, hreceive, Frame.says_of_legal hall hlegal, hfirst, hrest⟩

theorem plainSettings_valid : plainSettings.Valid where
  clientId := ⟨by decide, by decide⟩
  username := fun u hu => by cases hu
  password := fun p hp => by cases hp
  will := fun w hw => by cases hw
  named := fun h => by cases h

/-- A message without a payload. -/
def shortMessage : Message := { topic := [116], qos := 1, retain := false }

theorem shortMessage_valid : shortMessage.Valid where
  topic := ⟨by decide, by decide⟩
  qos := Or.inr (Or.inl rfl)
  backed := Nat.zero_le _
  short := by decide

/-- A connection that the server accepts. -/
def acceptRun : List Act :=
  [.connect, .tcpConnected [.of 100], .data [0x20, 2, 1, 0], .parse, .parse, .parse, .parse]

/-- The server has accepted the client, and the firmware has nothing to say. -/
def acceptedClient : Client :=
  (exec (step plainSettings) (init plainSettings 0) acceptRun).get rfl

/-- The connection is accepted, and a message is published that there is no room for yet. -/
def publishRun : List Act := acceptRun ++ [.publish shortMessage 8192]

/-- The message is sent, in two parts, and acknowledged, and so is one that the server sends. -/
def exchangeRun : List Act :=
  publishRun ++ [.room [⟨11, 12, 20⟩, .of 100], .ack, .data [0x40, 2, 0, 1], .parse, .parse,
    .parse, .parse, .room [.of 100, .of 100, .of 100], .ack, .data [0x32, 6, 0, 1, 116, 0, 9, 65],
    .parse, .parse, .parse, .parse, .parse, .parse, .parse, .parse]

theorem exchangeRun_valid : ∀ a ∈ exchangeRun, a.Valid := by
  simp [exchangeRun, publishRun, acceptRun, Act.Valid, shortMessage_valid]

set_option maxRecDepth 8192 in
theorem server_reads_exchange :
    ∃ c, exec (step plainSettings) (init plainSettings 0) exchangeRun = some c ∧
      ∃ frames rest, framing.receive c.wire = (frames, rest) ∧
        (∀ f ∈ frames, ∃ r, f.read = some r ∧
          (init plainSettings 0).Meant plainSettings exchangeRun r) ∧
        (∀ f ∈ frames.head?, f = plainSettings.frame plainSettings_valid) ∧
        (rest ≠ [] → rest = c.toSender.half) := by
  have hrun : exec (step plainSettings) (init plainSettings 0) exchangeRun = some _ := rfl
  exact ⟨_, hrun, server_reads plainSettings_valid hrun exchangeRun_valid (by decide)
    (by decide) rfl⟩

end Client

/-! ### What stays in the queue -/

namespace OutPacket

variable {p q : OutPacket}

@[simp] theorem setDup_packetType (p : OutPacket) : p.setDup.packetType = p.packetType := by
  obtain ⟨data, released, packetId, two_le⟩ := p
  match data, two_le with
  | b :: bs, _ => exact (Frame.dup_bits b).1

@[simp] theorem setDup_qos (p : OutPacket) : p.setDup.qos = p.qos := by
  rw [qos, qos, setDup_packetType]
  obtain ⟨_ | ⟨b, _ | ⟨b', bs⟩⟩, released, packetId, two_le⟩ := p
  · exact absurd two_le (show ¬2 ≤ 0 by decide)
  · exact absurd two_le (show ¬2 ≤ 1 by decide)
  · rfl

/-- A flag is set once. -/
theorem setDup_setDup (p : OutPacket) : p.setDup.setDup = p.setDup := by
  obtain ⟨data, released, packetId, two_le⟩ := p
  match data, two_le with
  | b :: bs, _ =>
    simp only [setDup, List.modifyHead_cons, UInt8.or_assoc, UInt8.or_self]

/-- What the queue keeps when the connection is gone. -/
def Kept (p : OutPacket) : Prop :=
  p.qos > 0 ∨ p.packetType = PacketType.PUBREC ∨ p.packetType = PacketType.PUBCOMP

theorem isSome_retain_iff (sent : ℕ) : (retain sent p).isSome ↔ p.Kept := by
  rw [retain, Kept]
  split
  · rename_i h
    exact iff_of_true rfl (Or.inl h.1)
  · split
    · rename_i h
      exact iff_of_true rfl h
    · rename_i h
      exact iff_of_false (by decide) h

theorem kept_setDup_iff : p.setDup.Kept ↔ p.Kept := by
  rw [Kept, Kept, setDup_qos, setDup_packetType]

/-- The packet is in the queue, as it was or with its flag set. -/
def In (p : OutPacket) (queue : List OutPacket) : Prop := p ∈ queue ∨ p.setDup ∈ queue

theorem In.mono {queue queue' : List OutPacket} (h : p.In queue) (hsub : ∀ q ∈ queue, q ∈ queue') :
    p.In queue' := h.imp (hsub p) (hsub p.setDup)

/-- **A packet that is kept is there when the connection is gone**, and one that is not
kept is not. -/
theorem in_filterMap_retain_iff {queue : List OutPacket} (h : p.In queue) (sent : ℕ) :
    p.In (queue.filterMap (retain sent)) ↔ p.Kept := by
  have hkept : ∀ {q r}, retain sent q = some r → r.Kept := by
    intro q r hr
    have hq : q.Kept := (isSome_retain_iff sent).mp (by rw [hr]; rfl)
    rcases eq_of_retain hr with rfl | rfl
    · exact hq
    · exact kept_setDup_iff.mpr hq
  constructor
  · rintro (hp | hp) <;> obtain ⟨q, -, hq⟩ := List.mem_filterMap.mp hp
    · exact hkept hq
    · exact kept_setDup_iff.mp (hkept hq)
  · intro hp
    have hstay : ∀ q, q.Kept → q ∈ queue → q.In (queue.filterMap (retain sent)) := by
      intro q hq hmem
      obtain ⟨r, hr⟩ := Option.isSome_iff_exists.mp ((isSome_retain_iff sent).mpr hq)
      rcases eq_of_retain hr with rfl | rfl
      · exact Or.inl (List.mem_filterMap.mpr ⟨_, hmem, hr⟩)
      · exact Or.inr (List.mem_filterMap.mpr ⟨_, hmem, hr⟩)
    rcases h with hmem | hmem
    · exact hstay p hp hmem
    · have hdup := hstay p.setDup (kept_setDup_iff.mpr hp) hmem
      rw [In, setDup_setDup, or_self] at hdup
      exact Or.inr hdup

end OutPacket

/-- A message is kept if its length is right. -/
theorem kept_publishOutPacket_iff (m : Message) (packetId : UInt16) :
    (publishOutPacket m packetId).Kept ↔ 2 ≤ m.remainingLength.toNat % 8 :=
  (OutPacket.isSome_retain_iff 0).symm.trans (isSome_retain_publish m packetId 0)

namespace Line

variable {now : UInt32} {R : Room → Prop} {P : OutPacket → Prop} {A : UInt16 → Prop} {l l' : Line}
  {p : OutPacket}

/-- **No change loses a packet that waits for its acknowledgement.** -/
theorem Change.keeps (h : Change now R P A l l') (hack : ¬A p.packetId) (hwait : p.released = false)
    (hkept : p.Kept) (hp : p.In l.queue) : p.In l'.queue := by
  cases h with
  | move hmove hopen =>
    cases hmove with
    | write room hqueue hsent hspace hroom => exact hp
    | @pop head next hqueue hsent hreleased =>
      -- the head is released, and `p` is not
      have hne : ∀ {q : OutPacket}, q.released = false → q ∈ l.queue → q ∈ next := by
        intro q hq hmem
        rw [hqueue] at hmem
        rcases List.mem_cons.mp hmem with rfl | hmem
        · rw [hq] at hreleased
          cases hreleased
        · exact hmem
      exact hp.imp (hne hwait) (hne hwait)
  | push q hq => exact hp.mono fun r hr => List.mem_append_left _ hr
  | @insert head next q hq hqueue =>
    refine hp.mono fun r hr => ?_
    rw [hqueue] at hr
    rcases List.mem_cons.mp hr with rfl | hr
    · exact List.mem_cons_self
    · exact List.mem_cons_of_mem _ (List.mem_cons_of_mem _ hr)
  | @release head next hqueue hid =>
    -- the head is acknowledged, and `p` is not
    have hne : ∀ {q : OutPacket}, q.packetId = p.packetId → q ∈ l.queue →
        q ∈ head.release :: next := by
      intro q hq hmem
      rw [hqueue] at hmem
      rcases List.mem_cons.mp hmem with rfl | hmem
      · exact absurd (hq ▸ hid) hack
      · exact List.mem_cons_of_mem _ hmem
    exact hp.imp (hne rfl) (hne rfl)
  | pong => exact hp
  | drop hopen => exact (OutPacket.in_filterMap_retain_iff hp l.sent).mpr hkept

end Line

namespace Client

variable {cfg : Settings} {t₀ : ℕ} {c c' : Client} {a : Act} {as : List Act} {p : OutPacket}

/-- What is peculiar to a step loses no packet, either. -/
theorem in_prepare (h : ¬c.Forgets a) (hkept : p.Kept) (hp : p.In c.queue) :
    p.In (prepare cfg c a).queue := by
  cases a with
  | tcpConnected rooms => exact hp.mono fun q hq => List.mem_cons_of_mem _ hq
  | tcpClosed => exact (OutPacket.in_filterMap_retain_iff hp c.sent).mpr hkept
  | parse =>
    rcases prepare_parse cfg c with ⟨sessionPresent, connectReturnCode, hevents, heq⟩ | ⟨-, heq⟩ |
      ⟨-, -, heq⟩
    · rw [heq]
      cases sessionPresent with
      | false => exact absurd ⟨connectReturnCode, hevents⟩ h
      | true => exact hp
    · rw [heq]
      exact hp
    · rwa [heq]
  | poll =>
    rw [prepare_poll]
    split
    · exact hp
    · split <;> exact hp
  | connect =>
    rw [prepare, connect]
    split <;> exact hp
  | disconnect force =>
    rw [prepare_disconnect]
    split
    · exact hp
    · split <;> exact hp
  | clearQueue =>
    rw [prepare, clearQueue]
    split
    · exact hp
    · rename_i hstate
      exact absurd (not_not.mp hstate) h
  | _ => exact hp

/-- **A message is not lost before it is acknowledged**: from any state the client gets into,
and through any number of connections, a message that waits in the queue for its
acknowledgement stays there, as long as no acknowledgement with its identifier comes and
the queue is not thrown away – provided that its length is right. -/
theorem unacknowledged_stays {bs : List Act} (hreach : exec (step cfg) (init cfg t₀) as = some c)
    {m : Message} {packetId : UInt16} (hqos : m.qos ≠ 0)
    (hlength : 2 ≤ m.remainingLength.toNat % 8) (hp : (publishOutPacket m packetId).In c.queue)
    (hrun : exec (step cfg) c bs = some c')
    (halong : Along (step cfg) (fun c b _ => ¬c.Acks b packetId ∧ ¬c.Forgets b) c bs) :
    (publishOutPacket m packetId).In c'.queue := by
  have hkept := (kept_publishOutPacket_iff m packetId).mpr hlength
  have hwait : (publishOutPacket m packetId).released = false := decide_eq_false hqos
  have hstay : c'.Roomed (fun _ => True) ∧ (publishOutPacket m packetId).In c'.line.queue := by
    refine exec_inv_of_along
      (I := fun c : Client => c.Roomed (fun _ => True) ∧
        (publishOutPacket m packetId).In c.line.queue)
      (fun c b c' hc hs hb => ?_) ⟨(steady_of_exec hreach).1, hp⟩ halong hrun
    exact step_inv (I := fun l => (publishOutPacket m packetId).In l.queue) hc.1 b.offers_true hs
      (in_prepare hb.2 hkept hc.2) fun l l' hl hchange => hchange.keeps hb.1 hwait hkept hl
  exact hstay.2

theorem unacknowledged_stays_short :
    ∃ c c', exec (step plainSettings) (init plainSettings 0) publishRun = some c ∧
      exec (step plainSettings) c [.tcpClosed] = some c' ∧
      (publishOutPacket shortMessage 1).In c'.queue := by
  have hrun : exec (step plainSettings) (init plainSettings 0) publishRun = some _ := rfl
  exact ⟨_, _, hrun, rfl, @unacknowledged_stays plainSettings 0 _ _ _ [.tcpClosed] hrun
    shortMessage 1 (by decide) (by decide) (Or.inl (by decide)) rfl
    ⟨⟨fun h => h, fun h => h⟩, trivial⟩⟩

/-- **What becomes of a message when the connection is lost**, whether this is the first
connection it is lost with or not, depends on its length, and on nothing else: it stays, or it
is gone. -/
theorem survives_iff {m : Message} {packetId : UInt16}
    (hp : (publishOutPacket m packetId).In c.queue) (h : step cfg c .tcpClosed = some c') :
    (publishOutPacket m packetId).In c'.queue ↔ 2 ≤ m.remainingLength.toNat % 8 := by
  cases step_cases h
  exact (OutPacket.in_filterMap_retain_iff hp c.sent).trans (kept_publishOutPacket_iff m packetId)

/-- The message is sent, and the connection is lost; on the next one it is sent again. -/
def againClient : Client :=
  (exec (step plainSettings) (init plainSettings 0) (publishRun ++ [.room [.of 100], .ack,
    .tcpClosed, .connect, .tcpConnected [.of 100, .of 100, .of 100]])).get rfl

theorem survives_iff_short : ∃ c', step plainSettings againClient .tcpClosed = some c' ∧
    ((publishOutPacket shortMessage 1).In c'.queue ↔
      2 ≤ shortMessage.remainingLength.toNat % 8) := by
  have hqueue : (publishOutPacket shortMessage 1).setDup ∈ againClient.queue := by decide
  have hstep : step plainSettings againClient .tcpClosed = some _ := rfl
  exact ⟨_, hstep, survives_iff (Or.inr hqueue) hstep⟩

end Client

end Mqtt

end SentinelEdge
