import SentinelEdge.Mqtt.Line

/-!
# The life of the client

What `src/net.cpp` sees of the client is its state and two callbacks, `onConnect` and
`onDisconnect`. This file says how the two go together: a client that is called back with
`onConnect` was connecting and is connected, one that is called back with `onDisconnect`
was not disconnected and is (`SentinelEdge.Mqtt.Life`), and a state without a connection goes
with a TCP connection that is closed (`SentinelEdge.Mqtt.Client.Alive`).

The source does not check what it takes for granted here: that an accepting CONNACK answers a
CONNECT, and that nothing comes in on a connection that is being established. In both cases
the bytes of a connection that has just been closed can break it, since `_onData` goes on
with what it has been given. So these are conditions on a step
(`SentinelEdge.Mqtt.Client.Orderly`).
-/

namespace SentinelEdge

namespace Mqtt

open LabelledRun

/-! ### States and callbacks -/

/-- The callback is about the connection. -/
def Callback.isConnection : Callback → Bool
  | .onConnect _ | .onDisconnect _ => true
  | _ => false

/-- **A stretch of the life of a client**: from one state to another, with the callbacks that
are called on the way. -/
inductive Life : ClientState → List Callback → ClientState → Prop where
  /-- Nothing happens. -/
  | here (x : ClientState) : Life x [] x
  /-- An attempt succeeds. -/
  | connected {x : ClientState} {calls : List Callback} (h : Life x calls .connecting)
      (sessionPresent : Bool) : Life x (calls ++ [.onConnect sessionPresent]) .connected
  /-- An attempt or a session comes to its end. -/
  | dropped {x y : ClientState} {calls : List Callback} (h : Life x calls y)
      (hy : y ≠ .disconnected) (reason : UInt8) :
      Life x (calls ++ [.onDisconnect reason]) .disconnected
  /-- The firmware is told of something else. -/
  | called {x y : ClientState} {calls : List Callback} (h : Life x calls y) {call : Callback}
      (hcall : call.isConnection = false) : Life x (calls ++ [call]) y

theorem Life.trans {x y z : ClientState} {calls calls' : List Callback} (h : Life x calls y)
    (h' : Life y calls' z) : Life x (calls ++ calls') z := by
  induction h' with
  | here => rwa [List.append_nil]
  | connected _ sessionPresent ih =>
    rw [← List.append_assoc]
    exact .connected ih sessionPresent
  | dropped _ hy reason ih =>
    rw [← List.append_assoc]
    exact .dropped ih hy reason
  | called _ hcall ih =>
    rw [← List.append_assoc]
    exact .called ih hcall

namespace Client

variable {cfg : Settings} {c c' : Client} {a : Act}

/-- The state says whether there is a TCP connection. -/
def Alive (c : Client) : Prop := c.state = .disconnected ↔ c.tcp = .closed

/-- What a client goes through between two states of it. -/
structure Lives (c c' : Client) : Prop where
  alive : c'.Alive
  clock : c'.clock = c.clock
  life : ∃ calls, c'.calls = c.calls ++ calls ∧ Life c.state calls c'.state

theorem Lives.refl (h : c.Alive) : Lives c c :=
  ⟨h, rfl, [], (List.append_nil _).symm, .here _⟩

theorem Lives.trans {c d e : Client} (h : Lives c d) (h' : Lives d e) : Lives c e := by
  obtain ⟨calls, hcalls, hlife⟩ := h.life
  obtain ⟨calls', hcalls', hlife'⟩ := h'.life
  refine ⟨h'.alive, h'.clock.trans h.clock, calls ++ calls', ?_, hlife.trans hlife'⟩
  rw [hcalls', hcalls, List.append_assoc]

/-- What does not concern the connection. -/
theorem lives_of_eq (h : c.Alive) (hstate : c'.state = c.state) (htcp : c'.tcp = c.tcp)
    (hclock : c'.clock = c.clock) (hcalls : c'.calls = c.calls) : Lives c c' where
  alive := by rwa [Alive, hstate, htcp]
  clock := hclock
  life := ⟨[], hcalls.trans (List.append_nil _).symm, hstate ▸ .here _⟩

/-- A callback that is not about the connection. -/
theorem lives_called (h : c.Alive) (call : Callback) (hcall : call.isConnection = false)
    (hstate : c'.state = c.state) (htcp : c'.tcp = c.tcp) (hclock : c'.clock = c.clock)
    (hcalls : c'.calls = c.calls ++ [call]) : Lives c c' where
  alive := by rwa [Alive, hstate, htcp]
  clock := hclock
  life := ⟨[call], hcalls, by rw [hstate]; exact .called (.here _) hcall⟩

/-! ### The connection comes to its end -/

theorem state_ne_of_tcp_ne (h : c.Alive) (htcp : c.tcp ≠ .closed) : c.state ≠ .disconnected :=
  fun hstate => htcp (h.mp hstate)

/-- `_onDisconnect` is called, on a connection that is not there any more. -/
theorem onDisconnect_lives (h : c.Alive) (htcp : c.tcp ≠ .closed) :
    Lives c { c with tcp := .closed, room := [] }.onDisconnect where
  alive := iff_of_true rfl rfl
  clock := rfl
  life := ⟨[.onDisconnect c.disconnectReason], rfl,
    .dropped (.here _) (state_ne_of_tcp_ne h htcp) c.disconnectReason⟩

theorem close_lives (h : c.Alive) : Lives c c.close := by
  rw [close]
  split
  · rename_i hopen
    exact onDisconnect_lives h (by rw [hopen]; decide)
  · exact .refl h

/-- A forced `disconnect`, unless the connection is only being established. -/
theorem disconnect_true_lives (h : c.Alive) (htcp : c.tcp ≠ .connecting) :
    Lives c (c.disconnect true) := by
  rw [disconnect]
  split
  · exact .refl h
  · rename_i hstate
    have hopen : c.tcp = .opened := by
      cases ht : c.tcp with
      | closed => exact absurd (h.mpr ht) hstate
      | connecting => exact absurd ht htcp
      | opened => rfl
    have hclose : Client.close { c with state := .disconnected } =
        onDisconnect { c with state := .disconnected, tcp := .closed, room := [] } := if_pos hopen
    rw [if_pos rfl, hclose]
    exact ⟨iff_of_true rfl rfl, rfl, [.onDisconnect c.disconnectReason], rfl,
      .dropped (.here _) hstate c.disconnectReason⟩

/-! ### The queue -/

theorem handleQueue_lives (h : c.Alive) : Lives c c.handleQueue := by
  rw [handleQueue]
  generalize handleQueueLoop c.millis c.room c.toSender false = r
  have hloop : Lives c { c with toSender := r.1, room := r.2.1 } := lives_of_eq h rfl rfl rfl rfl
  simp only
  split
  · exact hloop.trans (close_lives hloop.alive)
  · exact hloop

/-- Work on the queue of a client that differs in what does not concern the connection. -/
theorem handleQueue_lives_of_eq {d : Client} (h : c.Alive) (hstate : d.state = c.state)
    (htcp : d.tcp = c.tcp) (hclock : d.clock = c.clock) (hcalls : d.calls = c.calls) :
    Lives c d.handleQueue := by
  have heq := lives_of_eq h hstate htcp hclock hcalls
  exact heq.trans (handleQueue_lives heq.alive)

theorem addBack_lives (h : c.Alive) (p : OutPacket) : Lives c (c.addBack p) :=
  handleQueue_lives_of_eq h rfl rfl rfl rfl

/-- A packet that has drawn an identifier, and is asked for it. -/
theorem drawn_lives (h : c.Alive) (p : OutPacket) (packetId : UInt16) :
    Lives c ({ c with nextPacketId := packetId }.addBackId p).2 := by
  have hadd : Lives c ({ c with nextPacketId := packetId }.addBack p) :=
    handleQueue_lives_of_eq h rfl rfl rfl rfl
  rw [addBackId]
  simp only
  split
  · exact hadd.trans (lives_of_eq hadd.alive rfl rfl rfl rfl)
  · exact hadd

theorem insert_lives (h : c.Alive) (p : OutPacket) : Lives c (c.insert p) := by
  rw [insert]
  split
  · exact lives_of_eq h rfl rfl rfl rfl
  · exact handleQueue_lives_of_eq h rfl rfl rfl rfl

theorem releaseHead_lives (h : c.Alive) (packetId : UInt16) : Lives c (c.releaseHead packetId) := by
  rw [releaseHead]
  split
  · exact .refl h
  · split
    · exact lives_of_eq h rfl rfl rfl rfl
    · exact .refl h

/-! ### The handlers -/

/-- The client takes this for granted when it is told of an event. -/
def Fits (c : Client) : Event → Prop
  | .connAck _ connectReturnCode => connectReturnCode = 0 → c.state = .connecting
  | .violation => c.tcp ≠ .connecting
  | _ => True

instance (c : Client) : ∀ e : Event, Decidable (c.Fits e)
  | .connAck _ connectReturnCode =>
    inferInstanceAs (Decidable (connectReturnCode = 0 → c.state = .connecting))
  | .violation => inferInstanceAs (Decidable (c.tcp ≠ .connecting))
  | .pingResp | .ack .. | .unsubAck _ | .subAck .. | .message _ | .publish .. =>
    inferInstanceAs (Decidable True)

theorem fits_of_plain {e : Event} (h : e.Plain) : c.Fits e := by
  cases e with
  | connAck sessionPresent connectReturnCode => exact h.elim
  | violation => exact h.elim
  | _ => trivial

theorem onConnAck_lives (h : c.Alive) {sessionPresent : Bool} {connectReturnCode : UInt8}
    (hfits : connectReturnCode = 0 → c.state = .connecting) :
    Lives c (c.onConnAck sessionPresent connectReturnCode) := by
  rw [onConnAck]
  have hforget : Lives c (if !sessionPresent then
      { c with pendingPubRels := [], toSender := c.toSender.clearQueue false } else c) ∧
      (if !sessionPresent then
        { c with pendingPubRels := [], toSender := c.toSender.clearQueue false } else c).state =
          c.state := by
    split
    · exact ⟨lives_of_eq h rfl rfl rfl rfl, rfl⟩
    · exact ⟨.refl h, rfl⟩
  generalize (if !sessionPresent then
    { c with pendingPubRels := [], toSender := c.toSender.clearQueue false } else c) = d at hforget
  obtain ⟨hlives, hstate⟩ := hforget
  split
  · rename_i hcode
    have hconnecting : d.state = .connecting := hstate.trans (hfits hcode)
    have htcp : d.tcp ≠ .closed := fun hclosed => by
      have hdisconnected := hlives.alive.mpr hclosed
      rw [hconnecting] at hdisconnected
      cases hdisconnected
    have hup : Lives d { d with
        state := .connected, calls := d.calls ++ [.onConnect sessionPresent] } := by
      refine ⟨iff_of_false (fun h => by cases h) htcp, rfl, [.onConnect sessionPresent], rfl, ?_⟩
      rw [hconnecting]
      exact .connected (.here _) sessionPresent
    exact (hlives.trans hup).trans (handleQueue_lives hup.alive)
  · exact hlives.trans (lives_of_eq hlives.alive rfl rfl rfl rfl)

/-- **A handler**, of an event that fits. -/
theorem dispatch_lives (h : c.Alive) {e : Event} (hfits : c.Fits e) : Lives c (c.dispatch e) := by
  cases e with
  | connAck sessionPresent connectReturnCode => exact onConnAck_lives h hfits
  | violation => exact disconnect_true_lives h hfits
  | pingResp => exact lives_of_eq h rfl rfl rfl rfl
  | ack a packetId =>
    have hrelease := releaseHead_lives h packetId
    cases a with
    | pubAck =>
      exact hrelease.trans
        (lives_called hrelease.alive (.onPublish packetId) rfl rfl rfl rfl rfl)
    | pubRec => exact hrelease.trans (insert_lives hrelease.alive _)
    | pubRel =>
      show Lives c (c.onPubRel packetId)
      rw [onPubRel]
      split
      · have hinsert := hrelease.trans (insert_lives hrelease.alive
          (pubAckOutPacket (Ack.pubComp.pending packetId)))
        exact hinsert.trans (lives_of_eq hinsert.alive rfl rfl rfl rfl)
      · exact lives_of_eq h rfl rfl rfl rfl
    | pubComp =>
      exact hrelease.trans
        (lives_called hrelease.alive (.onPublish packetId) rfl rfl rfl rfl rfl)
  | unsubAck packetId =>
    have hrelease := releaseHead_lives h packetId
    have hcall : Lives (c.releaseHead packetId) { c.releaseHead packetId with
        calls := (c.releaseHead packetId).calls ++ [.onUnsubscribe packetId] } :=
      lives_called hrelease.alive _ rfl rfl rfl rfl rfl
    exact (hrelease.trans hcall).trans (handleQueue_lives hcall.alive)
  | subAck packetId status =>
    have hrelease := releaseHead_lives h packetId
    have hcall : Lives (c.releaseHead packetId) { c.releaseHead packetId with
        calls := (c.releaseHead packetId).calls ++ [.onSubscribe packetId status] } :=
      lives_called hrelease.alive _ rfl rfl rfl rfl rfl
    exact (hrelease.trans hcall).trans (handleQueue_lives hcall.alive)
  | message m =>
    show Lives c (c.onMessage m)
    rw [onMessage]
    split
    · exact lives_called h _ rfl rfl rfl rfl rfl
    · exact .refl h
  | publish packetId qos =>
    show Lives c (c.onPublish packetId qos)
    rw [onPublish]
    split
    · exact addBack_lives h _
    · split
      · have hadd := addBack_lives h (pubAckOutPacket (Ack.pubRec.pending packetId))
        refine hadd.trans ?_
        generalize c.addBack (pubAckOutPacket (Ack.pubRec.pending packetId)) = d at hadd
        show Lives d (if _ then _ else _)
        split
        · exact .refl hadd.alive
        · exact lives_of_eq hadd.alive rfl rfl rfl rfl
      · exact .refl h

theorem foldl_dispatch_lives {es : List Event} (hes : ∀ e ∈ es, e.Plain) (h : c.Alive) :
    Lives c (es.foldl dispatch c) := by
  induction es generalizing c with
  | nil => exact .refl h
  | cons e es ih =>
    obtain ⟨he, hes⟩ := List.forall_mem_cons.mp hes
    have hone := dispatch_lives h (fits_of_plain he)
    exact hone.trans (ih hes hone.alive)

/-! ### A step -/

/-- The client may take for granted what it does in this step. -/
def Orderly (c : Client) : Act → Prop
  | .parse => ∀ e ∈ c.events, c.Fits e
  | _ => True

instance (c : Client) : ∀ a : Act, Decidable (c.Orderly a)
  | .parse => inferInstanceAs (Decidable (∀ e ∈ c.events, c.Fits e))
  | .tick _ | .room _ | .tcpConnected _ | .tcpClosed | .ack | .data _ | .poll | .connect
  | .disconnect _ | .publish .. | .subscribe .. | .unsubscribe _ | .clearQueue =>
    inferInstanceAs (Decidable True)

/-- A step that is neither time passing nor the firmware opening or closing the connection. -/
def Act.Ordinary : Act → Prop
  | .tick _ | .connect | .disconnect _ => False
  | _ => True

theorem parse_lives {b : UInt8} {rest : List UInt8} (hinbox : c.inbox = b :: rest) (h : c.Alive)
    (horderly : c.Orderly .parse) : Lives c (c.parse b rest) := by
  have horderly : ∀ e ∈ c.events, c.Fits e := horderly
  rw [events, hinbox] at horderly
  rw [parse]
  cases hstep : c.parser.step b rest with
  | error f => exact lives_of_eq h rfl rfl rfl rfl
  | ok r =>
    simp only [hstep] at horderly
    have hread : Lives c { c with parser := r.1, inbox := r.2.2 } := lives_of_eq h rfl rfl rfl rfl
    rcases Parser.told_step hstep with hmessage | ⟨e, he⟩
    · exact hread.trans
        (foldl_dispatch_lives (fun e he => (hmessage e he).plain) hread.alive)
    · have hfits : c.Fits e := horderly e (by rw [he]; exact List.mem_singleton_self e)
      simp only
      rw [he]
      refine hread.trans (dispatch_lives hread.alive ?_)
      cases e <;> exact hfits

/-- **A step of the client** is a stretch of its life. -/
theorem step_lives (h : step cfg c a = some c') (ha : a.Ordinary) (halive : c.Alive)
    (horderly : c.Orderly a) : Lives c c' := by
  cases step_cases h with
  | tick ms => exact ha.elim
  | connect => exact ha.elim
  | disconnect force hforce => exact ha.elim
  | room rooms hopen => exact lives_of_eq halive rfl rfl rfl rfl
  | tcpConnected rooms htcp hinbox =>
    have hup : Lives c { c with
        tcp := .opened, wire := [], room := rooms, queue := connectOutPacket cfg :: c.queue } := by
      have hstate := state_ne_of_tcp_ne halive (by rw [htcp]; decide)
      exact ⟨iff_of_false hstate (fun h => by cases h), rfl, [], (List.append_nil _).symm, .here _⟩
    have hqueue := handleQueue_lives hup.alive
    exact (hup.trans hqueue).trans (handleQueue_lives hqueue.alive)
  | tcpClosed htcp hinbox => exact onDisconnect_lives halive htcp
  | ack hready => exact handleQueue_lives halive
  | data bytes hready hsome hsize => exact lives_of_eq halive rfl rfl rfl rfl
  | parse b rest hinbox => exact parse_lives hinbox halive horderly
  | poll hready =>
    rw [onPoll]
    split
    · exact disconnect_true_lives halive (by rw [hready.1]; decide)
    · split
      · have hping : Lives c c.sendPing := handleQueue_lives_of_eq halive rfl rfl rfl rfl
        exact hping.trans (handleQueue_lives hping.alive)
      · exact handleQueue_lives halive
  | publish m freeMemory =>
    rw [publish]
    split
    · exact .refl halive
    · exact drawn_lives halive _ _
  | subscribe topic qos =>
    rw [subscribe]
    split
    · exact .refl halive
    · exact drawn_lives halive _ _
  | unsubscribe topic =>
    rw [unsubscribe]
    split
    · exact .refl halive
    · exact drawn_lives halive _ _
  | clearQueue =>
    rw [clearQueue]
    split
    · exact .refl halive
    · exact lives_of_eq halive rfl rfl rfl rfl

/-- `connect` starts an attempt, or does nothing. -/
theorem connect_alive (h : c.Alive) :
    c.connect.Alive ∧ c.connect.state = c.state.connect ∧ c.connect.clock = c.clock ∧
      c.connect.calls = c.calls := by
  rw [connect, ClientState.connect]
  split
  · exact ⟨h, rfl, rfl, rfl⟩
  · rename_i hstate
    have hclosed : c.tcp = .closed := h.mp (not_not.mp hstate)
    refine ⟨iff_of_false (fun h => by cases h) ?_, rfl, rfl, rfl⟩
    show (if c.tcp = .closed then Tcp.connecting else c.tcp) ≠ .closed
    rw [if_pos hclosed]
    decide

end Client

end Mqtt

end SentinelEdge
