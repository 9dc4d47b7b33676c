import SentinelEdge.Firmware

/-!
# A device that is lost

`netLoop` restarts a device that has not been connected for too long. What it goes by is
the state of the client, and the state can be wrong. `_onConnAck` sets it to `CONNECTED`
whatever it was, and `_onData` goes on with the bytes it has got when the connection is
closed in the middle of them. So if a server sends, in one piece, a byte that no packet
starts with and then a CONNACK, the client closes the connection at the first and is
connected, as far as it knows, after the second.

Nothing gets it out of there. Without a connection the TCP library calls nothing;
`connect` does nothing, since the state is not `DISCONNECTED`; messages are accepted and
stay in the queue; and `netLoop` finds the client connected in every pass. This file
proves that the device never restarts, never connects and never sends anything again
(`SentinelEdge.Firmware.stranded_forever`).
-/

namespace SentinelEdge

open LabelledRun WrapClock Mqtt

/-! ### The client -/

namespace Mqtt.Client

variable {cfg : Settings} {c c' : Client} {a : Act}

/-- The client is connected as far as it knows, but there is no connection, and no byte is left
that has been received. -/
structure Stranded (c : Client) : Prop where
  state : c.state = .connected
  tcp : c.tcp = .closed
  room : c.room = []
  inbox : c.inbox = []

/-- Without room nothing is written. -/
theorem handleQueue_of_stranded (hc : c.Stranded) : c.handleQueue = c := by
  rw [handleQueue, hc.room, handleQueueLoop_room_nil]
  simp only [Bool.false_eq_true, if_false]
  rw [← hc.room]

/-- A packet that has drawn an identifier stays in the queue. -/
theorem drawn_stranded (hc : c.Stranded) (p : OutPacket) (packetId : UInt16) :
    ({ c with nextPacketId := packetId }.addBackId p).2.Stranded ∧
      ({ c with nextPacketId := packetId }.addBackId p).2.wire = c.wire := by
  have hpush : Stranded { c with nextPacketId := packetId, queue := c.queue ++ [p] } :=
    ⟨hc.state, hc.tcp, hc.room, hc.inbox⟩
  have hsame : { c with nextPacketId := packetId }.addBack p =
      { c with nextPacketId := packetId, queue := c.queue ++ [p] } := handleQueue_of_stranded hpush
  rw [addBackId, hsame]
  simp only
  split
  · exact ⟨⟨hpush.state, hpush.tcp, hpush.room, hpush.inbox⟩, rfl⟩
  · exact ⟨hpush, rfl⟩

/-- **Only a call of `disconnect` would help**, and the firmware does not call it. -/
theorem stranded_step (h : step cfg c a = some c') (hc : c.Stranded)
    (ha : ∀ force, a ≠ .disconnect force) : c'.Stranded ∧ c'.wire = c.wire := by
  have hclosed : c.tcp ≠ .opened := by
    rw [hc.tcp]
    decide
  cases step_cases h with
  | tick ms => exact ⟨⟨hc.state, hc.tcp, hc.room, hc.inbox⟩, rfl⟩
  | room rooms hopen => exact absurd hopen hclosed
  | tcpConnected rooms htcp hinbox =>
    rw [hc.tcp] at htcp
    cases htcp
  | tcpClosed htcp hinbox => exact absurd hc.tcp htcp
  | ack hready => exact absurd hready.1 hclosed
  | data bytes hready hsome hsize => exact absurd hready.1 hclosed
  | parse b rest hinbox =>
    rw [hc.inbox] at hinbox
    cases hinbox
  | poll hready => exact absurd hready.1 hclosed
  | connect =>
    rw [connect_of_connected hc.state]
    exact ⟨hc, rfl⟩
  | disconnect force hforce => exact absurd rfl (ha force)
  | publish m freeMemory =>
    rw [publish]
    split
    · exact ⟨hc, rfl⟩
    · exact drawn_stranded hc _ _
  | subscribe topic qos =>
    rw [subscribe]
    split
    · exact ⟨hc, rfl⟩
    · exact drawn_stranded hc _ _
  | unsubscribe topic =>
    rw [unsubscribe]
    split
    · exact ⟨hc, rfl⟩
    · exact drawn_stranded hc _ _
  | clearQueue =>
    rw [clearQueue_of_connected hc.state]
    exact ⟨hc, rfl⟩

end Mqtt.Client

/-! ### The network -/

/-- The network does not restart a device that is connected. -/
theorem Net.restarted_of_connected {cfg : Tunables} {s s' : Net} {a : Net.Act}
    (h : Net.step cfg s a = some s') (hs : s.client = .connected) : s'.restarted = false := by
  obtain ⟨hrunning, h⟩ := Net.step_cases h
  cases h with
  | netLoop =>
    have hup : s.client.isConnected = true := decide_eq_true hs
    rw [Net.netLoop, hup]
    rfl
  | _ => exact hrunning

namespace Gateway

variable {cfg : Tunables} {settings : Settings} {g g' : Gateway} {a : Act}

/-- The device is lost: its client is stranded, and it is not restarted. -/
structure Stranded (g : Gateway) : Prop where
  mqtt : g.mqtt.Stranded
  running : g.net.restarted = false

theorem stranded_step (h : step cfg settings g a = some g') (hg : g.Stranded) :
    g'.Stranded ∧ g'.mqtt.wire = g.mqtt.wire := by
  have hmqtt : g'.mqtt.Stranded ∧ g'.mqtt.wire = g.mqtt.wire := by
    rcases step_client h with hsame | ⟨x, hx, hdoes⟩
    · rw [hsame]
      exact ⟨hg.mqtt, rfl⟩
    · refine Client.stranded_step hx hg.mqtt ?_
      rintro force rfl
      rcases hdoes with hx | ⟨ms, hx⟩ | ⟨hx, -⟩ <;> cases hx
  refine ⟨⟨hmqtt.1, ?_⟩, hmqtt.2⟩
  obtain ⟨-, h⟩ := Option.ite_none_left_eq_some.mp h
  cases a with
  | tick ms =>
    obtain rfl := Option.some.inj h
    exact hg.running
  | net a =>
    obtain ⟨-, h⟩ := Option.ite_none_right_eq_some.mp h
    obtain ⟨s, hs, rfl⟩ := Option.map_eq_some_iff.mp h
    exact Net.restarted_of_connected hs hg.mqtt.state
  | mqtt a =>
    obtain ⟨-, h⟩ := Option.ite_none_right_eq_some.mp h
    obtain ⟨c, -, rfl⟩ := Option.map_eq_some_iff.mp h
    exact (Net.foldl_onCallback_keeps cfg _ g.net).1.trans hg.running

end Gateway

/-! ### The firmware -/

namespace Firmware

variable {b : Board} {f f' : Firmware} {a : Act b} {as : List (Act b)}

theorem stranded_netLoop (hf : f.gateway.Stranded) : (f.gateway.netLoop b.cfg).Stranded := by
  refine ⟨hf.mqtt, ?_⟩
  have hup : f.gateway.view.client.isConnected = true := decide_eq_true hf.mqtt.state
  show (f.gateway.view.netLoop b.cfg).restarted = false
  rw [Net.netLoop, hup]
  rfl

theorem stranded_runCycle (hf : f.gateway.Stranded) (hfault : f.gateway.mqtt.fault = none)
    (now : UInt32) (p : Pass b.cfg) :
    (f.runCycle b now p).gateway.Stranded ∧
      (f.runCycle b now p).gateway.mqtt.wire = f.gateway.mqtt.wire := by
  rcases runCycle_cases f now p with ⟨hsame, -⟩ | ⟨payload, -, hgateway, -⟩
  · rw [hsame]
    exact ⟨hf, rfl⟩
  · rw [hgateway]
    rcases Gateway.netPublishTelemetry_snd (b := b) (CString.bytes payload ++ p.beyond) p.freeMemory
      hf.running hfault with ⟨hsame, -⟩ | hstep
    · rw [hsame]
      exact ⟨hf, rfl⟩
    · exact Gateway.stranded_step hstep hf

theorem stranded_step (h : step b f a = some f') (hf : f.gateway.Stranded) :
    f'.gateway.Stranded ∧ f'.gateway.mqtt.wire = f.gateway.mqtt.wire := by
  cases a with
  | gateway a =>
    obtain ⟨-, h⟩ := Option.ite_none_right_eq_some.mp h
    obtain ⟨g, hg, rfl⟩ := Option.map_eq_some_iff.mp h
    exact Gateway.stranded_step hg hf
  | loop p =>
    obtain ⟨hgo, h⟩ := Option.ite_none_left_eq_some.mp h
    obtain rfl := Option.some.inj h
    obtain ⟨-, hfault⟩ := not_or.mp hgo
    have hloop := stranded_netLoop (b := b) hf
    rw [loop_eq]
    split
    · exact stranded_runCycle (f := { f with gateway := f.gateway.netLoop b.cfg }) hloop
        (not_not.mp hfault) _ p
    · exact ⟨hloop, rfl⟩

/-- **A stranded device is lost for good**: whatever happens, it is never restarted and never
connected again, sends nothing, and takes itself for connected. -/
theorem stranded_forever (hf : f.gateway.Stranded) (hrun : exec (step b) f as = some f') :
    f'.gateway.net.restarted = false ∧ f'.gateway.mqtt.connected = true ∧
      f'.gateway.mqtt.tcp = .closed ∧ f'.gateway.mqtt.wire = f.gateway.mqtt.wire := by
  obtain ⟨hend, hwire⟩ := exec_inv
    (I := fun x : Firmware => x.gateway.Stranded ∧ x.gateway.mqtt.wire = f.gateway.mqtt.wire)
    (fun x a x' hx h => by
      obtain ⟨hx', hwire⟩ := stranded_step h hx.1
      exact ⟨hx', hwire.trans hx.2⟩) ⟨hf, rfl⟩ hrun
  exact ⟨hend.running, decide_eq_true hend.mqtt.state, hend.mqtt.tcp, hwire⟩

/-- The server sends a byte that no packet starts with, and a CONNACK behind it. -/
def strandingRun : List (Act homeBoard) :=
  [.gateway (.net (.link true true)), .gateway (.net .deliver),
    .gateway (.mqtt (.tcpConnected [.of 1000])),
    .gateway (.mqtt (.data [0, 0x20, 2, 0, 0])), .gateway (.mqtt .parse), .gateway (.mqtt .parse),
    .gateway (.mqtt .parse), .gateway (.mqtt .parse), .gateway (.mqtt .parse)]

/-- The retry that is under way comes to nothing, and neither does a day of waiting. -/
def lostRun : List (Act homeBoard) :=
  [.gateway (.net .mqttTimer), .gateway (.tick 86400000), .loop homePass]

/-- The device that has got there. -/
def lostFirmware : Firmware :=
  (exec (step homeBoard) (setup homeBoard true Station.ahtOnly 0) strandingRun).get rfl

set_option maxRecDepth 8192 in
theorem stranded_forever_home :
    exec (step homeBoard) (setup homeBoard true Station.ahtOnly 0) strandingRun =
        some lostFirmware ∧
      ∃ f', exec (step homeBoard) lostFirmware lostRun = some f' ∧
        f'.gateway.net.clock = 86400000 ∧ f'.gateway.net.restarted = false ∧
        f'.gateway.mqtt.connected = true ∧ f'.gateway.mqtt.tcp = .closed ∧
        f'.gateway.mqtt.wire = lostFirmware.gateway.mqtt.wire := by
  have hlost : exec (step homeBoard) lostFirmware lostRun = some _ := rfl
  have hstranded : lostFirmware.gateway.Stranded := ⟨⟨rfl, rfl, rfl, rfl⟩, rfl⟩
  exact ⟨rfl, _, hlost, rfl, stranded_forever hstranded hlost⟩

end Firmware

end SentinelEdge
