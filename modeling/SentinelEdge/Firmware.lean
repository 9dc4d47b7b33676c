import SentinelEdge.Device
import SentinelEdge.Gateway
import SentinelEdge.Identity

/-!
# The firmware

`SentinelEdge.Device` runs on a network that has no bytes in it and queues its messages in a
list. Here is the firmware as it really is: the main loop, the sensors and the panel on top of
`src/net.cpp` and the MQTT client. A pass of `loop` writes the payload into a buffer, the
client measures the string that it finds there, and what it sends of it, and when, is up to
the client and the TCP connection. The callbacks that the client makes while it is called from
a pass are handled in the pass.

`SentinelEdge.Firmware.exec_device` is that every run of the firmware, in which the server and
the connection are orderly, is a run of `SentinelEdge.Device`, seen with the state of the
client and with the payloads that the client has accepted: the same passes, with the same
readings, and what the network does in between (`SentinelEdge.Firmware.deviceRun`). So what is
proved of the intervals between messages, of the reconnects and of the watchdog holds of the
firmware with the real client.
-/

namespace SentinelEdge

open LabelledRun WrapClock Mqtt

/-- What does not change while a device runs: how the libraries print numbers, what the
firmware was built with, and the address of the radio. -/
structure Board where
  /-- How ArduinoJson prints a number. -/
  fmt : NumberFormat
  /-- How the panel prints a number. -/
  printFloat : Binary32 → ℕ → List Char
  /-- `include/config.h`. -/
  cfg : Tunables
  /-- The panel. -/
  layout : OledLayout
  /-- `include/secrets.h`. -/
  secrets : Secrets
  /-- What `WiFi.macAddress()` answers. -/
  mac : List UInt8

/-- The names of the device. -/
def Board.id (b : Board) : Identity := buildIdentity b.mac

/-- The settings of the client after `netBegin`. -/
def Board.settings (b : Board) : Settings := configureBroker b.id b.secrets

/-! ### Queueing a message -/

namespace Gateway

/-- `netPublishTelemetry`, with the memory that `payload` points to: whether the message was
queued. -/
def netPublishTelemetry (b : Board) (payload : List UInt8) (freeMemory : ℕ) (g : Gateway) :
    Bool × Gateway :=
  if !g.mqtt.connected then (false, g)
  else
    let r := g.mqtt.publish (telemetry b.cfg b.id payload) freeMemory
    let g := g.after b.cfg r.2
    if r.1 = 0 then (false, g) else (true, g)

/-- `netLoop`. -/
def netLoop (cfg : Tunables) (g : Gateway) : Gateway := { g with net := g.view.netLoop cfg }

variable {b : Board} {g : Gateway}

/-- The answer is whether the client accepts the message. -/
theorem netPublishTelemetry_fst (b : Board) (payload : List UInt8) (freeMemory : ℕ) (g : Gateway) :
    (g.netPublishTelemetry b payload freeMemory).1 = decide (Accepts g.mqtt.state freeMemory) := by
  rw [netPublishTelemetry]
  by_cases hstate : g.mqtt.state = .connected
  · have hconnected : g.mqtt.connected = true := decide_eq_true hstate
    rw [hconnected]
    by_cases hmemory : freeMemory < mqttMinFreeMemory
    · have hpublish : (g.mqtt.publish (telemetry b.cfg b.id payload) freeMemory).1 = 0 := by
        rw [Client.publish, if_pos (Or.inr hmemory)]
      simp [hpublish, Accepts, Nat.not_le.mpr hmemory]
    · have hpublish : (g.mqtt.publish (telemetry b.cfg b.id payload) freeMemory).1 ≠ 0 := by
        rw [Client.publish, if_neg (not_or.mpr ⟨not_not.mpr hstate, hmemory⟩)]
        exact Client.publishId_ne_zero _ _
      simp [hpublish, Accepts, hstate, Nat.not_lt.mp hmemory]
  · have hconnected : g.mqtt.connected = false := decide_eq_false hstate
    rw [hconnected]
    simp [Accepts, hstate]

/-- **For the client** it is a call of `publish`, or nothing. -/
theorem netPublishTelemetry_snd (payload : List UInt8) (freeMemory : ℕ)
    (hrunning : g.net.restarted = false) (hfault : g.mqtt.fault = none) :
    (g.netPublishTelemetry b payload freeMemory).2 = g ∧ ¬Accepts g.mqtt.state freeMemory ∨
      step b.cfg b.settings g (.mqtt (.publish (telemetry b.cfg b.id payload) freeMemory)) =
        some (g.netPublishTelemetry b payload freeMemory).2 := by
  have hgo : ¬(g.net.restarted = true ∨ g.mqtt.fault ≠ none) := by
    rw [hrunning, hfault]
    exact nofun
  rw [netPublishTelemetry]
  cases hconnected : g.mqtt.connected with
  | false =>
    refine Or.inl ⟨rfl, fun hacc => ?_⟩
    exact absurd hacc.1 (of_decide_eq_false hconnected)
  | true =>
    refine Or.inr ?_
    have hpublish : Client.step b.settings g.mqtt
        (.publish (telemetry b.cfg b.id payload) freeMemory) =
          some (g.mqtt.publish (telemetry b.cfg b.id payload) freeMemory).2 :=
      if_neg (not_not.mpr hfault)
    rw [step, if_neg hgo]
    simp only [Own, if_true, hpublish, Option.map_some, Bool.not_true, Bool.false_eq_true, if_false]
    split <;> rfl

/-- What the client calls back while it is called is what the network does on its own. -/
theorem netPublishTelemetry_net (hfits : g.Fits) (hrunning : g.net.restarted = false)
    (hfault : g.mqtt.fault = none) (payload : List UInt8) (freeMemory : ℕ) :
    (g.netPublishTelemetry b payload freeMemory).2.Fits ∧
      exec (Net.step b.cfg) g.view
        ((g.called (g.netPublishTelemetry b payload freeMemory).2).flatMap Net.actsOf) =
          some (g.netPublishTelemetry b payload freeMemory).2.view := by
  rcases netPublishTelemetry_snd (b := b) payload freeMemory hrunning hfault with ⟨h, -⟩ | h
  · rw [h, called, List.drop_length]
    exact ⟨hfits, rfl⟩
  · have horderly : g.Orderly (.mqtt (.publish (telemetry b.cfg b.id payload) freeMemory)) :=
      trivial
    exact step_net hfits h horderly

theorem netPublishTelemetry_mqtt (b : Board) (payload : List UInt8) (freeMemory : ℕ)
    (g : Gateway) :
    (g.netPublishTelemetry b payload freeMemory).2.mqtt =
      (g.mqtt.publish (telemetry b.cfg b.id payload) freeMemory).2 := by
  rw [netPublishTelemetry]
  split
  · rename_i hdown
    have hnot : ¬Accepts g.mqtt.state freeMemory := by
      rintro ⟨hstate, -⟩
      rw [Client.connected, hstate] at hdown
      cases hdown
    rw [Client.publish_of_not_accepts hnot]
  · simp only
    split <;> rfl

/-- The identifier that the client has given last, after a message. -/
theorem netPublishTelemetry_nextPacketId (b : Board) (payload : List UInt8) (freeMemory : ℕ)
    (g : Gateway) :
    (g.netPublishTelemetry b payload freeMemory).2.mqtt.nextPacketId =
      if Accepts g.mqtt.state freeMemory ∧ b.cfg.mqttQos ≠ 0 then
        getNextPacketId g.mqtt.nextPacketId
      else g.mqtt.nextPacketId := by
  rw [netPublishTelemetry_mqtt]
  by_cases hacc : Accepts g.mqtt.state freeMemory
  · rw [Client.publish_nextPacketId hacc, Client.publishId]
    by_cases hqos : b.cfg.mqttQos = 0 <;> simp [hacc, hqos, telemetry]
  · rw [Client.publish_of_not_accepts hacc, if_neg fun h => hacc h.1]

end Gateway

/-! ### The main loop -/

/-- The whole firmware. -/
structure Firmware where
  /-- `src/net.cpp` and the client. -/
  gateway : Gateway
  /-- The sensors and the panel. -/
  station : Station
  /-- `firstPublish`. -/
  firstPublish : Bool
  /-- `lastPublishMs`. -/
  lastPublishMs : UInt32
  /-- The payloads that the client has accepted so far, oldest first, and the identifier that it
  had given last when it had accepted one. -/
  accepted : List (UInt16 × List Char)
  /-- The number of cycles run so far. -/
  cycles : ℕ

namespace Firmware

/-- What a pass of `loop` finds. -/
structure Pass (cfg : Tunables) extends SentinelEdge.Pass cfg where
  /-- What is on the stack behind the payload buffer. -/
  beyond : List UInt8

/-- A step of the firmware. -/
inductive Act (b : Board) where
  /-- The network, the client or the server acts, or time passes. -/
  | gateway (a : Gateway.Act)
  /-- A pass of `loop`. -/
  | loop (p : Pass b.cfg)

variable (b : Board)

/-- `setup`, with `netBegin` at true time `t₀`. Without any sensor it restarts the device
instead. -/
def setup (present : Bool) (o : BeginOutcome) (t₀ : ℕ) : Firmware :=
  let r := Station.setup b.layout present o
  { gateway :=
      if r.2 then Gateway.netBegin b.cfg b.settings t₀
      else { net := { Net.powerOn t₀ with restarted := true }, mqtt := Client.init b.settings t₀ }
    station := r.1
    firstPublish := true
    lastPublishMs := 0
    accepted := []
    cycles := 0 }

/-- The part of `loop` that runs when a cycle is due, at `now`. -/
def runCycle (f : Firmware) (now : UInt32) (p : Pass b.cfg) : Firmware :=
  let station := Station.cycle b.fmt b.printFloat b.cfg b.layout f.station p.input
  let r :=
    match station.handed with
    | some payload =>
      f.gateway.netPublishTelemetry b (CString.bytes payload ++ p.beyond) p.freeMemory
    | none => (false, f.gateway)
  { gateway := r.2
    station := station
    firstPublish := false
    lastPublishMs := now
    accepted :=
      if r.1 then
        f.accepted ++ station.handed.toList.map fun payload => (r.2.mqtt.nextPacketId, payload)
      else f.accepted
    cycles := f.cycles + 1 }

/-- `loop`. -/
def loop (f : Firmware) (p : Pass b.cfg) : Firmware :=
  let f := { f with gateway := f.gateway.netLoop b.cfg }
  -- `ESP.restart()` does not return
  if f.gateway.net.restarted then f
  else
    let now := stamp f.gateway.net.clock
    -- yield instead of spinning between publishes
    if !f.firstPublish && decide (now - f.lastPublishMs < b.cfg.publishIntervalMs) then f
    else f.runCycle b now p

/-- The network and the client do this on their own, not in a pass. -/
def Background : Gateway.Act → Bool
  | .net .netLoop | .mqtt (.publish ..) => false
  | _ => true

/-- One step. -/
def step (f : Firmware) : Act b → Option Firmware
  | .gateway a =>
    if Background a then
      (Gateway.step b.cfg b.settings f.gateway a).map fun g => { f with gateway := g }
    else none
  | .loop p =>
    if f.gateway.net.restarted ∨ f.gateway.mqtt.fault ≠ none then none else some (f.loop b p)

/-- **What the device does in a step**: what the network does, or a pass with the same readings,
after which the network does what comes of the callbacks that the client has made in it. -/
def deviceActs (f : Firmware) (a : Act b) (f' : Firmware) : List (DeviceAct b.cfg) :=
  match a with
  | .gateway a => (f.gateway.netActs a f'.gateway).map .net
  | .loop p => .loop p.toPass :: ((f.gateway.called f'.gateway).flatMap Net.actsOf).map .net

/-- What the device does in a run, step for step. -/
def deviceRun : Firmware → List (Act b) → List (DeviceAct b.cfg) :=
  answers (step b) (deviceActs b)

/-- The client may take for granted what it does in this step. -/
def Orderly (f : Firmware) : Act b → Prop
  | .gateway a => f.gateway.Orderly a
  | .loop _ => True

instance (f : Firmware) : ∀ a : Act b, Decidable (f.Orderly b a)
  | .gateway a => inferInstanceAs (Decidable (f.gateway.Orderly a))
  | .loop _ => inferInstanceAs (Decidable True)

/-! ### What a pass does -/

variable {b : Board} {f f' : Firmware} {a : Act b} {as : List (Act b)} {p : Pass b.cfg}

/-- What the firmware looks like from outside of the client. -/
def device (f : Firmware) : Device where
  net := f.gateway.view
  station := f.station
  firstPublish := f.firstPublish
  lastPublishMs := f.lastPublishMs
  outbox := ⟨f.gateway.mqtt.nextPacketId, f.accepted.map Prod.snd⟩
  cycles := f.cycles

/-- **A pass** runs a cycle if one is due, and otherwise does no more than call `netLoop`. -/
theorem loop_eq (f : Firmware) (p : Pass b.cfg) :
    f.loop b p =
      if Device.Due b.cfg f.device then
        { f with gateway := f.gateway.netLoop b.cfg }.runCycle b (stamp f.gateway.net.clock) p
      else { f with gateway := f.gateway.netLoop b.cfg } := by
  have hidle : (!f.firstPublish &&
      decide (stamp f.gateway.net.clock - f.lastPublishMs < b.cfg.publishIntervalMs)) = true ↔
        ¬(f.firstPublish = false →
          b.cfg.publishIntervalMs ≤ stamp f.gateway.net.clock - f.lastPublishMs) := by
    simp [UInt32.not_le]
  show (if (f.gateway.view.netLoop b.cfg).restarted = true then _
    else if (!f.firstPublish && decide (_ < b.cfg.publishIntervalMs)) = true then _ else _) = _
  by_cases hdue : Device.Due b.cfg f.device
  · obtain ⟨hrunning, hover⟩ := id hdue
    have hrunning : (f.gateway.view.netLoop b.cfg).restarted = false := hrunning
    rw [if_pos hdue, if_neg (by rw [hrunning]; exact Bool.false_ne_true)]
    exact if_neg fun h => hidle.mp h hover
  · rw [if_neg hdue]
    cases hrestart : (f.gateway.view.netLoop b.cfg).restarted with
    | true => rw [if_pos rfl]
    | false =>
      rw [if_neg Bool.false_ne_true]
      exact if_pos (hidle.mpr fun hover => hdue ⟨hrestart, hover⟩)

/-- **A cycle** hands nothing on, or it calls the client. -/
theorem runCycle_cases (f : Firmware) (now : UInt32) (p : Pass b.cfg) :
    (f.runCycle b now p).gateway = f.gateway ∧ (f.runCycle b now p).accepted = f.accepted ∨
      ∃ payload, publishReadings b.fmt b.cfg (sensorsRead f.station.sensors p.input.reads)
          p.input.junk = some payload ∧
        (f.runCycle b now p).gateway = (f.gateway.netPublishTelemetry b
          (CString.bytes payload ++ p.beyond) p.freeMemory).2 ∧
        (f.runCycle b now p).accepted =
          if Accepts f.gateway.mqtt.state p.freeMemory then
            f.accepted ++ [((f.runCycle b now p).gateway.mqtt.nextPacketId, payload)]
          else f.accepted := by
  have hhanded : (Station.cycle b.fmt b.printFloat b.cfg b.layout f.station p.input).handed =
      publishReadings b.fmt b.cfg (sensorsRead f.station.sensors p.input.reads) p.input.junk := rfl
  rw [runCycle, hhanded]
  cases publishReadings b.fmt b.cfg (sensorsRead f.station.sensors p.input.reads) p.input.junk with
  | none => exact Or.inl ⟨rfl, rfl⟩
  | some payload =>
    refine Or.inr ⟨payload, rfl, rfl, ?_⟩
    simp only [Gateway.netPublishTelemetry_fst, decide_eq_true_eq, Option.toList_some,
      List.map_singleton]

/-! ### The firmware as a device -/

/-- What the network does on its own, it does in the device. -/
theorem exec_background {d : Device} {s : Net} {bs : List Net.Act}
    (hbs : ∀ a ∈ bs, a ≠ .netLoop) (h : exec (Net.step b.cfg) d.net bs = some s) :
    exec (Device.step b.fmt b.printFloat b.cfg b.layout) d (bs.map .net) =
      some { d with net := s } := by
  induction bs generalizing d with
  | nil =>
    obtain rfl : d.net = s := Option.some.inj h
    rfl
  | cons a bs ih =>
    obtain ⟨ha, hbs⟩ := List.forall_mem_cons.mp hbs
    obtain ⟨t, ht, hrest⟩ := Option.bind_eq_some_iff.mp h
    have hrunning := (Net.step_cases ht).1
    have hstep : Device.step b.fmt b.printFloat b.cfg b.layout d (.net a) =
        (Net.step b.cfg d.net a).map fun net => { d with net := net } := by
      cases a with
      | netLoop => exact absurd rfl ha
      | _ => exact if_neg (by rw [hrunning]; exact Bool.false_ne_true)
    rw [List.map_cons, exec_cons, hstep, ht, Option.map_some, Option.bind_some]
    exact ih hbs hrest

/-- **A cycle of the firmware** is a cycle of the device, after which the network does what the
client has called back for. -/
theorem runCycle_device (hfits : f.gateway.Fits) (hrunning : f.gateway.net.restarted = false)
    (hfault : f.gateway.mqtt.fault = none) (now : UInt32) (p : Pass b.cfg) :
    (f.runCycle b now p).gateway.Fits ∧ exec (Device.step b.fmt b.printFloat b.cfg b.layout)
      (f.device.runCycle b.fmt b.printFloat b.cfg b.layout now p.toPass)
        (((f.gateway.called (f.runCycle b now p).gateway).flatMap Net.actsOf).map .net) =
          some (f.runCycle b now p).device := by
  have hhanded : (Station.cycle b.fmt b.printFloat b.cfg b.layout f.station p.input).handed =
      publishReadings b.fmt b.cfg (sensorsRead f.station.sensors p.input.reads) p.input.junk := rfl
  simp only [runCycle, Device.runCycle, hhanded, show f.device.station = f.station from rfl]
  cases publishReadings b.fmt b.cfg (sensorsRead f.station.sensors p.input.reads) p.input.junk with
  | none =>
    rw [Gateway.called, List.drop_length]
    exact ⟨hfits, rfl⟩
  | some payload =>
    obtain ⟨hfits', hacts⟩ := Gateway.netPublishTelemetry_net (b := b) hfits hrunning hfault
      (CString.bytes payload ++ p.beyond) p.freeMemory
    refine ⟨hfits', (exec_background (fun a ha => Net.ne_netLoop_of_mem ha) hacts).trans
      (congrArg some ?_)⟩
    -- the same message is queued, with the same identifier
    simp only [device, Gateway.view, netPublishTelemetry_outbox, Gateway.netPublishTelemetry_fst,
      Gateway.netPublishTelemetry_nextPacketId, decide_eq_true_eq, Option.toList_some,
      List.map_singleton]
    by_cases hacc : Accepts f.gateway.mqtt.state p.freeMemory <;> simp [hacc]

/-- A step of the network, of the client or of the server draws no identifier. -/
theorem gateway_nextPacketId {g g' : Gateway} {a : Gateway.Act} (ha : Background a = true)
    (h : Gateway.step b.cfg b.settings g a = some g') :
    g'.mqtt.nextPacketId = g.mqtt.nextPacketId := by
  rcases Gateway.step_client h with hsame | ⟨x, hx, hdoes⟩
  · rw [hsame]
  · refine Client.step_nextPacketId hx ?_
    rcases hdoes with rfl | ⟨ms, rfl⟩ | ⟨hown, rfl⟩
    · trivial
    · trivial
    · cases x with
      | publish m freeMemory => cases ha
      | subscribe topic qos => cases hown
      | unsubscribe topic => cases hown
      | _ => trivial

/-- **A step of the firmware**, in the device. -/
theorem step_device (hfits : f.gateway.Fits) (h : step b f a = some f')
    (horderly : f.Orderly b a) :
    f'.gateway.Fits ∧ exec (Device.step b.fmt b.printFloat b.cfg b.layout) f.device
      (f.deviceActs b a f') = some f'.device := by
  cases a with
  | gateway a =>
    obtain ⟨ha, h⟩ := Option.ite_none_right_eq_some.mp h
    obtain ⟨g, hg, rfl⟩ := Option.map_eq_some_iff.mp h
    obtain ⟨hfits', hacts⟩ := Gateway.step_net hfits hg horderly
    have hne : a ≠ .net .netLoop := by
      rintro rfl
      cases ha
    refine ⟨hfits', (exec_background (d := f.device)
      (fun c hc => Gateway.ne_netLoop_of_mem_netActs hne hc) hacts).trans ?_⟩
    simp only [device, gateway_nextPacketId ha hg]
  | loop p =>
    obtain ⟨hgo, h⟩ := Option.ite_none_left_eq_some.mp h
    obtain rfl := Option.some.inj h
    obtain ⟨hrunning, hfault⟩ := not_or.mp hgo
    have hpass : Device.step b.fmt b.printFloat b.cfg b.layout f.device (.loop p.toPass) =
        some (f.device.loop b.fmt b.printFloat b.cfg b.layout p.toPass) := if_neg hrunning
    have hfits₁ : (f.gateway.netLoop b.cfg).Fits := ⟨hfits.alive, hfits.clock, hfits.reports⟩
    show _ ∧ exec _ _ (DeviceAct.loop p.toPass ::
      ((f.gateway.called (f.loop b p).gateway).flatMap Net.actsOf).map .net) = _
    rw [exec_cons, hpass, Option.bind_some, loop_eq, Device.loop_eq]
    by_cases hdue : Device.Due b.cfg f.device
    · rw [if_pos hdue, if_pos hdue]
      exact runCycle_device (f := { f with gateway := f.gateway.netLoop b.cfg }) hfits₁ hdue.1
        (not_not.mp hfault) (stamp f.gateway.net.clock) p
    · rw [if_neg hdue, if_neg hdue]
      have hquiet : f.gateway.called (f.gateway.netLoop b.cfg) = [] := List.drop_length
      simp only [hquiet]
      exact ⟨hfits₁, rfl⟩

/-- **The firmware is the device**: every run of the firmware in which the server and the
connection are orderly is a run of `SentinelEdge.Device`, seen with the state of the client
and the payloads that it has accepted. It takes the steps that `deviceRun` says, one after
the other. -/
theorem exec_device {present : Bool} {o : BeginOutcome} {t₀ : ℕ}
    (hrun : exec (step b) (setup b present o t₀) as = some f)
    (horderly : Along (step b) (fun f a _ => f.Orderly b a) (setup b present o t₀) as) :
    exec (Device.step b.fmt b.printFloat b.cfg b.layout)
      (Device.setup b.cfg b.layout present o t₀) (deviceRun b (setup b present o t₀) as) =
        some f.device := by
  have hsetup : (setup b present o t₀).gateway.Fits ∧
      (setup b present o t₀).device = Device.setup b.cfg b.layout present o t₀ := by
    rw [setup, Device.setup]
    cases (Station.setup b.layout present o).2 with
    | true => exact ⟨⟨iff_of_true rfl rfl, rfl, rfl⟩, rfl⟩
    | false => exact ⟨⟨iff_of_true rfl rfl, rfl, rfl⟩, rfl⟩
  rw [← hsetup.2]
  refine (exec_answers (I := fun f : Firmware => f.gateway.Fits) (f := device) ?_ hsetup.1
    horderly hrun).2
  rintro f a f' hfits h ha
  exact step_device hfits h ha

/-- A device without credentials whose panel prints every number as 21.50. -/
def homeBoard : Board where
  fmt := roomFormat
  printFloat := Station.roomPrint
  cfg := configH
  layout := layout64
  secrets := ⟨[], [], ⟨by decide, by decide⟩, ⟨by decide, by decide⟩⟩
  mac := CString.bytes "AA:BB:CC:DD:EE:FF".toList

/-- A pass in which the temperature is 21.5 degrees, and the humidity cannot be read and leaves
a NaN. -/
def homePass : Pass configH where
  input := Station.roomCycle
  freeMemory := 8192
  beyond := []

/-- The link comes up, the server accepts the connection, and the first message goes out and is
acknowledged. -/
def homeRun : List (Act homeBoard) :=
  [.gateway (.net (.link true true)), .gateway (.net .deliver),
    .gateway (.mqtt (.tcpConnected [.of 1000])), .gateway (.mqtt (.data [0x20, 2, 0, 0])),
    .gateway (.mqtt .parse), .gateway (.mqtt .parse), .gateway (.mqtt .parse),
    .gateway (.mqtt .parse), .gateway (.mqtt (.room [.of 1000])), .loop homePass,
    .gateway (.mqtt (.data [0x40, 2, 0, 1])), .gateway (.mqtt .parse), .gateway (.mqtt .parse),
    .gateway (.mqtt .parse), .gateway (.mqtt .parse)]

set_option maxRecDepth 8192 in
theorem exec_device_home :
    ∃ f, exec (step homeBoard) (setup homeBoard true Station.ahtOnly 0) homeRun = some f ∧
      exec (Device.step roomFormat Station.roomPrint configH layout64)
        (Device.setup configH layout64 true Station.ahtOnly 0)
          (deviceRun homeBoard (setup homeBoard true Station.ahtOnly 0) homeRun) =
            some f.device := by
  have hrun : exec (step homeBoard) (setup homeBoard true Station.ahtOnly 0) homeRun =
    some _ := rfl
  exact ⟨_, hrun, exec_device hrun (by decide +kernel)⟩

end Firmware

end SentinelEdge
