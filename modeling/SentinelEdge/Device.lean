import SentinelEdge.Net
import SentinelEdge.Station

/-!
# The device

`src/main.cpp` on top of everything else: `setup`, and `loop`, which the Arduino core
calls over and over. A pass of `loop` calls `netLoop`, looks at the clock, and if the
publish interval is over runs a cycle of `SentinelEdge.Station` and hands its payload
to `netPublishTelemetry`.

A pass is one step of the device; between two passes the network acts as it likes,
`SentinelEdge.Net.step` by step. What a pass finds – the answers of the drivers, the
junk in the payload buffer, the free memory of the broker client – is an input of the
step.

What a pass does is said once, by `SentinelEdge.Device.loop_eq`: it runs a cycle if it
is due (`SentinelEdge.Device.Due`), and leaves the station alone if it is not. When it
queues a message is `SentinelEdge.Device.loop_queues_iff`.
-/

namespace SentinelEdge

open WrapClock LabelledRun

/-! ### Queueing a message -/

/-- `MQTT_MIN_FREE_MEMORY`. -/
def mqttMinFreeMemory : ℕ := 4096

/-- The outgoing side of `AsyncMqttClient`, as far as telemetry goes. -/
structure Outbox where
  /-- `OutPacket::_nextPacketId`. -/
  nextPacketId : UInt16
  /-- The payloads queued so far, oldest first. -/
  queued : List (List Char)

/-- `OutPacket::_getNextPacketId`: the next identifier, which is never zero. -/
def getNextPacketId (nextPacketId : UInt16) : UInt16 :=
  let n := nextPacketId + 1
  if n = 0 then n + 1 else n

theorem getNextPacketId_ne_zero (n : UInt16) : getNextPacketId n ≠ 0 := by
  rw [getNextPacketId]
  by_cases h : n + 1 = 0
  · rw [if_pos h, h]
    decide
  · rwa [if_neg h]

/-- `AsyncMqttClient::publish`: the packet identifier, and zero if the message was
rejected. -/
def publish (client : ClientState) (freeMemory : ℕ) (o : Outbox) (qos : UInt8)
    (payload : List Char) : UInt16 × Outbox :=
  if client ≠ .connected ∨ freeMemory < mqttMinFreeMemory then (0, o)
  else
    let queued := o.queued ++ [payload]
    if qos ≠ 0 then
      let packetId := getNextPacketId o.nextPacketId
      (packetId, ⟨packetId, queued⟩)
    else (1, ⟨o.nextPacketId, queued⟩)

/-- `netPublishTelemetry`: whether the message was queued. -/
def netPublishTelemetry (cfg : Tunables) (client : ClientState) (freeMemory : ℕ) (o : Outbox)
    (payload : List Char) : Bool × Outbox :=
  if !client.isConnected then (false, o)
  else
    let r := publish client freeMemory o cfg.mqttQos payload
    if r.1 = 0 then (false, r.2) else (true, r.2)

/-- The client accepts messages. -/
def Accepts (client : ClientState) (freeMemory : ℕ) : Prop :=
  client = .connected ∧ mqttMinFreeMemory ≤ freeMemory

instance (client : ClientState) (freeMemory : ℕ) : Decidable (Accepts client freeMemory) :=
  inferInstanceAs (Decidable (_ ∧ _))

/-- **A message is queued** exactly when the client accepts it, and this is what the
answer says. -/
theorem netPublishTelemetry_eq (cfg : Tunables) (client : ClientState) (freeMemory : ℕ)
    (o : Outbox) (payload : List Char) :
    (netPublishTelemetry cfg client freeMemory o payload).1 = decide (Accepts client freeMemory) ∧
      (netPublishTelemetry cfg client freeMemory o payload).2.queued =
        if Accepts client freeMemory then o.queued ++ [payload] else o.queued := by
  cases client with
  | connected =>
    by_cases hmem : freeMemory < mqttMinFreeMemory
    · simp [netPublishTelemetry, publish, ClientState.isConnected, Accepts, hmem,
        Nat.not_le.mpr hmem]
    · by_cases hqos : cfg.mqttQos = 0 <;>
        simp [netPublishTelemetry, publish, ClientState.isConnected, Accepts, hmem,
          Nat.not_lt.mp hmem, hqos, getNextPacketId_ne_zero]
  | _ => simp [netPublishTelemetry, ClientState.isConnected, Accepts]

/-- What becomes of the outgoing side. -/
theorem netPublishTelemetry_outbox (cfg : Tunables) (client : ClientState) (freeMemory : ℕ)
    (o : Outbox) (payload : List Char) :
    (netPublishTelemetry cfg client freeMemory o payload).2 =
      ⟨if Accepts client freeMemory ∧ cfg.mqttQos ≠ 0 then getNextPacketId o.nextPacketId
        else o.nextPacketId,
        if Accepts client freeMemory then o.queued ++ [payload] else o.queued⟩ := by
  cases client with
  | connected =>
    by_cases hmem : freeMemory < mqttMinFreeMemory
    · simp [netPublishTelemetry, publish, ClientState.isConnected, Accepts, hmem,
        Nat.not_le.mpr hmem]
    · by_cases hqos : cfg.mqttQos = 0 <;>
        simp [netPublishTelemetry, publish, ClientState.isConnected, Accepts, hmem,
          Nat.not_lt.mp hmem, hqos, getNextPacketId_ne_zero]
  | _ => simp [netPublishTelemetry, ClientState.isConnected, Accepts]

/-! ### The state -/

/-- The whole firmware. -/
structure Device where
  /-- The network. -/
  net : Net
  /-- The sensors and the panel. -/
  station : Station
  /-- `firstPublish`. -/
  firstPublish : Bool
  /-- `lastPublishMs`. -/
  lastPublishMs : UInt32
  /-- The outgoing side of the client. -/
  outbox : Outbox
  /-- The number of cycles run so far. -/
  cycles : ℕ

/-- What a pass of `loop` finds. -/
structure Pass (cfg : Tunables) where
  /-- The driver reads and the buffer, if a cycle is run. -/
  input : CycleInput cfg
  /-- `GET_FREE_MEMORY()`. -/
  freeMemory : ℕ

/-- A step of the device. -/
inductive DeviceAct (cfg : Tunables) where
  /-- The network acts, or time passes. -/
  | net (a : Net.Act)
  /-- A pass of `loop`. -/
  | loop (p : Pass cfg)

namespace Device

variable (fmt : NumberFormat) (printFloat : Binary32 → ℕ → List Char) (cfg : Tunables)
  (layout : OledLayout)

/-- `setup`, with `netBegin` at true time `t₀`. Without any sensor it restarts the
device instead. -/
def setup (present : Bool) (o : BeginOutcome) (t₀ : ℕ) : Device :=
  let r := Station.setup layout present o
  { net :=
      if r.2 then Net.netBegin cfg (Net.powerOn t₀)
      else { Net.powerOn t₀ with restarted := true }
    station := r.1
    firstPublish := true
    lastPublishMs := 0
    outbox := ⟨0, []⟩
    cycles := 0 }

/-- The part of `loop` that runs when a cycle is due, at `now`. -/
def runCycle (d : Device) (now : UInt32) (p : Pass cfg) : Device :=
  let station := Station.cycle fmt printFloat cfg layout d.station p.input
  let outbox :=
    match station.handed with
    | some payload =>
      (netPublishTelemetry cfg d.net.client p.freeMemory d.outbox payload).2
    | none => d.outbox
  -- the two variables of the schedule do not depend on what becomes of the message
  { d with
    firstPublish := false
    lastPublishMs := now
    station := station
    outbox := outbox
    cycles := d.cycles + 1 }

/-- `loop`. -/
def loop (d : Device) (p : Pass cfg) : Device :=
  let d := { d with net := d.net.netLoop cfg }
  -- `ESP.restart()` does not return
  if d.net.restarted then d
  else
    let now := stamp d.net.clock
    -- yield instead of spinning between publishes
    if !d.firstPublish && decide (now - d.lastPublishMs < cfg.publishIntervalMs) then d
    else d.runCycle fmt printFloat cfg layout now p

/-- One step. -/
def step (d : Device) (a : DeviceAct cfg) : Option Device :=
  if d.net.restarted then none
  else match a with
    | .net .netLoop => none
    | .net a => (Net.step cfg d.net a).map fun net => { d with net := net }
    | .loop p => some (d.loop fmt printFloat cfg layout p)

/-! ### What a pass does -/

/-- **A cycle is due**: `netLoop` does not restart the device, and this is the first
pass that gets so far, or the counter shows that the interval is over. -/
def Due (d : Device) : Prop :=
  (d.net.netLoop cfg).restarted = false ∧
    (d.firstPublish = false → cfg.publishIntervalMs ≤ stamp d.net.clock - d.lastPublishMs)

instance (d : Device) : Decidable (Due cfg d) := inferInstanceAs (Decidable (_ ∧ (_ → _)))

/-- The pass finds everything that a message needs: the client accepts it, and the
sample has a valid field. -/
def Ready (d : Device) (p : Pass cfg) : Prop :=
  Accepts d.net.client p.freeMemory ∧
    (sensorsRead d.station.sensors p.input.reads).any = true

instance (d : Device) (p : Pass cfg) : Decidable (Ready cfg d p) :=
  inferInstanceAs (Decidable (_ ∧ _))

/-- **A pass** runs a cycle if one is due, and otherwise does no more than call
`netLoop`. -/
theorem loop_eq (d : Device) (p : Pass cfg) :
    d.loop fmt printFloat cfg layout p =
      if Due cfg d then
        { d with net := d.net.netLoop cfg }.runCycle fmt printFloat cfg layout
          (stamp d.net.clock) p
      else { d with net := d.net.netLoop cfg } := by
  have hidle : (!d.firstPublish &&
      decide (stamp d.net.clock - d.lastPublishMs < cfg.publishIntervalMs)) = true ↔
        ¬(d.firstPublish = false →
          cfg.publishIntervalMs ≤ stamp d.net.clock - d.lastPublishMs) := by
    simp [UInt32.not_le]
  show (if (d.net.netLoop cfg).restarted = true then _
    else if (!d.firstPublish && decide (_ < cfg.publishIntervalMs)) = true then _ else _) = _
  by_cases hdue : Due cfg d
  · obtain ⟨hrunning, hover⟩ := id hdue
    rw [if_pos hdue, if_neg (by rw [hrunning]; exact Bool.false_ne_true)]
    exact if_neg fun h => hidle.mp h hover
  · rw [if_neg hdue]
    cases hrestart : (d.net.netLoop cfg).restarted with
    | true => rw [if_pos rfl]
    | false =>
      rw [if_neg Bool.false_ne_true]
      exact if_pos (hidle.mpr fun hover => hdue ⟨hrestart, hover⟩)

/-- A pass of `loop` calls `netLoop`, whether a cycle is due or not. -/
theorem loop_net (d : Device) (p : Pass cfg) :
    (d.loop fmt printFloat cfg layout p).net = d.net.netLoop cfg := by
  rw [loop_eq]
  split <;> rfl

/-- **When a pass runs a cycle**: when one is due. -/
theorem loop_runs_iff (d : Device) (p : Pass cfg) :
    (d.loop fmt printFloat cfg layout p).cycles ≠ d.cycles ↔ Due cfg d := by
  rw [loop_eq]
  by_cases hdue : Due cfg d
  · rw [if_pos hdue]
    exact iff_of_true (Nat.succ_ne_self _) hdue
  · rw [if_neg hdue]
    exact iff_of_false (fun h => h rfl) hdue

/-- **When a cycle queues a message**: when everything that a message needs is
there. -/
theorem runCycle_queued (d : Device) (now : UInt32) (p : Pass cfg) :
    (d.runCycle fmt printFloat cfg layout now p).outbox.queued.length =
      d.outbox.queued.length + if Ready cfg d p then 1 else 0 := by
  have hhanded : (Station.cycle fmt printFloat cfg layout d.station p.input).handed =
      publishReadings fmt cfg (sensorsRead d.station.sensors p.input.reads) p.input.junk := rfl
  rw [runCycle, hhanded]
  cases hany : (sensorsRead d.station.sensors p.input.reads).any with
  | false =>
    rw [publishReadings_none fmt cfg hany]
    simp [Ready, hany]
  | true =>
    rw [publishReadings_eq fmt cfg hany]
    simp only [(netPublishTelemetry_eq cfg _ _ _ _).2]
    by_cases hacc : Accepts d.net.client p.freeMemory <;> simp [Ready, hany, hacc]

/-- **When a pass queues a message**: when a cycle is due and everything that a message
needs is there. -/
theorem loop_queues_iff (d : Device) (p : Pass cfg) :
    (d.loop fmt printFloat cfg layout p).outbox.queued.length ≠ d.outbox.queued.length ↔
      Due cfg d ∧ Ready cfg d p := by
  have hready : Ready cfg { d with net := d.net.netLoop cfg } p ↔ Ready cfg d p := Iff.rfl
  rw [loop_eq]
  by_cases hdue : Due cfg d
  · rw [if_pos hdue, runCycle_queued]
    simp [hready, hdue]
  · rw [if_neg hdue]
    simp [hdue]

/-- A client that accepts messages keeps the watchdog quiet. -/
theorem due_of_ready {d : Device} {p : Pass cfg} (h : Ready cfg d p) :
    Due cfg d ↔
      (d.firstPublish = false → cfg.publishIntervalMs ≤ stamp d.net.clock - d.lastPublishMs) := by
  have hrunning : (d.net.netLoop cfg).restarted = false := by
    rw [Net.netLoop, h.1.1]
    rfl
  exact and_iff_right hrunning

/-! ### What the other steps leave alone -/

/-- A device that takes a step has not been restarted. -/
theorem running_of_step {d d' : Device} {a : DeviceAct cfg}
    (h : step fmt printFloat cfg layout d a = some d') : d.net.restarted = false := by
  obtain ⟨hrunning, -⟩ := Option.ite_none_left_eq_some.mp h
  exact Bool.eq_false_iff.mpr hrunning

/-- Time does not go back. -/
theorem clock_le_of_net {s s' : Net} {a : Net.Act} (h : Net.step cfg s a = some s') :
    s.clock ≤ s'.clock := by
  cases (Net.step_cases h).2 with
  | tick ms => exact Nat.le_add_right _ _
  | _ => exact Nat.le_refl _

/-- **A step of the device** is a step of the network under it, or a pass. -/
theorem step_cases {d d' : Device} {a : DeviceAct cfg}
    (h : step fmt printFloat cfg layout d a = some d') :
    (∃ a' net', a = .net a' ∧ Net.step cfg d.net a' = some net' ∧ d' = { d with net := net' }) ∨
      ∃ p, a = .loop p ∧ d' = d.loop fmt printFloat cfg layout p := by
  obtain ⟨-, h⟩ := Option.ite_none_left_eq_some.mp h
  cases a with
  | loop p => exact Or.inr ⟨p, rfl, (Option.some.inj h).symm⟩
  | net a' =>
    -- a call of `netLoop` is part of a pass, not a step of its own
    refine Or.inl ⟨a', ?_⟩
    cases a' with
    | netLoop => cases h
    | _ =>
      obtain ⟨net', hnet, rfl⟩ := Option.map_eq_some_iff.mp h
      exact ⟨net', rfl, hnet, rfl⟩

end Device

end SentinelEdge
