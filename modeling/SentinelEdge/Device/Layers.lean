import SentinelEdge.Device

/-!
# The layers of the device

The properties of the firmware are proved where they belong: those of the watchdog on
`SentinelEdge.Watchdog`, those of the reconnect logic on `SentinelEdge.Net`, those of
the data on `SentinelEdge.Station`. Each of these is a part of the device that runs by
itself, and this file says so: seen from the part, every run of the whole is a run of
the part.

* `SentinelEdge.Device.exec_net`: a run of the device is a run of the network, in which
  a pass of `loop` is a call of `netLoop` (`SentinelEdge.Device.netActs`).
* `SentinelEdge.Device.exec_station`: a run of the device is a sequence of cycles of the
  station, one for each pass that is due (`SentinelEdge.Device.cycleInputs`).
* `SentinelEdge.Net.exec_watchdog`: a run of the network is a run of the watchdog, in
  which `connected()` answers as the client stands (`SentinelEdge.Net.watchdogActs`).

So what holds of every state that a part can reach holds of that part of every device.
-/

namespace SentinelEdge

open LabelledRun

/-! ### The watchdog in the network -/

/-- The watchdog of a node. -/
def Net.watchdog (s : Net) : Watchdog := ⟨s.clock, s.lastMqttConnectMs, s.restarted⟩

/-- What the watchdog does in a step of the network. -/
def Net.watchdogActs (s : Net) (a : Act) (_ : Net) : List WatchdogAct :=
  match a with
  | .tick ms => [.tick ms]
  | .mqttConnect => [.onMqttConnect]
  | .netLoop => [.netLoop s.client.isConnected]
  | _ => []

/-- A step of the network is a step of its watchdog, or none. -/
theorem Net.step_watchdog (cfg : Tunables) (s : Net) (a : Act) (s' : Net)
    (hs : step cfg s a = some s') :
    exec (Watchdog.step cfg) s.watchdog (s.watchdogActs a s') = some s'.watchdog := by
  obtain ⟨hrunning, hstep⟩ := step_cases hs
  -- the watchdog runs as long as the node does
  have hgo : s.watchdog = ⟨s.clock, s.lastMqttConnectMs, false⟩ := by rw [watchdog, hrunning]
  have hone : ∀ b w', Watchdog.step cfg ⟨s.clock, s.lastMqttConnectMs, false⟩ b = some w' →
      exec (Watchdog.step cfg) s.watchdog [b] = some w' := fun b w' h => by
    rw [exec_singleton, hgo, h]
  cases hstep with
  | tick ms =>
    refine hone _ _ ?_
    rw [watchdog, hrunning]
    rfl
  | mqttConnect hclient =>
    refine hone _ _ ?_
    rw [watchdog]
    exact congrArg some (congrArg _ hrunning.symm)
  | netLoop => exact hone _ _ rfl
  | _ => rfl

/-- **A run of the network is a run of the watchdog.** -/
theorem Net.exec_watchdog (cfg : Tunables) (t₀ : ℕ) (as : List Act) (s : Net)
    (h : exec (step cfg) (netBegin cfg (powerOn t₀)) as = some s) :
    exec (Watchdog.step cfg) (Watchdog.netBegin t₀)
      (answers (step cfg) watchdogActs (netBegin cfg (powerOn t₀)) as) = some s.watchdog :=
  exec_answers_of_forall (step_watchdog cfg) h

/-! ### The network and the station in the device -/

namespace Device

variable (fmt : NumberFormat) (printFloat : Binary32 → ℕ → List Char) (cfg : Tunables)
  (layout : OledLayout)

/-- A pass of `loop` runs a cycle of the station, or leaves it alone. -/
theorem loop_station (d : Device) (p : Pass cfg) :
    (d.loop fmt printFloat cfg layout p).station =
      if Due cfg d then Station.cycle fmt printFloat cfg layout d.station p.input
      else d.station := by
  rw [loop_eq]
  split <;> rfl

/-- What the network does in a step of the device. -/
def netActs {cfg : Tunables} (_ : Device) (a : DeviceAct cfg) (_ : Device) : List Net.Act :=
  match a with
  | .net a => [a]
  | .loop _ => [.netLoop]

/-- The cycle that the station runs in a step of the device, if it runs one. -/
def cycleInputs {cfg : Tunables} (d : Device) (a : DeviceAct cfg) (_ : Device) :
    List (CycleInput cfg) :=
  match a with
  | .net _ => []
  | .loop p => if Due cfg d then [p.input] else []

/-- A step of the device is a step of its network. -/
theorem step_net (d : Device) (a : DeviceAct cfg) (d' : Device)
    (hs : step fmt printFloat cfg layout d a = some d') :
    exec (Net.step cfg) d.net (d.netActs a d') = some d'.net := by
  have hrunning := running_of_step fmt printFloat cfg layout hs
  rcases step_cases fmt printFloat cfg layout hs with ⟨a', net', rfl, hnet, rfl⟩ | ⟨p, rfl, rfl⟩
  · exact (exec_singleton _ _ _).trans hnet
  · rw [loop_net]
    refine (exec_singleton _ _ _).trans ?_
    exact if_neg (by rw [hrunning]; exact Bool.false_ne_true)

/-- A step of the device is a cycle of its station, or none. -/
theorem step_station (d : Device) (a : DeviceAct cfg) (d' : Device)
    (hs : step fmt printFloat cfg layout d a = some d') :
    exec (Station.step fmt printFloat cfg layout) d.station (d.cycleInputs a d') =
      some d'.station := by
  rcases step_cases fmt printFloat cfg layout hs with ⟨a', net', rfl, hnet, rfl⟩ | ⟨p, rfl, rfl⟩
  · rfl
  · rw [loop_station, cycleInputs]
    split <;> rfl

/-- **A run of the device is a run of the network**, after a `setup` that found a
sensor. -/
theorem exec_net (present : Bool) (o : BeginOutcome) (t₀ : ℕ) (as : List (DeviceAct cfg))
    (d : Device) (hsensor : (sensorsBegin o).2 = true)
    (h : exec (step fmt printFloat cfg layout) (setup cfg layout present o t₀) as = some d) :
    exec (Net.step cfg) (Net.netBegin cfg (Net.powerOn t₀))
      (answers (step fmt printFloat cfg layout) netActs (setup cfg layout present o t₀) as) =
        some d.net := by
  have hsetup : (setup cfg layout present o t₀).net = Net.netBegin cfg (Net.powerOn t₀) := by
    simp [setup, Station.setup, hsensor]
  rw [← hsetup]
  exact exec_answers_of_forall (step_net fmt printFloat cfg layout) h

/-- **A run of the device is a sequence of cycles of the station.** -/
theorem exec_station (present : Bool) (o : BeginOutcome) (t₀ : ℕ) (as : List (DeviceAct cfg))
    (d : Device)
    (h : exec (step fmt printFloat cfg layout) (setup cfg layout present o t₀) as = some d) :
    exec (Station.step fmt printFloat cfg layout) (Station.setup layout present o).1
      (answers (step fmt printFloat cfg layout) cycleInputs (setup cfg layout present o t₀) as) =
        some d.station :=
  exec_answers_of_forall (step_station fmt printFloat cfg layout) h

end Device

end SentinelEdge
