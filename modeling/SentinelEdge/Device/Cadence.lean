import SentinelEdge.Device.Interval

/-!
# The publish cadence

Whether its message gets through or not, a cycle is to run once per
`PUBLISH_INTERVAL_MS`, for as long as the node is up: at the first pass of `loop`, and
then at the first pass that comes an interval after the last cycle
(`SentinelEdge.Device.KeepsCadence`). `loop` decides it by a subtraction in 32 bits,
on a counter that turns over every 49.7 days.

The subtraction is exact while the last cycle is less than one turn of the counter
old, and that is what every pass leaves to the next: a pass either finds the last cycle
younger than the interval or runs a new one (`SentinelEdge.Device.CadenceInv`). So if no
two passes are too far apart, the cadence is kept for any uptime, through any number of
turns (`SentinelEdge.Device.keepsCadence_of_paced`).

One pass keeps no cadence, the last one: `loop` calls `netLoop` before it looks at the
clock, and a pass in which the watchdog restarts the device never gets to its cycle,
due or not (`SentinelEdge.Device.not_keepsCadence`).
-/

namespace SentinelEdge

open WrapClock LabelledRun

namespace Device

variable (fmt : NumberFormat) (printFloat : Binary32 → ℕ → List Char) (cfg : Tunables)
  (layout : OledLayout)

/-! ### The passes of a run -/

/-- The history of a device, with its last pass. -/
structure PassHistory extends History where
  /-- The last pass of `loop`. -/
  lastPass : Option ℕ

/-- How a step moves the history. -/
def PassHistory.upd (h : PassHistory) (d : Device) (a : DeviceAct cfg) (d' : Device) :
    PassHistory where
  toHistory := h.toHistory.upd cfg d a d'
  lastPass :=
    match a with
    | .loop _ => some d.net.clock
    | .net _ => h.lastPass

/-- The device with the history of its passes. -/
abbrev passing : Device × PassHistory → DeviceAct cfg → Option (Device × PassHistory) :=
  observe (step fmt printFloat cfg layout) (PassHistory.upd cfg)

/-- A run with its passes starts after `setup`. -/
def startPassing (present : Bool) (o : BeginOutcome) (t₀ : ℕ) : Device × PassHistory :=
  (setup cfg layout present o t₀, ⟨⟨none, none⟩, none⟩)

/-- **The passes come often enough**: less than `2 ^ 32 - PUBLISH_INTERVAL_MS`
milliseconds after the previous one. -/
def PassPaced (x : Device × PassHistory) (a : DeviceAct cfg) (_ : Device × PassHistory) : Prop :=
  match a with
  | .loop _ =>
    ∀ p ∈ x.2.lastPass, x.1.net.clock < p + (2 ^ 32 - cfg.publishIntervalMs.toNat)
  | .net _ => True

instance (x : Device × PassHistory) : ∀ (a : DeviceAct cfg) (y : Device × PassHistory),
    Decidable (PassPaced cfg x a y)
  | .loop _, _ =>
    inferInstanceAs (Decidable (∀ p ∈ x.2.lastPass, x.1.net.clock < p + (2 ^ 32 - _)))
  | .net _, _ => inferInstanceAs (Decidable True)

/-- The step runs a cycle. -/
def Runs (x y : Device × PassHistory) : Prop := y.1.cycles ≠ x.1.cycles

/-- **The cadence**: the first pass runs a cycle, and a later one does if and only if it
comes at least `PUBLISH_INTERVAL_MS` of true time after the last cycle. Nothing else
runs a cycle. -/
def KeepsCadence (x : Device × PassHistory) (a : DeviceAct cfg) (y : Device × PassHistory) :
    Prop :=
  match a with
  | .loop _ =>
    (x.2.lastPass = none → Runs x y) ∧
      (x.2.lastPass ≠ none → ∃ c ∈ x.2.lastCycle,
        (Runs x y ↔ c + cfg.publishIntervalMs.toNat ≤ x.1.net.clock))
  | .net _ => ¬Runs x y

/-- The cadence of a device that is up: a pass in which `netLoop` restarts it runs no
cycle. -/
def KeepsCadenceWhileUp (x : Device × PassHistory) (a : DeviceAct cfg)
    (y : Device × PassHistory) : Prop :=
  (y.1.net.restarted = false → KeepsCadence cfg x a y) ∧
    (y.1.net.restarted = true → ¬Runs x y)

instance (x y : Device × PassHistory) : Decidable (Runs x y) :=
  inferInstanceAs (Decidable (_ ≠ _))

instance (x : Device × PassHistory) : ∀ (a : DeviceAct cfg) (y : Device × PassHistory),
    Decidable (KeepsCadence cfg x a y)
  | .loop _, _ => inferInstanceAs (Decidable ((_ → _) ∧ (_ → ∃ c ∈ x.2.lastCycle, (_ ↔ _))))
  | .net _, _ => inferInstanceAs (Decidable ¬_)

/-! ### What a pass leaves to the next -/

/-- **What every pass leaves behind**, while the device is up: a last cycle that was
fresh at the pass. -/
structure CadenceInv (x : Device × PassHistory) : Prop where
  history : Inv cfg (x.1, x.2.toHistory)
  first : x.2.lastPass = none → x.2.lastCycle = none
  fresh : x.1.net.restarted = false → ∀ p ∈ x.2.lastPass, ∃ c ∈ x.2.lastCycle,
    Fresh cfg.publishIntervalMs.toNat c p

theorem cadenceInv_start (present : Bool) (o : BeginOutcome) (t₀ : ℕ) :
    CadenceInv cfg (startPassing cfg layout present o t₀) where
  history := inv_start cfg layout present o t₀
  first := fun _ => rfl
  fresh := fun _ p hp => by cases hp

variable {fmt printFloat cfg layout}

/-- **When the last cycle is less than a turn of the counter old**, the counter compares
with the interval as the true time does. -/
theorem due_iff_of_lt_turn {d : Device} {h : History} (hinv : Inv cfg (d, h))
    (hstays : (d.net.netLoop cfg).restarted = false) {c : ℕ} (hc : h.lastCycle = some c)
    (hturn : d.net.clock < c + 2 ^ 32) :
    Due cfg d ↔ c + cfg.publishIntervalMs.toNat ≤ d.net.clock := by
  obtain ⟨-, hle⟩ : _ ∧ c ≤ d.net.clock := hinv.stamped c hc
  have hmod : (d.net.clock - c) % 2 ^ 32 = d.net.clock - c := Nat.mod_eq_of_lt (by omega)
  have hdue : Due cfg d ↔ _ := and_iff_right hstays
  rw [hdue, due_iff hinv]
  constructor
  · intro hover
    have := hover c hc
    omega
  · rintro hover c' hc'
    obtain rfl : c = c' := Option.some.inj (hc.symm.trans hc')
    omega

section

variable {d : Device} {h : PassHistory} (hinv : CadenceInv cfg (d, h))
  (hup : d.net.restarted = false) (hstays : (d.net.netLoop cfg).restarted = false)
  (hpaced : ∀ q ∈ h.lastPass, d.net.clock < q + (2 ^ 32 - cfg.publishIntervalMs.toNat))

include hinv hstays

/-- At the first pass a cycle is due. -/
theorem CadenceInv.due_first (hfirst : h.lastPass = none) : Due cfg d := by
  refine ⟨hstays, (Device.due_iff hinv.history).mpr ?_⟩
  rintro c hc
  have hnone : h.lastCycle = none := hinv.first hfirst
  rw [hnone] at hc
  cases hc

include hup hpaced

/-- At a later pass that does not come too late, a cycle is due if and only if the
interval since the last one is over. -/
theorem CadenceInv.due_later (hlater : h.lastPass ≠ none) :
    ∃ c ∈ h.lastCycle, (Due cfg d ↔ c + cfg.publishIntervalMs.toNat ≤ d.net.clock) := by
  obtain ⟨q, hq⟩ := Option.ne_none_iff_exists'.mp hlater
  obtain ⟨c, hc, hfresh⟩ := hinv.fresh hup q hq
  have hturn : d.net.clock < c + 2 ^ 32 := hfresh.lt_turn (hpaced q hq)
  exact ⟨c, hc, due_iff_of_lt_turn hinv.history hstays hc hturn⟩

variable (p : Pass cfg)

/-- A pass in which the device stays up keeps the cadence. -/
theorem CadenceInv.keepsCadence (h' : PassHistory) :
    KeepsCadence cfg (d, h) (.loop p) (d.loop fmt printFloat cfg layout p, h') := by
  have hruns : Runs (d, h) (d.loop fmt printFloat cfg layout p, h') ↔ Due cfg d :=
    loop_runs_iff fmt printFloat cfg layout d p
  refine ⟨fun hfirst => ?_, fun hlater => ?_⟩
  · exact hruns.mpr (hinv.due_first hstays hfirst)
  · obtain ⟨c, hc, hdue⟩ := hinv.due_later hup hstays hpaced hlater
    exact ⟨c, hc, hruns.trans hdue⟩

/-- After a pass in which the device stays up the last cycle is fresh: it was run in
this very pass, or it is younger than the interval. -/
theorem CadenceInv.fresh_loop :
    ∃ c, (h.toHistory.upd cfg d (.loop p) (d.loop fmt printFloat cfg layout p)).lastCycle = some c ∧
      Fresh cfg.publishIntervalMs.toNat c d.net.clock := by
  by_cases hdue : Due cfg d
  · rw [History.upd_cycle _ p hdue]
    exact ⟨d.net.clock, rfl, fresh_self _ _⟩
  · have hlater : h.lastPass ≠ none := fun hfirst => hdue (hinv.due_first hstays hfirst)
    obtain ⟨c, hc, hdue'⟩ := hinv.due_later hup hstays hpaced hlater
    rw [History.upd_idle _ p hdue]
    exact ⟨c, hc, Or.inl (Nat.lt_of_not_le fun hover => hdue (hdue'.mpr hover))⟩

end

/-- **The step lemma**: a pass that does not come too late keeps the cadence while the
device is up, and every step keeps the invariant. -/
theorem cadence_step (d : Device) (h : PassHistory) (a : DeviceAct cfg) (d' : Device)
    (hinv : CadenceInv cfg (d, h)) (hs : step fmt printFloat cfg layout d a = some d')
    (hpaced : PassPaced cfg (d, h) a (d', h.upd cfg d a d')) :
    CadenceInv cfg (d', h.upd cfg d a d') ∧
      KeepsCadenceWhileUp cfg (d, h) a (d', h.upd cfg d a d') := by
  have hhist := inv_step d h.toHistory a d' hinv.history hs
  have hup := running_of_step fmt printFloat cfg layout hs
  rcases step_cases fmt printFloat cfg layout hs with ⟨a', net', rfl, hnet, rfl⟩ | ⟨p, rfl, rfl⟩
  · have hkept : h.upd cfg d (.net a') { d with net := net' } = h := by
      rw [PassHistory.upd, History.upd_net]
    have hidle : ¬Runs (d, h) ({ d with net := net' }, h) := fun hruns => hruns rfl
    rw [History.upd_net] at hhist
    rw [hkept]
    exact ⟨⟨hhist, hinv.first, fun _ => hinv.fresh hup⟩, fun _ => hidle, fun _ => hidle⟩
  · have hnet := loop_net fmt printFloat cfg layout d p
    rcases hstays : (d.net.netLoop cfg).restarted with _ | _
    · have hrunning : (d.loop fmt printFloat cfg layout p).net.restarted ≠ true := by
        rw [hnet, hstays]
        exact Bool.false_ne_true
      refine ⟨⟨hhist, fun hfirst => ?_, fun _ q hq => ?_⟩,
        fun _ => hinv.keepsCadence hup hstays hpaced p _, fun hdown => absurd hdown hrunning⟩
      · cases hfirst
      · obtain rfl : d.net.clock = q := Option.some.inj hq
        exact hinv.fresh_loop hup hstays hpaced p
    · -- `netLoop` does not return, and there is no next pass
      have hdown : (d.loop fmt printFloat cfg layout p).net.restarted ≠ false := by
        rw [hnet, hstays]
        exact Bool.false_ne_true.symm
      have hnotdue : ¬Due cfg d := fun hdue => by
        rw [hdue.1] at hstays
        cases hstays
      refine ⟨⟨hhist, fun hfirst => ?_, fun hrunning => absurd hrunning hdown⟩,
        fun hrunning => absurd hrunning hdown,
        fun _ => mt (loop_runs_iff fmt printFloat cfg layout d p).mp hnotdue⟩
      cases hfirst

/-- **The publish cadence for any uptime.** In every run whose passes come often enough,
while the device is up the first pass runs a cycle, and every later one does if and only
if `PUBLISH_INTERVAL_MS` of true time has passed since the last cycle. -/
theorem keepsCadence_of_paced (fmt : NumberFormat) (printFloat : Binary32 → ℕ → List Char)
    (cfg : Tunables) (layout : OledLayout) (present : Bool) (o : BeginOutcome) (t₀ : ℕ)
    (as : List (DeviceAct cfg))
    (hpaced : Along (passing fmt printFloat cfg layout) (PassPaced cfg)
      (startPassing cfg layout present o t₀) as) :
    Along (passing fmt printFloat cfg layout) (KeepsCadenceWhileUp cfg)
      (startPassing cfg layout present o t₀) as :=
  along_observe_of_inv (J := CadenceInv cfg) cadence_step (cadenceInv_start cfg layout present o t₀)
    hpaced

/-- Passes across a wrap of the counter: the second one comes a millisecond before the
interval is over, the third one when it is. -/
def runPassesAcrossWrap : List (DeviceAct configH) :=
  [.loop roomPass, .net (.tick 59999), .loop roomPass, .net (.tick 1), .loop roomPass]

theorem keepsCadence_across_wrap :
    exec (step roomFormat Station.roomPrint configH layout64)
        (setup configH layout64 true Station.ahtOnly (2 ^ 32 - 30000)) runPassesAcrossWrap ≠ none ∧
      Along (passing roomFormat Station.roomPrint configH layout64)
        (KeepsCadenceWhileUp configH)
        (startPassing configH layout64 true Station.ahtOnly (2 ^ 32 - 30000)) runPassesAcrossWrap :=
  ⟨by decide +kernel, keepsCadence_of_paced _ _ _ _ _ _ _ _ (by decide +kernel)⟩

/-- A node that never gets through: a pass a minute, the first one right after
`netBegin`. -/
def runOffline : List (DeviceAct configH) :=
  (List.replicate 5 [.loop roomPass, .net (.tick 60000)]).flatten ++ [.loop roomPass]

/-- **The last pass of an offline node keeps no cadence**: the sixth cycle is due at the
pass in which `netLoop` restarts the device, and is not run. -/
theorem not_keepsCadence :
    ¬∀ (fmt : NumberFormat) (printFloat : Binary32 → ℕ → List Char) (cfg : Tunables)
        (layout : OledLayout) (present : Bool) (o : BeginOutcome) (t₀ : ℕ)
        (as : List (DeviceAct cfg)),
      Along (passing fmt printFloat cfg layout) (PassPaced cfg)
          (startPassing cfg layout present o t₀) as →
        Along (passing fmt printFloat cfg layout) (KeepsCadence cfg)
          (startPassing cfg layout present o t₀) as :=
  fun h => absurd
    (h roomFormat Station.roomPrint configH layout64 true Station.ahtOnly 2000 runOffline
      (by decide +kernel))
    (by decide +kernel)

end Device

end SentinelEdge
