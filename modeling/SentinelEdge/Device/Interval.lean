import SentinelEdge.Device

/-!
# The publish interval

A node publishes once per `PUBLISH_INTERVAL_MS`. `loop` notes the time of a cycle in
`lastPublishMs`, and does so *before* it tries to publish: a cycle whose message is
dropped, because the client is not connected, has used up the interval all the same.
It should not: a message that is owed should go out at the first pass that finds
everything it needs (`SentinelEdge.Device.MadeUp`). The first pass after boot always
comes too early for the client, so on every boot the first message is a whole interval
late (`SentinelEdge.Device.not_madeUp`).

The history of a device is when it last ran a cycle and when it last queued a message
(`SentinelEdge.Device.History`). A pass runs a cycle unless the counter shows the
interval to be running (`SentinelEdge.Device.due_iff`), and two cycles are at least an
interval apart, so what has gone wrong when a message is owed and not queued can be
read off the history: the last cycle queued nothing, or the counter has wrapped since.
Along every run, every message that is owed is made up at once exactly when neither
happens at a pass that is ready (`SentinelEdge.Device.madeUp_iff`).
-/

namespace SentinelEdge

open WrapClock LabelledRun

namespace Device

variable (fmt : NumberFormat) (printFloat : Binary32 → ℕ → List Char) (cfg : Tunables)
  (layout : OledLayout)

/-! ### The history of a device -/

/-- The history of a device, in true time. -/
structure History where
  /-- The last cycle. -/
  lastCycle : Option ℕ
  /-- The last pass that queued a message. -/
  lastQueued : Option ℕ

/-- How a step moves the history. -/
def History.upd (h : History) (d : Device) (_ : DeviceAct cfg) (d' : Device) : History where
  lastCycle := if d'.cycles ≠ d.cycles then some d.net.clock else h.lastCycle
  lastQueued :=
    if d'.outbox.queued.length ≠ d.outbox.queued.length then some d.net.clock
    else h.lastQueued

/-- The device with its history. -/
abbrev recorded : Device × History → DeviceAct cfg → Option (Device × History) :=
  observe (step fmt printFloat cfg layout) (History.upd cfg)

/-- A run with its history starts after `setup`. -/
def start (present : Bool) (o : BeginOutcome) (t₀ : ℕ) : Device × History :=
  (setup cfg layout present o t₀, ⟨none, none⟩)

/-- A message is owed: none has been queued since boot, or the last one at least
`PUBLISH_INTERVAL_MS` ago. -/
def Owed (d : Device) (h : History) : Prop :=
  ∀ q ∈ h.lastQueued, q + cfg.publishIntervalMs.toNat ≤ d.net.clock

instance (d : Device) (h : History) : Decidable (Owed cfg d h) :=
  inferInstanceAs (Decidable (∀ q ∈ h.lastQueued, _ ≤ d.net.clock))

/-- **What is owed is made up**: a pass that finds everything a message needs queues
one, if one is owed. -/
def MadeUp (x : Device × History) (a : DeviceAct cfg) (y : Device × History) : Prop :=
  match a with
  | .loop p =>
    Ready cfg x.1 p → Owed cfg x.1 x.2 →
      y.1.outbox.queued.length ≠ x.1.outbox.queued.length
  | .net _ => True

/-- **No ready pass is wasted**: when a pass finds everything a message needs and the
counter shows less than `PUBLISH_INTERVAL_MS` since the last cycle, that cycle queued a
message, and was less than a turn of the counter ago. -/
def NotWasted (x : Device × History) (a : DeviceAct cfg) (_ : Device × History) : Prop :=
  match a with
  | .loop p =>
    Ready cfg x.1 p → ∀ c ∈ x.2.lastCycle,
      (x.1.net.clock - c) % 2 ^ 32 < cfg.publishIntervalMs.toNat →
        x.2.lastQueued = some c ∧ x.1.net.clock < c + 2 ^ 32
  | .net _ => True

instance (x : Device × History) : ∀ (a : DeviceAct cfg) (y : Device × History),
    Decidable (MadeUp cfg x a y)
  | .loop _, _ => inferInstanceAs (Decidable (_ → _ → _))
  | .net _, _ => inferInstanceAs (Decidable True)

/-! ### What the counter shows -/

/-- **The history and the variables of `loop`** agree, and two cycles that matter are
an interval apart: the last one, and the last one that queued a message. -/
structure Inv (x : Device × History) : Prop where
  first : x.1.firstPublish = true ↔ x.2.lastCycle = none
  stamped : ∀ c ∈ x.2.lastCycle, x.1.lastPublishMs = stamp c ∧ c ≤ x.1.net.clock
  apart : ∀ q ∈ x.2.lastQueued, ∃ c ∈ x.2.lastCycle,
    q = c ∨ q + cfg.publishIntervalMs.toNat ≤ c

theorem inv_start (present : Bool) (o : BeginOutcome) (t₀ : ℕ) :
    Inv cfg (start cfg layout present o t₀) where
  first := by simp [start, setup]
  stamped := fun c hc => by cases hc
  apart := fun q hq => by cases hq

variable {fmt printFloat cfg layout}

/-- **When the interval is over**: a pass that is not kept from it by `netLoop` runs a
cycle unless the counter shows less than the interval since the last one. -/
theorem due_iff {d : Device} {h : History} (hinv : Inv cfg (d, h)) :
    (d.firstPublish = false → cfg.publishIntervalMs ≤ stamp d.net.clock - d.lastPublishMs) ↔
      ∀ c ∈ h.lastCycle, cfg.publishIntervalMs.toNat ≤ (d.net.clock - c) % 2 ^ 32 := by
  have hfirst : d.firstPublish = true ↔ h.lastCycle = none := hinv.first
  cases hlast : h.lastCycle with
  | none =>
    have : d.firstPublish = true := hfirst.mpr hlast
    simp [this]
  | some c =>
    obtain ⟨hstamp, hle⟩ : d.lastPublishMs = stamp c ∧ c ≤ d.net.clock :=
      hinv.stamped c hlast
    have hnotfirst : d.firstPublish = false := by
      rw [Bool.eq_false_iff]
      intro htrue
      rw [hfirst.mp htrue] at hlast
      cases hlast
    rw [hstamp, UInt32.le_iff_toNat_le, toNat_stamp_sub_mod hle]
    simp [hnotfirst]

/-- The interval that a due pass finds over is over in true time as well. -/
theorem le_of_due {d : Device} {h : History} (hinv : Inv cfg (d, h)) (hdue : Due cfg d)
    {c : ℕ} (hc : h.lastCycle = some c) : c + cfg.publishIntervalMs.toNat ≤ d.net.clock := by
  obtain ⟨-, hle⟩ : _ ∧ c ≤ d.net.clock := hinv.stamped c hc
  have hmod := (due_iff hinv).mp hdue.2 c hc
  have := Nat.mod_le (d.net.clock - c) (2 ^ 32)
  omega

/-! ### One step -/

/-- What the network does is not part of the history. -/
theorem History.upd_net (h : History) (d : Device) (a : Net.Act) (net : Net) :
    h.upd cfg d (.net a) { d with net := net } = h := by
  simp [History.upd]

/-- A pass that is not due leaves the history as it is. -/
theorem History.upd_idle (h : History) {d : Device} (p : Pass cfg) (hdue : ¬Due cfg d) :
    h.upd cfg d (.loop p) (d.loop fmt printFloat cfg layout p) = h := by
  rw [loop_eq, if_neg hdue]
  simp [History.upd]

/-- A cycle is the last one from then on, and if it queues a message then so is that. -/
theorem History.upd_cycle (h : History) {d : Device} (p : Pass cfg) (hdue : Due cfg d) :
    h.upd cfg d (.loop p) (d.loop fmt printFloat cfg layout p) =
      ⟨some d.net.clock, if Ready cfg d p then some d.net.clock else h.lastQueued⟩ := by
  have hcycles := (loop_runs_iff fmt printFloat cfg layout d p).mpr hdue
  have hqueues := loop_queues_iff fmt printFloat cfg layout d p
  rw [History.upd, if_pos hcycles]
  simp only [hqueues, hdue, true_and]

/-- A pass that is not due keeps the invariant, and so does the network. -/
theorem Inv.later {d d' : Device} {h : History} (hinv : Inv cfg (d, h))
    (hfirst : d'.firstPublish = d.firstPublish) (hlast : d'.lastPublishMs = d.lastPublishMs)
    (hclock : d.net.clock ≤ d'.net.clock) : Inv cfg (d', h) where
  first := by
    show d'.firstPublish = true ↔ _
    rw [hfirst]
    exact hinv.first
  stamped := fun c hc => by
    obtain ⟨hstamp, hle⟩ := hinv.stamped c hc
    exact ⟨hlast.trans hstamp, Nat.le_trans hle hclock⟩
  apart := hinv.apart

/-- A cycle keeps the invariant: it is an interval later than the last one, and so than
the last message. -/
theorem Inv.cycle {d : Device} {h : History} {p : Pass cfg} (hinv : Inv cfg (d, h))
    (hdue : Due cfg d) :
    Inv cfg (d.loop fmt printFloat cfg layout p,
      ⟨some d.net.clock, if Ready cfg d p then some d.net.clock else h.lastQueued⟩) := by
  have hloop := loop_eq fmt printFloat cfg layout d p
  rw [if_pos hdue] at hloop
  rw [hloop]
  refine ⟨⟨fun hfirst => ?_, fun hnone => by cases hnone⟩, ?_, ?_⟩
  · cases hfirst
  · rintro c hc
    obtain rfl : d.net.clock = c := Option.some.inj hc
    exact ⟨rfl, Nat.le_refl _⟩
  · intro q hq
    refine ⟨d.net.clock, rfl, ?_⟩
    by_cases hready : Ready cfg d p
    · left
      simp only [if_pos hready] at hq
      exact (Option.some.inj hq).symm
    · right
      simp only [if_neg hready] at hq
      obtain ⟨c, hc, hqc⟩ := hinv.apart q hq
      have hover := le_of_due hinv hdue hc
      rcases hqc with rfl | hqc <;> omega

/-- **The step lemma.** -/
theorem inv_step (d : Device) (h : History) (a : DeviceAct cfg) (d' : Device)
    (hinv : Inv cfg (d, h)) (hs : step fmt printFloat cfg layout d a = some d') :
    Inv cfg (d', h.upd cfg d a d') := by
  rcases step_cases fmt printFloat cfg layout hs with ⟨a', net', rfl, hnet, rfl⟩ | ⟨p, rfl, rfl⟩
  · rw [History.upd_net]
    exact hinv.later rfl rfl (clock_le_of_net cfg hnet)
  · by_cases hdue : Due cfg d
    · rw [History.upd_cycle h p hdue]
      exact hinv.cycle hdue
    · rw [History.upd_idle h p hdue, loop_eq, if_neg hdue]
      exact hinv.later rfl rfl (Nat.le_refl _)

/-- At a single step, a message that is owed to a ready pass is queued if and only if
the pass is not wasted. -/
theorem madeUp_step (d : Device) (h : History) (a : DeviceAct cfg) (d' : Device)
    (hinv : Inv cfg (d, h)) (hs : step fmt printFloat cfg layout d a = some d') :
    NotWasted cfg (d, h) a (d', h.upd cfg d a d') ↔
      MadeUp cfg (d, h) a (d', h.upd cfg d a d') := by
  rcases step_cases fmt printFloat cfg layout hs with ⟨a', net', rfl, hnet, rfl⟩ | ⟨p, rfl, rfl⟩
  · exact Iff.rfl
  · refine imp_congr_right fun hready => ?_
    show (∀ c ∈ h.lastCycle, (d.net.clock - c) % 2 ^ 32 < cfg.publishIntervalMs.toNat →
        h.lastQueued = some c ∧ d.net.clock < c + 2 ^ 32) ↔
      (Owed cfg d h → (d.loop fmt printFloat cfg layout p).outbox.queued.length ≠ _)
    rw [loop_queues_iff, and_iff_left hready, due_of_ready cfg hready, due_iff hinv]
    have hle : cfg.publishIntervalMs.toNat < 2 ^ 32 := cfg.publishIntervalMs.toNat_lt
    constructor
    · intro hwasted howed c hc
      -- the interval is running, so the last cycle queued what is not owed yet
      by_contra hrunning
      obtain ⟨hqueued, hturn⟩ := hwasted c hc (by omega)
      have hold := howed c hqueued
      have hmod : (d.net.clock - c) % 2 ^ 32 = d.net.clock - c := Nat.mod_eq_of_lt (by omega)
      omega
    · intro hmade c hc hrunning
      have hnotowed : ¬Owed cfg d h := fun howed => absurd (hmade howed c hc) (by omega)
      simp only [Owed, Option.mem_def, not_forall] at hnotowed
      obtain ⟨q, hq, hyoung⟩ := hnotowed
      obtain ⟨c', hc', hqc⟩ := hinv.apart q hq
      obtain rfl : c = c' := Option.some.inj (hc.symm.trans hc')
      have hpast : c ≤ d.net.clock := (hinv.stamped c hc).2
      rcases hqc with rfl | hqc
      · exact ⟨hq, by omega⟩
      · omega

/-- **The exact condition**: along every run of `setup` and `loop`, with the network
acting as it likes, every pass that finds everything a message needs queues one if one
is owed, if and only if no ready pass is wasted. -/
theorem madeUp_iff (fmt : NumberFormat) (printFloat : Binary32 → ℕ → List Char) (cfg : Tunables)
    (layout : OledLayout) (present : Bool) (o : BeginOutcome) (t₀ : ℕ)
    (as : List (DeviceAct cfg)) :
    Along (recorded fmt printFloat cfg layout) (MadeUp cfg) (start cfg layout present o t₀) as ↔
      Along (recorded fmt printFloat cfg layout) (NotWasted cfg)
        (start cfg layout present o t₀) as :=
  (along_observe_iff_of_inv (J := Inv cfg)
    (fun d h a d' hinv hs _ => inv_step d h a d' hinv hs) madeUp_step
    (inv_start cfg layout present o t₀) as).symm

/-- A pass that finds plenty of memory and 21.5 degrees. -/
def roomPass : Pass configH := ⟨Station.roomCycle, 100000⟩

/-- A boot: the first pass comes before the client is connected, the second one right
after. -/
def runBoot : List (DeviceAct configH) :=
  [.loop roomPass, .net (.link true true), .net .deliver, .net (.tick 3000), .net .mqttConnect,
    .net (.tick 1), .loop roomPass]

/-- **A dropped cycle is not always made up**: on every boot the first message is
dropped, and the first pass after the connection is there queues none. -/
theorem not_madeUp :
    ¬∀ (fmt : NumberFormat) (printFloat : Binary32 → ℕ → List Char) (cfg : Tunables)
        (layout : OledLayout) (present : Bool) (o : BeginOutcome) (t₀ : ℕ)
        (as : List (DeviceAct cfg)),
      Along (recorded fmt printFloat cfg layout) (MadeUp cfg)
        (start cfg layout present o t₀) as :=
  fun h => absurd
    (h roomFormat Station.roomPrint configH layout64 true Station.ahtOnly 2000 runBoot)
    (by decide +kernel)

end Device

end SentinelEdge
