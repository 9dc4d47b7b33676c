import SentinelEdge.Library.Binary32

/-!
# The sensors

`src/sensors.cpp`: an AHT20 for temperature and humidity and a BMP280 for pressure,
behind `SentinelEdge.sensorsBegin` and `SentinelEdge.sensorsRead`.

The drivers are not part of the firmware. What they answer is an input of the model:
`SentinelEdge.BeginOutcome` for the initialization and `SentinelEdge.EventRead` for
one `getEvent`, which either succeeds and writes the value into the event struct, or
fails and leaves in it what the memory held before. The struct is an uninitialized
local variable, so nothing is known of that.

What the firmware should report is `SentinelEdge.measured`: the value of a read that
succeeded, if it is a number within the bounds. `sensorsRead` does not look at the
answer of `getEvent`, and reports a plausible leftover of a failed read as well
(`SentinelEdge.reported_eq_measured`,
`SentinelEdge.reported_of_not_leftoverRejected`).
-/

namespace SentinelEdge

/-! ### What is measured -/

/-- The three quantities. -/
inductive Quantity where
  | temperature
  | humidity
  | pressure
  deriving DecidableEq

namespace Quantity

/-- `TEMP_MIN_C`, `HUMIDITY_MIN` and `PRESSURE_MIN_H`, as the compiler stores
them. -/
def minValue : Quantity → Binary32
  | temperature => ⟨0xC2200000⟩
  | humidity => ⟨0x00000000⟩
  | pressure => ⟨0x43960000⟩

/-- `TEMP_MAX_C`, `HUMIDITY_MAX` and `PRESSURE_MAX_H`, as the compiler stores
them. -/
def maxValue : Quantity → Binary32
  | temperature => ⟨0x42AA0000⟩
  | humidity => ⟨0x42C80000⟩
  | pressure => ⟨0x44898000⟩

/-- The least plausible value. -/
def lowest : Quantity → ℤ
  | temperature => -40
  | humidity => 0
  | pressure => 300

/-- The greatest plausible value. -/
def highest : Quantity → ℤ
  | temperature => 85
  | humidity => 100
  | pressure => 1100

/-- The stored bounds are numbers, and the ones that the header names. -/
theorem bounds (q : Quantity) :
    (q.minValue.isNaN = false ∧ q.minValue.units = q.lowest * Binary32.one) ∧
      q.maxValue.isNaN = false ∧ q.maxValue.units = q.highest * Binary32.one := by
  cases q <;> decide

end Quantity

/-- `plausible`. -/
def isPlausible (value minValue maxValue : Binary32) : Bool :=
  !value.isNaN && minValue.le value && value.le maxValue

/-- A value passes the check of its quantity exactly when it is a number within the
bounds. -/
theorem isPlausible_iff (q : Quantity) (v : Binary32) :
    isPlausible v q.minValue q.maxValue = true ↔
      v.isNaN = false ∧ q.lowest * Binary32.one ≤ v.units ∧
        v.units ≤ q.highest * Binary32.one := by
  obtain ⟨⟨hmin, hlow⟩, hmax, hhigh⟩ := q.bounds
  rw [← hlow, ← hhigh, isPlausible, Bool.and_eq_true, Bool.and_eq_true, Binary32.le_iff,
    Binary32.le_iff, Bool.not_eq_true']
  constructor
  · rintro ⟨⟨hv, -, -, hle⟩, -, -, hge⟩
    exact ⟨hv, hle, hge⟩
  · rintro ⟨hv, hle, hge⟩
    exact ⟨⟨hv, hmin, hv, hle⟩, hv, hmax, hge⟩

/-! ### Initialization -/

/-- What the drivers answer when they are initialized. -/
structure BeginOutcome where
  /-- The answer of `aht.begin`. -/
  ahtBegin : Bool
  /-- Whether `aht.getTemperatureSensor` is not null. -/
  ahtTemp : Bool
  /-- Whether `aht.getHumiditySensor` is not null. -/
  ahtHumidity : Bool
  /-- The answer of `bmp.begin`. -/
  bmpBegin : Bool
  /-- Whether `bmp.getPressureSensor` is not null. -/
  bmpPressure : Bool

/-- The state of `src/sensors.cpp`. The sensor pointers are not null when the flags
are set, and not used otherwise. -/
structure Sensors where
  /-- `ahtReady`. -/
  ahtReady : Bool
  /-- `bmpReady`. -/
  bmpReady : Bool

/-- Whether the sensor of a quantity was initialized. -/
def Sensors.ready (s : Sensors) : Quantity → Bool
  | .temperature | .humidity => s.ahtReady
  | .pressure => s.bmpReady

/-- `beginAht`. -/
def beginAht (o : BeginOutcome) : Bool :=
  if !o.ahtBegin then false else o.ahtTemp && o.ahtHumidity

/-- `beginBmp`. -/
def beginBmp (o : BeginOutcome) : Bool := if !o.bmpBegin then false else o.bmpPressure

/-- `sensorsBegin`: the flags, and whether any sensor responded. -/
def sensorsBegin (o : BeginOutcome) : Sensors × Bool :=
  let s : Sensors := ⟨beginAht o, beginBmp o⟩
  (s, s.ahtReady || s.bmpReady)

/-! ### Reading -/

/-- One `getEvent` of a driver: the value it wrote, if it succeeded, and what the
field held before. -/
structure EventRead where
  /-- The value written; `none` if the read failed. -/
  outcome : Option Binary32
  /-- The field before the call. -/
  memory : Binary32

/-- The field after the call. -/
def EventRead.getEvent (r : EventRead) : Binary32 := r.outcome.getD r.memory

theorem EventRead.getEvent_of_none {r : EventRead} (h : r.outcome = none) :
    r.getEvent = r.memory := by
  rw [getEvent, h]
  rfl

theorem EventRead.getEvent_of_some {r : EventRead} {v : Binary32} (h : r.outcome = some v) :
    r.getEvent = v := by
  rw [getEvent, h]
  rfl

/-- The driver reads of one cycle. -/
structure Reads where
  /-- `ahtTemp->getEvent`. -/
  temperature : EventRead
  /-- `ahtHumidity->getEvent`. -/
  humidity : EventRead
  /-- `bmpPressure->getEvent`. -/
  pressure : EventRead

/-- The read of a quantity. -/
def Reads.of (r : Reads) : Quantity → EventRead
  | .temperature => r.temperature
  | .humidity => r.humidity
  | .pressure => r.pressure

/-- `Readings`: a sample. Each field is only meaningful when its flag is set. -/
structure Readings where
  temperatureC : Binary32 := ⟨0⟩
  humidityPct : Binary32 := ⟨0⟩
  pressureHPa : Binary32 := ⟨0⟩
  temperatureValid : Bool := false
  humidityValid : Bool := false
  pressureValid : Bool := false

/-- `Readings::any`. -/
def Readings.any (r : Readings) : Bool := r.temperatureValid || r.humidityValid || r.pressureValid

/-- The value of a quantity, if its flag is set. -/
def Readings.reported (r : Readings) : Quantity → Option Binary32
  | .temperature => if r.temperatureValid then some r.temperatureC else none
  | .humidity => if r.humidityValid then some r.humidityPct else none
  | .pressure => if r.pressureValid then some r.pressureHPa else none

/-- There is something to publish exactly when some quantity is reported. -/
theorem Readings.any_eq_false_iff (r : Readings) :
    r.any = false ↔ ∀ q, r.reported q = none := by
  constructor
  · intro h q
    simp only [Readings.any, Bool.or_eq_false_iff] at h
    obtain ⟨⟨ht, hh⟩, hp⟩ := h
    cases q <;> simp [Readings.reported, ht, hh, hp]
  · intro h
    have ht := h .temperature
    have hh := h .humidity
    have hp := h .pressure
    simp only [Readings.reported, ite_eq_right_iff, reduceCtorEq, imp_false, Bool.not_eq_true]
      at ht hh hp
    simp [Readings.any, ht, hh, hp]

/-- `sensorsRead`. -/
def sensorsRead (s : Sensors) (r : Reads) : Readings :=
  let sample : Readings := {}
  let sample :=
    if s.ahtReady then
      -- the drivers' answers are not looked at
      let tempEvent := r.temperature.getEvent
      let humidityEvent := r.humidity.getEvent
      { sample with
        temperatureC := tempEvent
        temperatureValid :=
          isPlausible tempEvent Quantity.temperature.minValue Quantity.temperature.maxValue
        humidityPct := humidityEvent
        humidityValid :=
          isPlausible humidityEvent Quantity.humidity.minValue Quantity.humidity.maxValue }
    else sample
  if s.bmpReady then
    let pressureEvent := r.pressure.getEvent
    { sample with
      pressureHPa := pressureEvent
      pressureValid :=
        isPlausible pressureEvent Quantity.pressure.minValue Quantity.pressure.maxValue }
  else sample

/-- **What `sensorsRead` reports** of a quantity: what the event struct holds, if the
sensor was initialized and that is plausible. -/
theorem reported_sensorsRead (s : Sensors) (r : Reads) (q : Quantity) :
    (sensorsRead s r).reported q =
      if s.ready q = true ∧ isPlausible (r.of q).getEvent q.minValue q.maxValue = true then
        some (r.of q).getEvent
      else none := by
  cases q <;> cases haht : s.ahtReady <;> cases hbmp : s.bmpReady <;>
    simp [sensorsRead, Readings.reported, Sensors.ready, Reads.of, haht, hbmp]

/-! ### What should be reported -/

/-- **What was measured** of a quantity in a cycle: the value read, if its sensor was
initialized, the read succeeded, and the value is a number within the bounds. -/
def measured (s : Sensors) (r : Reads) (q : Quantity) : Option Binary32 :=
  match (r.of q).outcome with
  | some v =>
    if s.ready q = true ∧ v.isNaN = false ∧ q.lowest * Binary32.one ≤ v.units ∧
        v.units ≤ q.highest * Binary32.one then some v
    else none
  | none => none

/-- A failed read of an initialized sensor leaves in the event struct something
implausible. -/
def LeftoverRejected (s : Sensors) (r : Reads) (q : Quantity) : Prop :=
  s.ready q = true → (r.of q).outcome = none →
    isPlausible (r.of q).memory q.minValue q.maxValue = false

instance (s : Sensors) (r : Reads) (q : Quantity) : Decidable (LeftoverRejected s r q) :=
  inferInstanceAs (Decidable (_ → _ → _))

variable {s : Sensors} {r : Reads} {q : Quantity}

/-- **If a failed read leaves something implausible**, what is reported of the quantity
is what was measured. -/
theorem reported_eq_measured (h : LeftoverRejected s r q) :
    (sensorsRead s r).reported q = measured s r q := by
  rw [reported_sensorsRead, measured]
  cases hread : (r.of q).outcome with
  | none =>
    rw [EventRead.getEvent_of_none hread]
    refine if_neg ?_
    rintro ⟨hready, hpass⟩
    rw [h hready hread] at hpass
    cases hpass
  | some v =>
    simp only [EventRead.getEvent_of_some hread, isPlausible_iff]

/-- **If a failed read leaves something plausible**, the quantity is reported and was
not measured. -/
theorem reported_of_not_leftoverRejected (h : ¬LeftoverRejected s r q) :
    (sensorsRead s r).reported q = some (r.of q).memory ∧ measured s r q = none := by
  simp only [LeftoverRejected, Classical.not_imp, Bool.not_eq_false] at h
  obtain ⟨hready, hread, hpass⟩ := h
  constructor
  · rw [reported_sensorsRead, EventRead.getEvent_of_none hread]
    exact if_pos ⟨hready, hpass⟩
  · rw [measured, hread]

end SentinelEdge
