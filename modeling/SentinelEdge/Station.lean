import SentinelEdge.Display
import SentinelEdge.Library.Run
import SentinelEdge.Publish

/-!
# From the sensors to the payload and the panel

One pass of the main loop that is due runs a *cycle*: it reads the sensors, shows the
sample on the panel and publishes it. This file composes the three
(`SentinelEdge.Station.cycle`), after the part of `setup` that initializes the sensors
and the panel, and asks what arrives at the ends: what a consumer reads under the keys
of the payload (`SentinelEdge.keyed`), and what the panel shows.

It should be what was measured, in every cycle
(`SentinelEdge.Station.Intact`). It is not: a sensor that fails after a successful
boot leaves whatever the stack held, and that is published when it is plausible
(`SentinelEdge.Station.not_intact`). Along any sequence of cycles everything that
arrives was measured exactly when no failed read leaves a plausible value
(`SentinelEdge.Station.intact_iff`).
-/

namespace SentinelEdge

open LabelledRun

/-- What a consumer finds under the key of a quantity in the payload that was handed
on: nothing if nothing was handed on, or if it cannot be read. -/
def keyed (handed : Option (List Char)) (q : Quantity) : Option (List Char) :=
  ((received handed).bind FlatJson.parse).bind fun ms => ms.lookup q.key

/-- **The consumer finds what the sample reports**, when the payload fits. -/
theorem keyed_publishReadings (fmt : NumberFormat) (cfg : Tunables) (r : Readings)
    (junk : List.Vector Char cfg.telemetryPayloadMax)
    (hfit : (jsonText fmt r).length < cfg.telemetryPayloadMax) (q : Quantity) :
    keyed (publishReadings fmt cfg r junk) q = (r.reported q).map fmt.numeral := by
  cases hany : r.any with
  | false =>
    rw [publishReadings_none fmt cfg hany, (r.any_eq_false_iff.mp hany) q]
    rfl
  | true =>
    rw [keyed, received_publishReadings fmt cfg hany junk hfit, Option.bind_some, parse_jsonText,
      Option.bind_some, lookup_members]

/-- The sensors, the panel, and what the last cycle handed to
`netPublishTelemetry`. -/
structure Station where
  /-- The state of `src/sensors.cpp`. -/
  sensors : Sensors
  /-- The state of `src/display_ui.cpp`. -/
  panel : Panel
  /-- The buffer of the last cycle, if it was handed on. -/
  handed : Option (List Char)

/-- What a cycle finds: the answers of the drivers, and the payload buffer as it was
before. -/
structure CycleInput (cfg : Tunables) where
  /-- The driver reads. -/
  reads : Reads
  /-- The buffer on the stack. -/
  junk : List.Vector Char cfg.telemetryPayloadMax

namespace Station

variable (fmt : NumberFormat) (printFloat : Binary32 → ℕ → List Char) (cfg : Tunables)
  (layout : OledLayout)

/-- `setup`, up to `netBegin`: whether the panel is present and what the sensor drivers
answer is given. Without any sensor the device restarts. -/
def setup (present : Bool) (o : BeginOutcome) : Station × Bool :=
  let panel := displayBegin present
  let panel := displayShowStatus layout panel "Booting...".toList
  let r := sensorsBegin o
  -- without a sensor the device restarts after a while
  if !r.2 then
    ({ sensors := r.1, panel := displayShowStatus layout panel "No sensors!".toList,
       handed := none }, false)
  else
    ({ sensors := r.1, panel := displayShowStatus layout panel "Connecting...".toList,
       handed := none }, true)

/-- The part of `loop` that runs when a cycle is due. -/
def cycle (x : Station) (i : CycleInput cfg) : Station :=
  let readings := sensorsRead x.sensors i.reads
  { x with
    panel := displayShowReadings printFloat layout x.panel readings
    handed := publishReadings fmt cfg readings i.junk }

/-- One cycle, as a step. -/
def step (x : Station) (i : CycleInput cfg) : Option Station :=
  some (cycle fmt printFloat cfg layout x i)

/-- **What arrives is what was measured** in the cycle, given the sensors that were
initialized: the payload has a key for exactly the quantities measured, with the value
read under it; nothing is handed on if none was measured; and the panel, if there is
one, shows the values measured, and `--` for the others. -/
def Intact (s : Sensors) (_ : Station) (i : CycleInput cfg) (y : Station) : Prop :=
  (∀ q, keyed y.handed q = (measured s i.reads q).map fmt.numeral) ∧
    ((∀ q, measured s i.reads q = none) → y.handed = none) ∧
    (y.panel.present = true →
      y.panel.shown =
        [lineOf printFloat layout .pressure (measured s i.reads .pressure),
          lineOf printFloat layout .humidity (measured s i.reads .humidity),
          lineOf printFloat layout .temperature (measured s i.reads .temperature)])

/-- No failed read of the cycle leaves something plausible. -/
def LeftoversRejected (s : Sensors) (_ : Station) (i : CycleInput cfg) (_ : Station) : Prop :=
  ∀ q, LeftoverRejected s i.reads q

theorem setup_sensors (present : Bool) (o : BeginOutcome) :
    (setup layout present o).1.sensors = (sensorsBegin o).1 := by
  rw [setup]
  split <;> rfl

variable {fmt printFloat cfg layout}

/-- In one cycle, what arrives is what was measured if and only if no failed read leaves
something plausible. -/
theorem intact_cycle (x : Station) (i : CycleInput cfg)
    (hfit : ∀ r, (jsonText fmt r).length < cfg.telemetryPayloadMax) :
    LeftoversRejected cfg x.sensors x i (cycle fmt printFloat cfg layout x i) ↔
      Intact fmt printFloat cfg layout x.sensors x i (cycle fmt printFloat cfg layout x i) := by
  have hkeyed := keyed_publishReadings fmt cfg (sensorsRead x.sensors i.reads) i.junk (hfit _)
  constructor
  · intro hleft
    have hreported : ∀ q, (sensorsRead x.sensors i.reads).reported q =
        measured x.sensors i.reads q := fun q => reported_eq_measured (hleft q)
    refine ⟨fun q => ?_, fun hnone => ?_, fun hpresent => ?_⟩
    · rw [← hreported]
      exact hkeyed q
    · refine publishReadings_none fmt cfg ((Readings.any_eq_false_iff _).mpr fun q => ?_) i.junk
      rw [hreported, hnone]
    · have hpanel : x.panel.present = true := by
        rw [← hpresent]
        exact (displayShowReadings_present printFloat layout _ _).symm
      rw [← hreported, ← hreported, ← hreported]
      exact displayShowReadings_shown printFloat layout x.panel _ hpanel
  · rintro ⟨hkeys, -, -⟩ q
    by_contra hleft
    obtain ⟨hreported, hmeasured⟩ := reported_of_not_leftoverRejected hleft
    -- a key for what was not measured
    have hkey := (hkeyed q).symm.trans (hkeys q)
    rw [hreported, hmeasured] at hkey
    cases hkey

/-- **The exact condition**: along every sequence of cycles, whatever sensors were
initialized, everything that arrives was measured if and only if no failed read leaves
a plausible value in its event struct. -/
theorem intact_iff (fmt : NumberFormat) (printFloat : Binary32 → ℕ → List Char)
    (layout : OledLayout) (present : Bool) (o : BeginOutcome) (is : List (CycleInput configH))
    (hlen : ∀ v, (fmt.numeral v).length ≤ 50) :
    Along (step fmt printFloat configH layout)
        (Intact fmt printFloat configH layout (sensorsBegin o).1) (setup layout present o).1 is ↔
      Along (step fmt printFloat configH layout)
        (LeftoversRejected configH (sensorsBegin o).1) (setup layout present o).1 is := by
  refine (along_iff_of_inv (I := fun x => x.sensors = (sensorsBegin o).1) ?_ ?_
    (setup_sensors layout present o) is).symm
  · rintro x i y hx hstep -
    obtain rfl := Option.some.inj hstep
    exact hx
  · intro x i y hx hstep
    obtain rfl := Option.some.inj hstep
    rw [← hx]
    exact intact_cycle x i (jsonText_fits fmt hlen)

/-- Only the AHT20 responds. -/
def ahtOnly : BeginOutcome := ⟨true, true, true, false, false⟩

/-- A panel that prints every number as 21.50. -/
def roomPrint : Binary32 → ℕ → List Char := fun _ _ => "21.50".toList

/-- A cycle in which the temperature is 21.5 degrees, and the humidity cannot be read and
leaves a NaN. -/
def roomCycle : CycleInput configH where
  reads := ⟨⟨some ⟨0x41AC0000⟩, ⟨0⟩⟩, ⟨none, ⟨0x7FC00000⟩⟩, ⟨none, ⟨0⟩⟩⟩
  junk := List.Vector.replicate _ '?'

theorem intact_roomCycle :
    Along (step roomFormat roomPrint configH layout64)
      (Intact roomFormat roomPrint configH layout64 (sensorsBegin ahtOnly).1)
      (setup layout64 true ahtOnly).1 [roomCycle, roomCycle] := by
  refine (intact_iff roomFormat roomPrint layout64 true ahtOnly _
    roomFormat_length).mpr ?_
  have hleft : ∀ q, LeftoverRejected (sensorsBegin ahtOnly).1 roomCycle.reads q := by
    intro q
    cases q <;> decide
  exact ⟨hleft, hleft, trivial⟩

/-- The cycle after the AHT20 was unplugged: both reads fail, and the stack still holds
the 21.5 degrees of an earlier cycle. -/
def unpluggedCycle : CycleInput configH where
  reads := ⟨⟨none, ⟨0x41AC0000⟩⟩, ⟨none, ⟨0x7FC00000⟩⟩, ⟨none, ⟨0⟩⟩⟩
  junk := List.Vector.replicate _ '?'

/-- **Not everything that arrives was measured**: the leftover of a failed read is
published. -/
theorem not_intact :
    ¬∀ (fmt : NumberFormat) (printFloat : Binary32 → ℕ → List Char) (layout : OledLayout)
        (present : Bool) (o : BeginOutcome) (is : List (CycleInput configH)),
      (∀ v, (fmt.numeral v).length ≤ 50) →
        Along (step fmt printFloat configH layout)
          (Intact fmt printFloat configH layout (sensorsBegin o).1)
          (setup layout present o).1 is := by
  intro h
  have hcycles := h roomFormat roomPrint layout64 true ahtOnly
    [roomCycle, unpluggedCycle] roomFormat_length
  have hsecond := (along_cons.mp (along_cons.mp hcycles _ rfl).2 _ rfl).1
  have hleft := (intact_cycle _ unpluggedCycle
    (jsonText_fits roomFormat roomFormat_length)).mpr hsecond .temperature
  exact absurd hleft (by decide)

end Station

end SentinelEdge
