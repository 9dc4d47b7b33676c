import Mathlib.Data.Vector.Defs
import SentinelEdge.Config
import SentinelEdge.Sensors
import SentinelEdge.Library.CString
import SentinelEdge.Library.FlatJson

/-!
# The payload

`publishReadings` of `src/main.cpp` writes a sample as JSON into a buffer on the
stack and hands the buffer to `netPublishTelemetry`, which takes it for a C string.

The document and its serializer are ArduinoJson's, which is not part of the
firmware; what the model takes from it is the text of a flat object
(`SentinelEdge.jsonText`), up to how a number is printed
(`SentinelEdge.NumberFormat`), and what `serializeJson` does with a buffer: it writes
what fits, returns how much that is, and appends the `NUL` only if there is room.

The guard of `publishReadings` is for a payload that does not fit, but compares the
returned count with zero, which it never is. So the payload that is handed on is
whole exactly when it is shorter than the buffer (`SentinelEdge.wholeOrNothing_iff`),
and is unterminated otherwise (`SentinelEdge.received_publishReadings_of_le`).
-/

namespace SentinelEdge

/-- **How ArduinoJson prints a number.** It prints no character that has a meaning
between numbers, and no `NUL`. -/
structure NumberFormat where
  /-- The numeral of a float. -/
  numeral : Binary32 → List Char
  plain : ∀ v, FlatJson.Plain (numeral v)
  noNul : ∀ v, CString.NUL ∉ numeral v

/-- The key of a quantity, part of the contract with the consumer. -/
def Quantity.key : Quantity → List Char
  | temperature => "temperature".toList
  | humidity => "humidity".toList
  | pressure => "pressure".toList

theorem Quantity.key_beq (q q' : Quantity) : (q.key == q'.key) = decide (q = q') := by
  cases q <;> cases q' <;> decide

theorem Quantity.key_plain (q : Quantity) : FlatJson.Plain q.key := by
  cases q <;> exact FlatJson.plain_of_all (by decide)

theorem Quantity.nul_not_mem_key (q : Quantity) : CString.NUL ∉ q.key := by
  cases q <;> decide

section

variable (fmt : NumberFormat)

/-- The members of `doc`: one for each field that is valid. -/
def members (r : Readings) : List FlatJson.Member :=
  (if r.temperatureValid then [(Quantity.temperature.key, fmt.numeral r.temperatureC)] else []) ++
    (if r.humidityValid then [(Quantity.humidity.key, fmt.numeral r.humidityPct)] else []) ++
    (if r.pressureValid then [(Quantity.pressure.key, fmt.numeral r.pressureHPa)] else [])

/-- The text of `doc`. -/
def jsonText (r : Readings) : List Char := FlatJson.print (members fmt r)

/-- `publishReadings`, with the buffer as it was before: the buffer it hands to
`netPublishTelemetry`, if it does. -/
def publishReadings (cfg : Tunables) (r : Readings)
    (junk : List.Vector Char cfg.telemetryPayloadMax) : Option (List Char) :=
  if !r.any then none
  else
    let payload := CString.write (jsonText fmt r) junk.toList
    let written := CString.written (jsonText fmt r) junk.toList
    -- the guard against a payload that did not fit
    if written = 0 then none else some payload

/-! ### The document and its text -/

/-- Every member is the key of a quantity with a numeral. -/
theorem exists_of_mem_members {r : Readings} {m : FlatJson.Member} (hm : m ∈ members fmt r) :
    ∃ (q : Quantity) (v : Binary32), m = (q.key, fmt.numeral v) := by
  simp only [members, List.mem_append, List.mem_ite_nil_right, List.mem_singleton] at hm
  rcases hm with (⟨-, rfl⟩ | ⟨-, rfl⟩) | ⟨-, rfl⟩
  · exact ⟨.temperature, _, rfl⟩
  · exact ⟨.humidity, _, rfl⟩
  · exact ⟨.pressure, _, rfl⟩

/-- No key comes twice. -/
theorem nodup_keys_members (r : Readings) : ((members fmt r).map Prod.fst).Nodup := by
  have hsub : ((members fmt r).map Prod.fst).Sublist
      [Quantity.temperature.key, Quantity.humidity.key, Quantity.pressure.key] := by
    have hone : ∀ (valid : Bool) (m : FlatJson.Member),
        ((if valid then [m] else []).map Prod.fst).Sublist [m.1] := by
      rintro (_ | _) m
      · exact List.nil_sublist _
      · exact .refl _
    rw [members, List.map_append, List.map_append]
    exact ((hone _ _).append (hone _ _)).append (hone _ _)
  exact hsub.nodup (by decide)

/-- **What the document says of a quantity** is what the sample reports. -/
theorem lookup_members (r : Readings) (q : Quantity) :
    (members fmt r).lookup q.key = (r.reported q).map fmt.numeral := by
  cases ht : r.temperatureValid <;> cases hh : r.humidityValid <;>
    cases hp : r.pressureValid <;> cases q <;>
      simp [members, Readings.reported, ht, hh, hp, List.lookup_cons, Quantity.key_beq]

/-- The text can be read back. -/
theorem parse_jsonText (r : Readings) :
    FlatJson.parse (jsonText fmt r) = some (members fmt r) := by
  refine FlatJson.parse_print fun m hm => ?_
  obtain ⟨q, v, rfl⟩ := exists_of_mem_members fmt hm
  exact ⟨q.key_plain, fmt.plain v⟩

theorem nul_not_mem_jsonText (r : Readings) : CString.NUL ∉ jsonText fmt r := by
  refine FlatJson.not_mem_print (by decide) fun m hm => ?_
  obtain ⟨q, v, rfl⟩ := exists_of_mem_members fmt hm
  exact ⟨q.nul_not_mem_key, fmt.noNul v⟩

/-- With numerals of at most `n` characters the text has at most `40 + 3 * n`. -/
theorem length_jsonText_le {n : ℕ} (hlen : ∀ v, (fmt.numeral v).length ≤ n) (r : Readings) :
    (jsonText fmt r).length ≤ 40 + 3 * n := by
  have ht := hlen r.temperatureC
  have hh := hlen r.humidityPct
  have hp := hlen r.pressureHPa
  have hkeys : Quantity.temperature.key.length = 11 ∧ Quantity.humidity.key.length = 8 ∧
      Quantity.pressure.key.length = 8 := by decide
  obtain ⟨hkt, hkh, hkp⟩ := hkeys
  cases hvt : r.temperatureValid <;> cases hvh : r.humidityValid <;>
    cases hvp : r.pressureValid <;>
      simp [jsonText, members, FlatJson.print, FlatJson.printMember, hkt, hkh, hkp, hvt, hvh,
        hvp] <;> omega

/-- With numerals of at most fifty characters every text fits the buffer of the
header. -/
theorem jsonText_fits (hlen : ∀ v, (fmt.numeral v).length ≤ 50) (r : Readings) :
    (jsonText fmt r).length < configH.telemetryPayloadMax :=
  Nat.lt_of_le_of_lt (length_jsonText_le fmt hlen r) (by decide)

/-! ### Whole or nothing -/

/-- What is handed to `netPublishTelemetry` as a C string. -/
def received (handed : Option (List Char)) : Option (List Char) := handed.bind CString.read

/-- **Whole or nothing**: a payload that fits the buffer with its `NUL` is handed on
as a terminated string and is the complete text; one that does not fit is not handed
on. -/
def WholeOrNothing (cfg : Tunables) (r : Readings)
    (junk : List.Vector Char cfg.telemetryPayloadMax) : Prop :=
  if (jsonText fmt r).length + 1 ≤ cfg.telemetryPayloadMax then
    received (publishReadings fmt cfg r junk) = some (jsonText fmt r)
  else publishReadings fmt cfg r junk = none

instance (cfg : Tunables) (r : Readings) (junk : List.Vector Char cfg.telemetryPayloadMax) :
    Decidable (WholeOrNothing fmt cfg r junk) :=
  inferInstanceAs (Decidable (if (jsonText fmt r).length + 1 ≤ cfg.telemetryPayloadMax then
    received (publishReadings fmt cfg r junk) = some (jsonText fmt r)
    else publishReadings fmt cfg r junk = none))

/-- The guard never applies: something is always written. -/
theorem publishReadings_eq (cfg : Tunables) {r : Readings} (h : r.any = true)
    (junk : List.Vector Char cfg.telemetryPayloadMax) :
    publishReadings fmt cfg r junk = some (CString.write (jsonText fmt r) junk.toList) := by
  have htext : 0 < (jsonText fmt r).length := Nat.zero_lt_succ _
  have hpos := cfg.telemetryPayload_pos
  have hwritten : CString.written (jsonText fmt r) junk.toList ≠ 0 := by
    rw [CString.written, List.Vector.toList_length]
    omega
  rw [publishReadings, h]
  exact if_neg hwritten

/-- With nothing to report, nothing is handed on. -/
theorem publishReadings_none (cfg : Tunables) {r : Readings} (h : r.any = false)
    (junk : List.Vector Char cfg.telemetryPayloadMax) : publishReadings fmt cfg r junk = none := by
  rw [publishReadings, h]
  rfl

/-- **What the broker client gets to read** when the payload fits: the complete
text. -/
theorem received_publishReadings (cfg : Tunables) {r : Readings} (h : r.any = true)
    (junk : List.Vector Char cfg.telemetryPayloadMax)
    (hfit : (jsonText fmt r).length < cfg.telemetryPayloadMax) :
    received (publishReadings fmt cfg r junk) = some (jsonText fmt r) := by
  rw [publishReadings_eq fmt cfg h, received, Option.bind_some]
  exact CString.read_write (nul_not_mem_jsonText fmt r)
    (by rwa [List.Vector.toList_length])

/-- **What the broker client gets to read** when the payload does not fit: what is in
the buffer is not terminated. -/
theorem received_publishReadings_of_le (cfg : Tunables) {r : Readings} (h : r.any = true)
    (junk : List.Vector Char cfg.telemetryPayloadMax)
    (hlong : cfg.telemetryPayloadMax ≤ (jsonText fmt r).length) :
    publishReadings fmt cfg r junk ≠ none ∧
      received (publishReadings fmt cfg r junk) = none := by
  rw [publishReadings_eq fmt cfg h]
  refine ⟨Option.some_ne_none _, ?_⟩
  rw [received, Option.bind_some]
  exact CString.read_write_of_le (nul_not_mem_jsonText fmt r)
    (by rwa [List.Vector.toList_length])

/-- **The exact condition**: for every sample with a valid field, the payload is handed
on whole or not at all if and only if it is shorter than the buffer. -/
theorem wholeOrNothing_iff (cfg : Tunables) (r : Readings)
    (junk : List.Vector Char cfg.telemetryPayloadMax) (h : r.any = true) :
    WholeOrNothing fmt cfg r junk ↔ (jsonText fmt r).length < cfg.telemetryPayloadMax := by
  rw [WholeOrNothing]
  constructor
  · intro hwhole
    rcases Nat.lt_or_ge (jsonText fmt r).length cfg.telemetryPayloadMax with hfit | hlong
    · exact hfit
    · -- too long, and handed on all the same
      rw [if_neg (by omega)] at hwhole
      exact absurd hwhole (received_publishReadings_of_le fmt cfg h junk hlong).1
  · intro hfit
    rw [if_pos (Nat.succ_le_of_lt hfit)]
    exact received_publishReadings fmt cfg h junk hfit

end

/-- A format that prints every number as the numeral of 21.5. -/
def roomFormat : NumberFormat where
  numeral := fun _ => "21.5".toList
  plain := fun _ => FlatJson.plain_of_all (by decide)
  noNul := fun _ => by decide

theorem roomFormat_length (v : Binary32) : (roomFormat.numeral v).length ≤ 50 := by
  show "21.5".toList.length ≤ 50
  decide

/-- A sample of which only the temperature is valid, 21.5 degrees. -/
def roomSample : Readings where
  temperatureC := ⟨0x41AC0000⟩
  temperatureValid := true

/-- A buffer as long as the text of that sample, of twenty characters. -/
def smallBuffer : Tunables :=
  { configH with telemetryPayloadMax := 20, telemetryPayload_pos := by decide }

theorem wholeOrNothing_roomSample :
    WholeOrNothing roomFormat configH roomSample (List.Vector.replicate _ '?') :=
  (wholeOrNothing_iff roomFormat configH roomSample _ rfl).mpr (by decide)

/-- **It is not always whole or nothing**: a text exactly as long as the buffer is
handed on unterminated. -/
theorem not_wholeOrNothing :
    ¬∀ (fmt : NumberFormat) (cfg : Tunables) (r : Readings)
        (junk : List.Vector Char cfg.telemetryPayloadMax),
      r.any = true → WholeOrNothing fmt cfg r junk :=
  fun h => absurd (h roomFormat smallBuffer roomSample (List.Vector.replicate _ '?') rfl)
    (by decide)

end SentinelEdge
