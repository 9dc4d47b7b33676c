import SentinelEdge.Sensors

/-!
# The panel

`src/display_ui.cpp`: three lines of telemetry, or one line of status, on a panel
that may be absent.

The driver keeps a frame in memory, into which text is printed at a cursor, and sends
it to the panel on demand. The model keeps both as lists of lines, newest first, a
line being the vertical position of the cursor and the text printed there
(`SentinelEdge.Panel`). How a number is printed is up to the Arduino core, and a
parameter.

What is shown after a cycle is said by `SentinelEdge.displayShowReadings_shown`: the
lines of the three quantities, each with its value or with `--`.
-/

namespace SentinelEdge

/-- `OledLayout`: what differs between the two panels, as far as it says where text
is printed. -/
structure OledLayout where
  /-- `height`. -/
  height : ℕ
  /-- `lineY`. -/
  lineY : Quantity → ℤ
  /-- `statusY`. -/
  statusY : ℤ

/-- `LAYOUT` for `OLED_HEIGHT == 64`. -/
def layout64 : OledLayout where
  height := 64
  lineY
    | .temperature => 20
    | .humidity => 40
    | .pressure => 60
  statusY := 36

/-- `LAYOUT` for `OLED_HEIGHT == 32`. -/
def layout32 : OledLayout where
  height := 32
  lineY
    | .temperature => 0
    | .humidity => 11
    | .pressure => 22
  statusY := 12

/-- A line of text and where it stands. -/
abbrev Line := ℤ × List Char

/-- The state of the display driver. -/
structure Panel where
  /-- `present`. -/
  present : Bool
  /-- The frame in memory, newest line first. -/
  frame : List Line
  /-- What the panel shows, newest line first. -/
  shown : List Line

namespace Panel

/-- `display.clearDisplay`. -/
def clearDisplay (p : Panel) : Panel := { p with frame := [] }

/-- `display.setCursor(0, y)`. -/
def setCursor (p : Panel) (y : ℤ) : Panel := { p with frame := (y, []) :: p.frame }

/-- `display.print`: the text goes to where the cursor is. -/
def print (p : Panel) (text : List Char) : Panel :=
  match p.frame with
  | (y, line) :: lines => { p with frame := (y, line ++ text) :: lines }
  | [] => { p with frame := [(0, text)] }

/-- `display.display`. -/
def display (p : Panel) : Panel := { p with shown := p.frame }

end Panel

/-- `displayBegin`: the panel answers, and is cleared, or is absent. -/
def displayBegin (present : Bool) : Panel := ⟨present, [], []⟩

/-- `displayShowStatus`. -/
def displayShowStatus (layout : OledLayout) (p : Panel) (message : List Char) : Panel :=
  if !p.present then p
  else ((p.clearDisplay.setCursor layout.statusY).print message).display

/-- The labels of the telemetry lines. -/
def Quantity.label : Quantity → List Char
  | temperature => "T  ".toList
  | humidity => "RH ".toList
  | pressure => "P  ".toList

/-- The number of decimals of the telemetry lines. -/
def Quantity.decimals : Quantity → ℕ
  | temperature => 2
  | humidity => 1
  | pressure => 0

/-- The units of the telemetry lines. -/
def Quantity.unit : Quantity → List Char
  | temperature => " C".toList
  | humidity => " %".toList
  | pressure => " hPa".toList

section

variable (printFloat : Binary32 → ℕ → List Char)

/-- `printReading`: one telemetry line. -/
def printReading (p : Panel) (y : ℤ) (label : List Char) (value : Binary32) (valid : Bool)
    (decimals : ℕ) (unit : List Char) : Panel :=
  let p := (p.setCursor y).print label
  if !valid then p.print "--".toList
  else (p.print (printFloat value decimals)).print unit

/-- `displayShowReadings`. -/
def displayShowReadings (layout : OledLayout) (p : Panel) (r : Readings) : Panel :=
  if !p.present then p
  else
    let p := p.clearDisplay
    let p := printReading printFloat p (layout.lineY .temperature) Quantity.temperature.label
      r.temperatureC r.temperatureValid Quantity.temperature.decimals Quantity.temperature.unit
    let p := printReading printFloat p (layout.lineY .humidity) Quantity.humidity.label
      r.humidityPct r.humidityValid Quantity.humidity.decimals Quantity.humidity.unit
    let p := printReading printFloat p (layout.lineY .pressure) Quantity.pressure.label
      r.pressureHPa r.pressureValid Quantity.pressure.decimals Quantity.pressure.unit
    p.display

/-! ### What is shown -/

/-- The line of a quantity: its value, or `--`. -/
def lineOf (layout : OledLayout) (q : Quantity) (value : Option Binary32) : Line :=
  (layout.lineY q,
    q.label ++ match value with
      | some v => printFloat v q.decimals ++ q.unit
      | none => "--".toList)

theorem printReading_eq (p : Panel) (y : ℤ) (label : List Char) (value : Binary32) (valid : Bool)
    (decimals : ℕ) (unit : List Char) :
    printReading printFloat p y label value valid decimals unit =
      { p with
        frame :=
          (y, label ++ if valid then printFloat value decimals ++ unit else "--".toList) ::
            p.frame } := by
  cases valid <;> simp [printReading, Panel.setCursor, Panel.print]

/-- **What the panel shows of a sample**: one line for each quantity, with the value
that is reported of it. -/
theorem displayShowReadings_shown (layout : OledLayout) (p : Panel) (r : Readings)
    (hpresent : p.present = true) :
    (displayShowReadings printFloat layout p r).shown =
      [lineOf printFloat layout .pressure (r.reported .pressure),
        lineOf printFloat layout .humidity (r.reported .humidity),
        lineOf printFloat layout .temperature (r.reported .temperature)] := by
  have hline : ∀ (valid : Bool) (v : Binary32) (q : Quantity),
      (layout.lineY q,
        q.label ++ if valid then printFloat v q.decimals ++ q.unit else "--".toList) =
        lineOf printFloat layout q (if valid then some v else none) := by
    intro valid v q
    cases valid <;> rfl
  simp only [displayShowReadings, hpresent, Bool.not_true, Bool.false_eq_true, if_false,
    printReading_eq, hline]
  rfl

theorem displayShowReadings_present (layout : OledLayout) (p : Panel) (r : Readings) :
    (displayShowReadings printFloat layout p r).present = p.present := by
  rw [displayShowReadings]
  split
  · rfl
  · simp only [printReading_eq]
    rfl

end

end SentinelEdge
