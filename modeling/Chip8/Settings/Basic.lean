import Chip8.Settings.Configuration
import Chip8.Standard

/-! What a run of a program can be told. -/
namespace Chip8

/-- A setting, or why it has no value. A failure counts when the setting is used. -/
abbrev Setting (α : Type) := Except Error α

/-- Rates are in numbers of any kind. -/
structure Settings (τ : Type) where
  /-- All settings as they were given, one to a line. -/
  listing : String
  rom : Setting String
  seed : Setting Int
  strict : Setting Bool
  cpuRate : Setting τ
  timerRate : Setting τ
  scale : Setting Int
  scheme : Setting String
  beepFrequency : Setting Int
  logLevel : Setting String
  headless : Setting Bool
  maxCycles : Setting Int
  /-- The file for a picture of the last screen. -/
  screenshot? : Setting (Option String)

namespace Settings

def usual : Configuration where
  entries :=
    [("rom", none), ("seed", some (.whole 0)), ("strict", some (.flag true)),
     ("cpu_hz", some (.whole 700)), ("timer_hz", some (.whole 60)), ("scale", some (.whole 10)),
     ("color_scheme", some (.text Standard.scheme)), ("beep_hz", some (.whole 500)),
     ("log_level", some (.text "INFO")), ("headless", some (.flag false)),
     ("max_cycles", some (.whole 10000)), ("screenshot", some .null)]

/-- Values that count as false name no file, and those that are no texts name one without an
extension. -/
def fileName? (v : Scalar) : Option String := if v.isTruthy then some (v.text?.getD "") else none

def ofConfiguration (c : Configuration) : Settings Float where
  listing := c.listing
  rom := c.valueAs "rom" Scalar.text?
  seed := c.valueAs "seed" Scalar.whole?
  strict := (c.value "strict").map Scalar.isTruthy
  cpuRate := c.valueAs "cpu_hz" Scalar.real?
  timerRate := c.valueAs "timer_hz" Scalar.real?
  scale := c.valueAs "scale" Scalar.whole?
  scheme := (c.value "color_scheme").map Scalar.display
  beepFrequency := c.valueAs "beep_hz" Scalar.whole?
  logLevel := do
    match (← c.value "log_level").text? with
    | some name => return name
    | none => throw (.settingNotText "log_level")
  headless := (c.value "headless").map Scalar.isTruthy
  maxCycles := c.valueAs "max_cycles" Scalar.whole?
  screenshot? := (c.value "screenshot").map fileName?

end Settings
end Chip8
