import Chip8.Host.Files
import Chip8.Host.Window
import Chip8.Pacing.Headless
import Chip8.Picture.File
import Chip8.Settings.Basic

/-! A whole run: read a program, execute it in a window or without one, and keep a picture of the
last screen. -/
namespace Chip8

structure Surroundings (τ : Type := Float) where
  files : Files
  images : ImageLibrary
  room : Room := .unlimited
  mixer : Mixer := {}
  /-- Clock reading when the window opens, and what happens in it. -/
  start : τ
  turns : List (Turn τ) := []

/-- Everything that came of a run. The exit status is zero unless something was refused. -/
structure RunResult where
  turns : List WindowRecord := []
  rest : List HostEvent := []
  screenshot? : Option ImageFile := none
  status : Except Error Nat

namespace RunResult

def after (r : RunResult) (before : List HostEvent) : RunResult :=
  match r.turns with
  | first :: later =>
      { r with turns := { first with seen := before ++ first.seen } :: later }
  | [] => { r with rest := before ++ r.rest }

@[simp] theorem status_after (r : RunResult) (before : List HostEvent) :
    (r.after before).status = r.status := by
  unfold after
  split <;> rfl

@[simp] theorem screenshot?_after (r : RunResult) (before : List HostEvent) :
    (r.after before).screenshot? = r.screenshot? := by
  unfold after
  split <;> rfl

/-- A run that goes on with a value, or fails without one. -/
def given {α : Type} (value : Except Error α) (next : α → RunResult) : RunResult :=
  match value with
  | .ok a => next a
  | .error e => { status := .error e }

end RunResult

namespace Run

variable {τ : Type}

def windowSettings [Quantity τ] (s : Settings τ) (title : String) (room : Room) :
    Except Error (WindowSettings τ) := do
  return { cpuRate := ← s.cpuRate
           timerRate := ← s.timerRate
           maxLag := Standard.maxLag
           volume := Standard.volume
           scale := ← s.scale
           scheme := ← s.scheme
           beepFrequency := ← s.beepFrequency
           title, room }

def log (o : Observer) (level : Level) (text : String) : List HostEvent :=
  [Event.log level text].filter o.sees |>.map .machine

def inWindow [Quantity τ] (s : Settings τ) (around : Surroundings τ) (m : Machine) (rom : String) :
    RunResult :=
  let title := Standard.programName ++ " - " ++ Path.baseName rom
  .given (windowSettings s title around.room) fun settings =>
    let run := Window.run settings m around.mixer around.start around.turns
    { turns := run.turns, rest := run.rest, status := run.result.map fun _ => 0 }

def savePicture (s : Settings τ) (around : Surroundings τ) (screen : Grid) :
    Except Error (Option ImageFile) := do
  match ← s.screenshot? with
  | none => return none
  | some path =>
      return some (← ImageFile.save around.files around.images around.room (.screen screen) path
        (← s.scale) (← s.scheme))

/-- The number of cycles and the rates of a run without a window. -/
def headlessSettings (s : Settings τ) : Except Error (Int × Rates τ) := do
  return (← s.maxCycles, ⟨← s.cpuRate, ← s.timerRate⟩)

/-- A refused instruction ends the run with status one, but its screen is still saved. -/
def withoutWindow [Quantity τ] (s : Settings τ) (around : Surroundings τ) (m : Machine) : RunResult :=
  .given (headlessSettings s) fun (cycles, rates) =>
    let (session, result) := Session.runHeadless { machine := m } rates cycles
    let seen := session.seen.toList.map HostEvent.machine
    let finish (status : Nat) (events : List HostEvent) : RunResult :=
      match savePicture s around session.machine.state.display with
      | .error e => { rest := events, status := .error e }
      | .ok none => { rest := events, status := .ok status }
      | .ok (some image) =>
          { rest := events ++ log m.observer .info ("Saved screenshot to " ++ image.path),
            screenshot? := some image, status := .ok status }
    match result with
    | .ok executed =>
        let pc := Text.hex 3 session.machine.state.pc.toNat
        finish 0 (seen ++ log m.observer .info s!"Executed {executed} instructions, PC=0x{pc}")
    | .error (.fault _) => finish 1 seen
    | .error e => { rest := seen, status := .error e }

/-- Runs a loaded machine. -/
def execute [Quantity τ] (s : Settings τ) (around : Surroundings τ) (m : Machine) (rom : String) :
    RunResult :=
  .given s.headless fun headless =>
    if headless then withoutWindow s around m else inWindow s around m rom

/-- A machine in its first state. -/
def machine (s : Settings τ) (o : Observer) : Except Error Machine := do
  let seed ← s.seed
  let strict ← s.strict
  match Seed.ofInt? seed with
  | some seed => return .powerOn seed strict o
  | none => throw .seedOutOfRange

/-- Loads the program and runs it. -/
def startWith [Quantity τ] (s : Settings τ) (around : Surroundings τ) (o : Observer) (rom : String)
    (program : List UInt8) : RunResult :=
  .given (machine s o) fun m =>
    let loaded := m.load program
    let seen := loaded.events.map HostEvent.machine
    match loaded.error? with
    | some e => { rest := seen ++ log o .error e.message, status := .ok 1 }
    | none => (execute s around loaded.machine rom).after seen

/-- Reads the program and runs it. A file that cannot be opened is reported. -/
def start [Quantity τ] (s : Settings τ) (around : Surroundings τ) (o : Observer) : RunResult :=
  .given s.rom fun rom =>
    match around.files.read rom with
    | .ok program => startWith s around o rom program
    | .error (.file cause path?) =>
        let reason := (Error.file cause path?).message
        { rest := log o .error ("Cannot read program '" ++ rom ++ "': " ++ reason),
          status := .ok 1 }
    | .error e => { status := .error e }

def levelOf (name : String) : Except Error Level :=
  match Level.ofName? name with
  | some level => .ok level
  | none => .error (.unknownLevel name (Level.all.map Level.name))

/-- Runs a program as the settings say. -/
def run [Quantity τ] (s : Settings τ) (around : Surroundings τ) : RunResult :=
  .given (s.logLevel >>= levelOf) fun level =>
    let o : Observer := { level }
    (start s around o).after (log o .debug ("Configuration:\n" ++ s.listing))

end Run
end Chip8
