import Chip8.Host.Run
import Chip8.Log.Console
import Chip8.Picture.Encoding
import Chip8.Settings.Arguments

/-! Command line: runs a program without a window. -/
namespace Chip8.Main

/-- The number and the description that the system gives with an error. -/
def cause (e : IO.Error) : FileCause :=
  match e with
  | .interrupted _ code text | .noFileOrDirectory _ code text
  | .alreadyExists _ code text | .invalidArgument _ code text | .permissionDenied _ code text
  | .resourceExhausted _ code text | .inappropriateType _ code text | .noSuchThing _ code text
  | .otherError code text | .resourceBusy code text | .resourceVanished code text
  | .unsupportedOperation code text | .hardwareFault code text | .unsatisfiedConstraints code text
  | .illegalOperation code text | .protocolError code text | .timeExpired code text =>
      ⟨code.toNat, text⟩
  | .unexpectedEof | .userError _ => ⟨0, e.toString⟩

def readProgram (path : String) : IO (Except Error (List UInt8)) := do
  try
    return .ok (← IO.FS.readBinFile path).toList
  catch e => return .error (.file (cause e) (some path))

/-- Only log messages show on a console. -/
def messages (r : RunResult) : List (Level × String) :=
  let all := r.turns.flatMap (·.seen) ++ r.rest
  all.filterMap fun
    | .machine (.log level text) => some (level, text)
    | _ => none

def report (r : RunResult) (elapsed : Float) : IO Unit := do
  let console : Console := { threshold := .debug }
  for (level, text) in messages r do
    for line in console.print elapsed level.name text do
      IO.println line

def save (r : RunResult) : IO Unit := do
  if let some image := r.screenshot? then
    IO.FS.writeBinFile image.path image.bytes

def execute (s : Settings Float) : IO UInt32 := do
  let started ← IO.monoMsNow
  let program ←
    match s.rom with
    | .ok path => readProgram path
    | .error e => pure (.error e)
  let files : Files := { read := fun _ => program, checkWrite := fun _ => .ok () }
  let r := Run.run s { files, images := .plain, start := 0 }
  report r (Float.ofScientific ((← IO.monoMsNow) - started) true 3)
  match r.status with
  | .ok status =>
      save r
      return UInt32.ofNat status
  | .error e =>
      IO.eprintln e.message
      return 1

/-- Without a window to open, only runs without one are possible. -/
def start (s : Settings Float) : IO UInt32 := do
  match s.headless with
  | .ok true => execute s
  | .ok false =>
      IO.eprintln "there is no window here: give headless=true"
      return 2
  | .error e =>
      IO.eprintln e.message
      return 1

end Chip8.Main

def main (args : List String) : IO UInt32 := do
  match Chip8.Settings.readWords args with
  | .error word =>
      IO.eprintln s!"cannot use {word}"
      return 2
  | .ok values =>
      match Chip8.Settings.usual.merge values with
      | .error e =>
          IO.eprintln e.message
          return 1
      | .ok c => Chip8.Main.start (.ofConfiguration c)
