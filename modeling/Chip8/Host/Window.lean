import Chip8.Host.Event
import Chip8.Machine
import Chip8.Pacing.Scheduler

/-! The loop of a window: user events first, then the work that is due, unless paused. A refused
instruction pauses the loop instead of ending it. -/
namespace Chip8

structure WindowSettings (τ : Type) where
  cpuRate : τ
  timerRate : τ
  maxLag : τ
  volume : τ
  scale : Int
  scheme : String
  beepFrequency : Int
  title : String
  room : Room

structure Window (τ : Type) where
  machine : Machine
  scheduler : Scheduler τ
  palette : Palette
  scale : Int
  room : Room
  beeper : Beeper
  paused : Bool := false
  running : Bool := true
  seen : Array HostEvent := #[]

/-- What happens in one turn of the loop: the user's events with the clock readings at which they
are handled, and the reading at which work is found due. -/
structure Turn (τ : Type) where
  events : List (τ × WindowEvent)
  now : τ

def Turn.atOnce {τ : Type} (now : τ) (events : List WindowEvent) : Turn τ :=
  ⟨events.map fun e => (now, e), now⟩

namespace Window

variable {τ : Type} [Quantity τ]

/-- Log messages below the machine's level are dropped, here as in the machine. -/
def heard (m : Machine) : HostEvent → Bool
  | .machine e => m.observer.sees e
  | _ => true

def log (w : Window τ) (level : Level) (text : String) : Window τ :=
  { w with seen := w.seen ++ [HostEvent.machine (.log level text)].filter (heard w.machine) }

def failAfter {α : Type} (seen : List HostEvent) :
    Except Error α → Except (List HostEvent × Error) α
  | .ok a => .ok a
  | .error e => .error (seen, e)

/-- Opens a window on a machine whose frames and tones it takes over. -/
def setUp (settings : WindowSettings τ) (machine : Machine) (mixer : Mixer) (now : τ) :
    Except (List HostEvent × Error) (Window τ) := do
  if settings.scale < 0 then throw ([], .negativeWindow)
  let caption : HostEvent := .caption settings.title
  let palette ← failAfter [caption] (Palette.ofName settings.scheme)
  let (events, beeper) := Beeper.setUp settings.room settings.beepFrequency settings.volume mixer
  let seen := caption :: events.filter (heard machine)
  let beeper ← failAfter seen beeper
  let scheduler ←
    failAfter seen (Scheduler.ofRates settings.cpuRate settings.timerRate settings.maxLag now)
  let observer := { machine.observer with frames := true, tones := true }
  let w : Window τ :=
    { machine := { machine with observer }, scheduler, palette, scale := settings.scale,
      room := settings.room, beeper, seen := seen.toArray }
  return w.log .info "Controls: Esc=Quit, P=Pause, F5=Reset"

def present (w : Window τ) : Event → Except Error (List HostEvent)
  | .frame g =>
      match Picture.renderInMemory w.room g w.palette w.scale with
      | .ok p => .ok [.screen (.ofPicture p)]
      | .error e => .error e
  | .tone milliseconds => .ok (w.beeper.respond milliseconds)
  | e => .ok [.machine e]

def perform (w : Window τ) (op : Operation) : Window τ × Option Error :=
  let r := w.machine.apply op
  match r.events.mapM w.present with
  | .ok shown => ({ w with machine := r.machine, seen := w.seen ++ shown.flatten }, r.error?)
  | .error e => ({ w with machine := r.machine }, some e)

def performAll (w : Window τ) (ops : List Operation) : Window τ × Option Error :=
  Operation.runAll perform w ops

def resync (w : Window τ) (now : τ) : Window τ :=
  { w with scheduler := w.scheduler.resync now }

def togglePause (w : Window τ) (now : τ) : Window τ :=
  let w := { w with paused := !w.paused }.resync now
  w.log .info (if w.paused then "Paused" else "Resumed")

def restart (w : Window τ) (now : τ) : Window τ :=
  { (w.perform .reset).1 with paused := false }.resync now

def passKey (w : Window τ) (key : String) (operation : Int → Operation) : Window τ :=
  match keyMap.lookup key with
  | some code => (w.perform (operation code)).1
  | none => w

def handle (w : Window τ) : τ × WindowEvent → Window τ
  | (_, .quit) => { w with running := false }
  | (now, .down key) =>
      if key = "escape" then { w with running := false }
      else if key = "p" then w.togglePause now
      else if key = "f5" then w.restart now
      else w.passKey key .keyDown
  | (_, .up key) => w.passKey key .keyUp
  | (_, .other) => w

/-- Ticks that are due come before the instructions. -/
def work (due : Due) : List Operation :=
  List.replicate due.ticks.toNat .tick ++ List.replicate due.steps.toNat .step

def pace (w : Window τ) (now : τ) : Window τ × Option Error :=
  match w.scheduler.advance now with
  | .error e => (w, some e)
  | .ok (scheduler, due) =>
      match { w with scheduler }.performAll (work due) with
      | (w, some (.fault _)) =>
          ({ w with paused := true }.log .warning "Paused after error, F5 resets", none)
      | done => done

def turn (w : Window τ) (t : Turn τ) : Window τ × Option Error :=
  let w := t.events.foldl handle w
  if w.paused then (w, none) else w.pace t.now

end Window

/-- A finished turn: what was seen since the one before, and the machine after it. -/
structure WindowRecord where
  seen : List HostEvent
  machine : Machine

/-- A run of the loop: its finished turns, what was seen after them, and how it ended. -/
structure WindowRun where
  turns : List WindowRecord
  rest : List HostEvent
  machine : Machine
  result : Except Error Unit

namespace Window

variable {τ : Type} [Quantity τ]

def stop (w : Window τ) (result : Except Error Unit) : WindowRun :=
  ⟨[], w.seen.toList, w.machine, result⟩

/-- Plays turns until the loop ends; after the last one the user quits at the same time. -/
def play (w : Window τ) (clock : τ) : List (Turn τ) → WindowRun
  | [] =>
      match w.turn (.atOnce clock [.quit]) with
      | (w, some e) => w.stop (.error e)
      | (w, none) => ⟨[⟨w.seen.toList, w.machine⟩], [], w.machine, .ok ()⟩
  | t :: rest =>
      match w.turn t with
      | (w, some e) => w.stop (.error e)
      | (w, none) =>
          let record : WindowRecord := ⟨w.seen.toList, w.machine⟩
          let w := { w with seen := #[] }
          let later := if w.running then w.play t.now rest else w.stop (.ok ())
          { later with turns := record :: later.turns }

def run (settings : WindowSettings τ) (machine : Machine) (mixer : Mixer) (start : τ)
    (turns : List (Turn τ)) : WindowRun :=
  match setUp settings machine mixer start with
  | .error (seen, e) => ⟨[], seen, machine, .error e⟩
  | .ok w => w.play start turns

end Window
end Chip8
