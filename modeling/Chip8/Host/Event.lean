import Chip8.Event
import Chip8.Picture.Surface
import Chip8.Sound.Beeper

/-! What passes between a host and its surroundings. -/
namespace Chip8

/-- What a host does for others to see or hear. -/
inductive HostEvent where
  | machine (e : Event)
  | caption (title : String)
  | screen (s : Surface)
  | startMixer (asked : MixerFormat)
  | sound (s : Sound)
  | play (milliseconds : Int)

/-- What the user does in a window. Keys are named. -/
inductive WindowEvent where
  | down (key : String)
  | up (key : String)
  | quit
  | other
deriving DecidableEq, Repr

/-- Host keys in the order of the keypad keys they stand for. The keypad is a square of four rows
on the left of the keyboard: 123C, 456D, 789E and A0BF from top to bottom. -/
def keyNames : List String :=
  ["x", "1", "2", "3", "q", "w", "e", "a", "s", "d", "z", "c", "4", "r", "f", "v"]

/-- Key names are given in any case. -/
def keyName (s : String) : String := String.ofList (s.toList.map Char.toLower)

def keyMap : List (String × Key) := keyNames.zip (List.finRange 16)

/-- Sets up a beeper, with the events on the way. -/
def Beeper.setUp {τ : Type} [Quantity τ] (room : Room) (frequency : Int) (volume : τ) (m : Mixer) :
    List HostEvent × Except Error Beeper :=
  let prepare (events : List HostEvent) (f : MixerFormat) : List HostEvent × Except Error Beeper :=
    match Beeper.sound room frequency volume f with
    | .ok s => (events ++ [.sound s], .ok ⟨some s⟩)
    | .error e => (events, .error e)
  match m.running? with
  | some f => prepare [] f
  | none =>
      let starting : HostEvent := .startMixer .requested
      match m.start with
      | .ok f => prepare [starting] f
      | .error text =>
          ([starting, .machine (.log .warning ("Audio unavailable, running silent: " ++ text))],
            .ok ⟨none⟩)

/-- What a beeper does for a tone request. -/
def Beeper.respond (b : Beeper) (milliseconds : Int) : List HostEvent :=
  (b.duration? milliseconds).toList.map HostEvent.play

end Chip8
