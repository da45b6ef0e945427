import Chip8.Main
import Chip8.Host.Run
import Chip8.Log.Console
import Chip8.Log.Progress
import Chip8.Proofs.Footprint
import Chip8.Proofs.PlainScreen
import Chip8.Proofs.Bounded
import Chip8.Proofs.Window
import Chip8.Proofs.Refusal
import Chip8.Proofs.Redraw
import Chip8.Proofs.Journal
import Chip8.Proofs.Addresses
import Chip8.Proofs.Subroutine
import Chip8.Proofs.Afterimage
import Chip8.Proofs.Invariant
import Chip8.Proofs.Strictness
import Chip8.Proofs.Decoding
import Chip8.Proofs.History
import Chip8.Proofs.Signals
import Chip8.Proofs.Channel
import Chip8.Proofs.Restart
import Chip8.Proofs.RandomStream
import Chip8.Proofs.Tally
import Chip8.Proofs.Stall
import Chip8.Proofs.Rounds
import Chip8.Proofs.Faultless
import Chip8.Proofs.Turns
import Chip8.Proofs.Laps
import Chip8.Proofs.Pause
import Chip8.Proofs.Timing
import Chip8.Proofs.Observers
import Chip8.Proofs.CellByCell
import Chip8.Proofs.Arithmetic
import Chip8.Proofs.Waiting
import Chip8.Proofs.Ownership
import Chip8.Proofs.Burst
import Chip8.Proofs.Magnification
import Chip8.Proofs.Keyboard
import Chip8.Proofs.ExitStatus
import Chip8.Proofs.Pitch
import Chip8.Proofs.ToneLength
import Chip8.Proofs.Dispatch
