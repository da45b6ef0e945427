import Chip8.Fault
import Chip8.Text.Align
import Chip8.Text.Quoted

/-! Everything that can go wrong, as causes with their wording. -/
namespace Chip8

/-- Why a system does not give access to a file, as it puts it. -/
structure FileCause where
  number : Nat
  description : String
deriving DecidableEq, Repr

namespace FileCause

def missing : FileCause := ⟨2, "No such file or directory"⟩
def notDirectory : FileCause := ⟨20, "Not a directory"⟩
def isDirectory : FileCause := ⟨21, "Is a directory"⟩
def nameTooLong : FileCause := ⟨36, "File name too long"⟩

end FileCause

inductive NotInteger where
  | infinite
  | undefined
deriving DecidableEq, Repr

/-- Why a reference to a setting has no value. -/
inductive ReferenceFailure where
  | unknownKey (key : String)
  /-- The path leads above the top. -/
  | aboveTop (path : String)
  | missing (key : String)
  | noContainer (path key child : String)
  | unknownFunction (name : String)
  | circular
deriving DecidableEq, Repr

def ReferenceFailure.message : ReferenceFailure → String
  | unknownKey key => s!"Interpolation key '{key}' not found"
  | aboveTop path =>
      s!"ConfigKeyError while resolving interpolation: Error resolving key '{path}'"
  | missing key =>
      s!"MissingMandatoryValue while resolving interpolation: missing node selected: {key}"
  | noContainer path key child =>
      "ConfigTypeError raised while resolving interpolation: Error trying to access "
        ++ path ++ ": node \x60" ++ key ++ "\x60 is not a container and thus cannot contain \x60"
        ++ child ++ "\x60\x60"
  | unknownFunction name => s!"Unsupported interpolation type {name}"
  | circular => "Recursive interpolation detected"

inductive Error where
  | fault (f : Fault)
  | seedOutOfRange
  | wordOutOfRange
  | noSuchKey (code : Int)
  | unknownLevel (name : String) (available : List String)
  | unknownScheme (name : String) (available : List String)
  | displayShape (shape : List Nat)
  | scaleNotPositive (scale : Int)
  | colorOutOfRange
  | imageExtension (extension : String)
  /-- A library gives its reason why it does not write a picture. -/
  | imageNotWritten (reason : String)
  | ratesNotPositive
  | notInteger (reason : NotInteger)
  | waveOutOfRange
  | waveTooLong
  | waveNotAddressable
  | outOfMemory
  | divisionByZeroRate
  | negativeWindow
  | settingMissing (key : String)
  | settingKind (key : String)
  | settingNotText (key : String)
  | malformedReference (key : String)
  | reference (key : String) (failure : ReferenceFailure)
  | nullInPath
  /-- A file that is open already is not named. -/
  | file (cause : FileCause) (path? : Option String)
deriving DecidableEq, Repr

namespace Error

/-- A shape in parentheses; a single length keeps a comma. -/
def shapeText : List Nat → String
  | [n] => s!"({n},)"
  | shape => "(" ++ ", ".intercalate (shape.map toString) ++ ")"

def message : Error → String
  | fault f => f.text
  | seedOutOfRange => "Seed does not fit in 64 bits"
  | wordOutOfRange => "Word does not fit in its width"
  | noSuchKey code => s!"Key code must be in 0x0-0xF, got {code}"
  | unknownLevel name available =>
      let names := Text.nameList available
      s!"Unknown log level '{name}'. Available: {names}"
  | unknownScheme name available =>
      let names := Text.nameList available
      s!"Unknown color scheme '{name}'. Available: {names}"
  | displayShape shape =>
      let got := shapeText shape
      s!"Expected display shape (64, 32), got {got}"
  | scaleNotPositive scale => s!"Scale must be a positive integer, got {scale}"
  | colorOutOfRange => "Color component does not fit in a byte"
  | imageExtension extension => s!"unknown file extension: {extension}"
  | imageNotWritten reason => reason
  | ratesNotPositive => "cpu_hz and timer_hz must be positive"
  | notInteger .infinite => "cannot convert float infinity to integer"
  | notInteger .undefined => "cannot convert float NaN to integer"
  | waveOutOfRange => "Frequency or amplitude does not fit in 64 bits"
  | waveTooLong => "Maximum allowed size exceeded"
  | waveNotAddressable =>
      "array is too big; \x60arr.size * arr.dtype.itemsize\x60 is larger than the maximum "
        ++ "possible size."
  | outOfMemory => "Not enough memory"
  | divisionByZeroRate => "Instruction rate is zero"
  | negativeWindow => "Cannot set negative sized display mode"
  | settingMissing key => s!"Missing mandatory value: {key}"
  | settingKind key => s!"Value of {key} has the wrong kind"
  | settingNotText key => s!"Value of {key} is not a text"
  | malformedReference key => s!"Value of {key} has a malformed reference"
  | reference key failure => failure.message ++ "\n    full_key: " ++ key ++ "\n    object_type=dict"
  | nullInPath => "embedded null byte"
  | file cause path? =>
      let number := cause.number
      let description := cause.description
      let shown := path?.elim "" (": " ++ Text.quoted ·)
      s!"[Errno {number}] {description}{shown}"

end Error
end Chip8
