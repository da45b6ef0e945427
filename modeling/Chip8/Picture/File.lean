import Chip8.Host.Files
import Chip8.Picture.Basic
import Chip8.Text.LowerCase

/-! Picture files. A library writes them, in the format that it finds for the extension of the name. -/
namespace Chip8

/-- What a library for pictures does with extensions and with pictures. -/
structure ImageLibrary where
  /-- The format for an extension in lower case. -/
  format? : String → Option String
  /-- A picture in a format, or the reason why there is none. -/
  encode : String → Picture → Except String ByteArray

/-- Extensions are found in any case. -/
def ImageLibrary.formatOf (l : ImageLibrary) (path : String) : Except Error String :=
  let ext := Text.lowerCase (Path.extension path)
  match l.format? ext with
  | some format => .ok format
  | none => .error (.imageExtension ext)

def ImageLibrary.write (l : ImageLibrary) (format : String) (p : Picture) : Except Error ByteArray :=
  (l.encode format p).mapError .imageNotWritten

structure ImageFile where
  path : String
  format : String
  picture : Picture
  bytes : ByteArray

/-- The file is opened once the picture is drawn and its format found, and written then. -/
def ImageFile.save (files : Files) (images : ImageLibrary) (room : Room) (subject : Subject)
    (path : String) (scale : Int) (scheme : String) : Except Error ImageFile := do
  let palette ← Palette.ofName scheme
  let picture ← Picture.renderInMemory room (← subject.grid) palette scale
  let format ← images.formatOf path
  files.checkWrite path
  return ⟨path, format, picture, ← images.write format picture⟩

end Chip8
