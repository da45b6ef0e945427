import Chip8.Error

/-! Access to files by path, and a working directory in memory that gives such access. -/
namespace Chip8

namespace Path

/-- The name of a file, without the directories on the way to it. -/
def baseName (path : String) : String :=
  String.ofList (path.toList.reverse.takeWhile (· ≠ '/')).reverse

/-- The end of a name from its last dot on. A name without a dot has none, nor do dots at the front of a
name begin one. -/
def extension (path : String) : String :=
  let name := (baseName path).toList.dropWhile (· = '.')
  if name.contains '.' then String.ofList ('.' :: (name.reverse.takeWhile (· ≠ '.')).reverse) else ""

end Path

structure Files where
  read : String → Except Error (List UInt8)
  /-- Whether a file can be created or replaced. -/
  checkWrite : String → Except Error Unit

/-- The files of a working directory by their paths in it. -/
structure Directory where
  contents : List (String × List UInt8)

namespace Directory

/-- Longest name in a path, in bytes. -/
def maxNameSize : Nat := 255

/-- Longest path, in bytes. -/
def maxPathSize : Nat := 4095

/-- Where a path has led. -/
inductive Place where
  /-- Below the working directory, by the names on the way. -/
  | within (names : List String)
  /-- A number of levels above the working directory. -/
  | above (levels : Nat)
  /-- Below the root of all files, by the names on the way. -/
  | system (names : List String)
  /-- Where there is nothing. -/
  | nowhere

inductive Entry where
  | file (bytes : List UInt8)
  | directory

def names (path : String) : List String := (path.splitOn "/").filter (!·.isEmpty)

/-- The steps that a path takes. Several slashes count as one, and one at the end stands for the directory
itself. -/
def parts (path : String) : List String :=
  if path.toList.getLast? = some '/' then names path ++ ["."] else names path

/-- The names on the way to a file of the directory. -/
def namesWithin (path : String) : List String := (names path).filter (· ≠ ".")

/-- Directories that every system has. -/
def systemNames : List String :=
  ["bin", "dev", "etc", "home", "lib", "opt", "proc", "root", "run", "sbin", "sys", "tmp", "usr",
   "var"]

/-- What is at a place, if anything. Outside the working directory there are directories only, apart
from the file that is always empty. -/
def entry? (d : Directory) : Place → Option Entry
  | .within names =>
      match d.contents.find? (namesWithin ·.1 == names) with
      | some (_, bytes) => some (.file bytes)
      | none =>
          if names.isEmpty || d.contents.any (names.isPrefixOf <| namesWithin ·.1) then some .directory
          else none
  | .above _ => some .directory
  | .system [] => some .directory
  | .system ["dev", "null"] => some (.file [])
  | .system [name] => if systemNames.contains name then some .directory else none
  | .system _ => none
  | .nowhere => none

/-- The place that a name leads to from a directory. -/
def Place.next (p : Place) (name : String) : Place :=
  if name = "." then p
  else if name = ".." then
    match p with
    | within [] => above 1
    | within names => within names.dropLast
    | above levels => above (levels + 1)
    | system names => system names.dropLast
    | nowhere => nowhere
  else
    match p with
    | within names => within (names ++ [name])
    | system names => system (names ++ [name])
    | above _ | nowhere => nowhere

/-- Only a directory can be left for the next place, and names have a greatest length. -/
def advance (d : Directory) (p : Place) (name : String) : Except FileCause Place := do
  match d.entry? p with
  | none => throw .missing
  | some (.file _) => throw .notDirectory
  | some .directory =>
      if name.utf8ByteSize > maxNameSize then throw .nameTooLong
      return p.next name

/-- Where a path begins. -/
def origin (path : String) : Place :=
  if path.toList.head? = some '/' then .system [] else .within []

/-- The place that a path leads to, which may be empty. -/
def locate (d : Directory) (path : String) : Except FileCause Place := do
  if path.isEmpty then throw .missing
  if path.utf8ByteSize > maxPathSize then throw .nameTooLong
  (parts path).foldlM d.advance (origin path)

def openEntry (d : Directory) (path : String) : Except FileCause (List UInt8) := do
  match d.entry? (← d.locate path) with
  | none => throw .missing
  | some .directory => throw .isDirectory
  | some (.file bytes) => return bytes

def checkPlace (d : Directory) (path : String) : Except FileCause Unit := do
  match d.entry? (← d.locate path) with
  | some .directory => throw .isDirectory
  | _ => return ()

/-- A path with a zero character is no path. -/
def withPath {α : Type} (path : String) (found : Except FileCause α) : Except Error α :=
  if path.toList.contains '\x00' then .error .nullInPath else found.mapError (.file · (some path))

def read (d : Directory) (path : String) : Except Error (List UInt8) :=
  withPath path (d.openEntry path)

/-- A file can be written wherever there is no directory, in every directory. -/
def checkWrite (d : Directory) (path : String) : Except Error Unit :=
  withPath path (d.checkPlace path)

def access (d : Directory) : Files := ⟨d.read, d.checkWrite⟩

end Directory
end Chip8
