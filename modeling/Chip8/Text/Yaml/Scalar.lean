import Chip8.Text.Hex
import Chip8.Text.Yaml.Plain

/-! Writing text as a YAML scalar: plain where it can be, else in single quotes, else in double
quotes with escapes. Long lines are folded at blanks. -/
namespace Chip8.Text.Yaml

/-- Lines are folded at the first blank after this column. -/
def lineWidth : Nat := 80

/-- Columns by which the lines after the first are indented. -/
def indent : Nat := 2

def margin : String := String.ofList (List.replicate indent ' ')

/-- What has been written so far, and the column where the next character goes. -/
structure Pen where
  written : String
  column : Nat

namespace Pen

def put (p : Pen) (s : String) : Pen := ⟨p.written ++ s, p.column + s.length⟩

def newLine (p : Pen) : Pen := ⟨p.written ++ "\n" ++ margin, indent⟩

def isFull (p : Pen) : Bool := p.column > lineWidth

/-- Line breaks, the first of which is doubled if it is a line feed. -/
def putBreaks (p : Pen) (breaks : List Char) : Pen :=
  let doubled := if breaks.head? = some '\n' then "\n" else ""
  ⟨p.written ++ doubled ++ String.ofList breaks ++ margin, indent⟩

/-- Blanks; a single one inside the text of a full line gives way to a new line. -/
def putBlanks (p : Pen) (blanks : List Char) (inside : Bool) : Pen :=
  if blanks.length = 1 && inside && p.isFull then p.newLine else p.put (String.ofList blanks)

end Pen

inductive RunKind where
  | word
  | blanks
  | breaks
deriving DecidableEq

def kindOf (c : Char) : RunKind :=
  if c = ' ' then .blanks else if isBreak c then .breaks else .word

/-- Longest runs of blanks, of breaks and of other characters. -/
def runsOf (s : String) : List (List Char) := s.toList.splitBy fun a b => kindOf a == kindOf b

/-- Writes runs of characters, each word as `word` says. -/
def foldRuns (word : List Char → String) (p : Pen) (first : Bool) : List (List Char) → Pen
  | [] => p
  | run :: rest =>
      let p :=
        match run.head?.map kindOf with
        | some .blanks => p.putBlanks run (!first && !rest.isEmpty)
        | some .breaks => p.putBreaks run
        | _ => p.put (word run)
      foldRuns word p false rest

/-- In single quotes a quote is written twice. -/
def doubleQuotes (cs : List Char) : String :=
  String.ofList (cs.flatMap fun c => if c = '\'' then [c, c] else [c])

/-- Escapes of one letter. -/
def shortEscapes : List (Char × Char) :=
  [('\x00', '0'), ('\x07', 'a'), ('\x08', 'b'), ('\t', 't'), ('\n', 'n'), ('\x0B', 'v'),
   ('\x0C', 'f'), ('\r', 'r'), ('\x1B', 'e'), ('"', '"'), ('\\', '\\'), ('\x85', 'N'),
   ('\u2028', 'L'), ('\u2029', 'P')]

/-- Characters that stand for themselves in double quotes. -/
def isPlainInQuotes (c : Char) : Bool :=
  let n := c.toNat
  ((0x20 ≤ n && n ≤ 0x7E) || (0xA0 ≤ n && n ≤ 0xFFFD))
    && !(['"', '\\', '\u2028', '\u2029', '\uFEFF'].contains c)

def escape (c : Char) : String :=
  match shortEscapes.lookup c with
  | some letter => String.ofList ['\\', letter]
  | none =>
      if c.toNat < 0x100 then "\\x" ++ hex 2 c.toNat
      else if c.toNat < 0x10000 then "\\u" ++ hex 4 c.toNat
      else "\\U" ++ hex 8 c.toNat

/-- A fold in double quotes: a backslash ends the line, and another one keeps a blank that begins
the next line. -/
def Pen.fold (p : Pen) (next? : Option Char) : Pen :=
  let p := (p.put "\\").newLine
  if next? = some ' ' then p.put "\\" else p

/-- Writes the inside of double quotes. Full lines are folded before a blank and around an escape,
but never beside the first or the last character. -/
def writeEscaped (p : Pen) (first afterEscape : Bool) : List Char → Pen
  | [] => p
  | c :: rest =>
      let inside := !first && !rest.isEmpty
      if isPlainInQuotes c then
        let p := if inside && (c = ' ' || afterEscape) && p.isFull then p.fold (some c) else p
        writeEscaped (p.put c.toString) false false rest
      else
        let p := p.put (escape c)
        let p := if inside && p.column > lineWidth + 1 then p.fold rest.head? else p
        writeEscaped p false true rest

/-- A scalar that begins at a column. -/
def scalar (column : Nat) (s : String) : String :=
  if isPlain s then (foldRuns String.ofList ⟨"", column⟩ true (runsOf s)).written
  else if isQuotable s then
    (foldRuns doubleQuotes ⟨"'", column + 1⟩ true (runsOf s)).written ++ "'"
  else (writeEscaped ⟨"\"", column + 1⟩ true false s.toList).written ++ "\""

end Chip8.Text.Yaml
