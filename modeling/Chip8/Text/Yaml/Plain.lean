import Chip8.Text.Numeral

/-! Which text may stand in YAML without quotes: text that reads back as text, holds no mark of the
language and stays on one line. -/
namespace Chip8.Text.Yaml

open Pattern

/-! Forms that stand for something other than text. -/

def underscored : Pattern := many (oneOf "0123456789_")

def sign : Pattern := maybe (oneOf "+-")

/-- Parts in base sixty after the first one. -/
def sixtieths : Pattern := repeated (sequence [literal ":", maybe (oneOf "012345"), digit])

def integer : Pattern :=
  seq sign (anyOf
    [seq (literal "0b") (repeated (oneOf "01_")),
     seq (literal "0x") (repeated (oneOf "0123456789abcdefABCDEF_")),
     seq (literal "0") (repeated (oneOf "01234567_")),
     literal "0",
     sequence [oneOf "123456789", underscored, maybe sixtieths]])

def realNumber : Pattern :=
  let power := maybe (sequence [oneOf "eE", oneOf "+-", repeated digit])
  anyOf
    [sequence [sign, digit, underscored, literal ".", underscored, power],
     sequence [literal ".", digit, underscored, power],
     sequence [sign, digit, underscored, sixtieths, literal ".", underscored],
     sequence [sign, anyOf [literal ".inf", literal ".Inf", literal ".INF"]],
     anyOf [literal ".nan", literal ".NaN", literal ".NAN"]]

def timestamp : Pattern :=
  let two := seq digit digit
  let oneOrTwo := seq digit (maybe digit)
  let dash := literal "-"
  let colon := literal ":"
  let blanks := oneOf " \t"
  let year := seq two two
  let zone :=
    either (literal "Z") (sequence [oneOf "+-", oneOrTwo, maybe (seq colon two)])
  either (sequence [year, dash, two, dash, two])
    (sequence
      [year, dash, oneOrTwo, dash, oneOrTwo, either (oneOf "Tt") (repeated blanks),
       oneOrTwo, colon, two, colon, two, maybe (seq (literal ".") (many digit)),
       maybe (seq (many blanks) zone)])

/-- Words for truth values, for nothing, and for special entries. -/
def reservedWords : List String :=
  ["", "~", "null", "Null", "NULL", "=", "<<",
   "y", "Y", "yes", "Yes", "YES", "n", "N", "no", "No", "NO",
   "true", "True", "TRUE", "false", "False", "FALSE",
   "on", "On", "ON", "off", "Off", "OFF"]

def readsAsOther (s : String) : Bool :=
  reservedWords.contains s || Numeral.isNumber s.toList
    || (anyOf [integer, realNumber, timestamp]).accepts s.toList

/-! Characters and their places. -/

def isBreak (c : Char) : Bool := ['\n', '\x85', '\u2028', '\u2029'].contains c

/-- Characters that end a word. -/
def isGap (c : Char) : Bool := isBreak c || ['\x00', ' ', '\t', '\r'].contains c

/-- Characters that are shown by an escape only. -/
def isSpecial (c : Char) : Bool :=
  let n := c.toNat
  let shown := n = 0x0A || (0x20 ≤ n && n ≤ 0x7E) || n = 0x85 || (0xA0 ≤ n && n ≤ 0xFFFD)
    || (0x10000 ≤ n && n < 0x10FFFF)
  !shown || n = 0xFEFF

def endsWord (rest : List Char) : Bool := rest.head?.all isGap

/-- Marks that begin something other than text. -/
def startsOther (cs : List Char) : Bool :=
  match cs with
  | c :: rest =>
      "#,[]\x7b\x7d&*!|>'\"%@\x60".toList.contains c
        || (['?', ':', '-'].contains c && endsWord rest)
        || cs.take 3 = ['-', '-', '-'] || cs.take 3 = ['.', '.', '.']
  | [] => false

/-- A colon at the end of a word, or a number sign at the start of one. -/
def hasMark (afterGap : Bool) : List Char → Bool
  | c :: rest =>
      (c = ':' && endsWord rest) || (c = '#' && afterGap) || hasMark (isGap c) rest
  | [] => false

def isPlain (s : String) : Bool :=
  let cs := s.toList
  !(readsAsOther s || startsOther cs || hasMark true cs || cs.any isBreak || cs.any isSpecial
    || cs.head? = some ' ' || cs.getLast? = some ' ')

/-- A blank beside a line break. -/
def hasBlankAtBreak : List Char → Bool
  | c :: d :: rest =>
      (c = ' ' && isBreak d) || (isBreak c && d = ' ') || hasBlankAtBreak (d :: rest)
  | _ => false

/-- Text that single quotes keep as it is. -/
def isQuotable (s : String) : Bool :=
  !(s.toList.any isSpecial || hasBlankAtBreak s.toList)

end Chip8.Text.Yaml
