import Chip8.Text.Blank
import Chip8.Text.DecimalDigit
import Chip8.Text.Pattern

/-! Text that a lenient reader takes for a number. -/
namespace Chip8.Text.Numeral

open Pattern

/-- A character with digits and blanks of all scripts replaced by those of ASCII. -/
def asAscii (c : Char) : Char :=
  if c.toNat < 0x7F then c
  else if isWideBlank c then ' '
  else
    match digitValue? c with
    | some d => Char.ofNat (0x30 + d)
    | none => '?'

/-- Digits with single underscores between them. -/
def digits : Pattern := seq digit (many (seq (maybe (literal "_")) digit))

def sign : Pattern := maybe (oneOf "+-")

def decimal : Pattern :=
  let power := sequence [anyCase "e", sign, digits]
  let whole := seq digits (maybe (seq (literal ".") (maybe digits)))
  sequence [either whole (seq (literal ".") digits), maybe power]

def number : Pattern :=
  seq sign (anyOf [decimal, anyCase "inf", anyCase "infinity", anyCase "nan"])

def trimBlanks (cs : List Char) : List Char :=
  ((cs.dropWhile isAsciiBlank).reverse.dropWhile isAsciiBlank).reverse

/-- Whether text reads as a number in digits of any script, with blanks around it. -/
def isNumber (cs : List Char) : Bool := number.accepts (trimBlanks (cs.map asAscii))

end Chip8.Text.Numeral
