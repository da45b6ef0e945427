/-! Patterns of text, matched by consuming one character at a time. -/
namespace Chip8.Text

inductive Pattern where
  | never
  | empty
  | char (admits : Char → Bool)
  | seq (first second : Pattern)
  | either (left right : Pattern)
  /-- Any number of times. -/
  | many (each : Pattern)

namespace Pattern

def acceptsEmpty : Pattern → Bool
  | never | char _ => false
  | empty | many _ => true
  | seq p q => p.acceptsEmpty && q.acceptsEmpty
  | either p q => p.acceptsEmpty || q.acceptsEmpty

/-- One after the other, in the least form. -/
def join : Pattern → Pattern → Pattern
  | never, _ => never
  | empty, q => q
  | p, q => seq p q

/-- Either of two, in the least form. -/
def choose : Pattern → Pattern → Pattern
  | never, q => q
  | p, never => p
  | p, q => either p q

def after (c : Char) : Pattern → Pattern
  | never | empty => never
  | char admits => if admits c then empty else never
  | seq p q =>
      let more := join (p.after c) q
      if p.acceptsEmpty then choose more (q.after c) else more
  | either p q => choose (p.after c) (q.after c)
  | many p => join (p.after c) (many p)

def accepts (p : Pattern) (cs : List Char) : Bool := (cs.foldl (fun p c => p.after c) p).acceptsEmpty

def oneOf (members : String) : Pattern := char members.toList.contains

def literal (s : String) : Pattern := s.toList.foldr (fun c p => seq (char (· == c)) p) empty

/-- Small or capital ASCII letters alike. -/
def anyCase (s : String) : Pattern :=
  s.toList.foldr (fun c p => seq (char (·.toLower == c.toLower)) p) empty

def sequence (parts : List Pattern) : Pattern := parts.foldr seq empty

def anyOf (choices : List Pattern) : Pattern := choices.foldr either never

def maybe (p : Pattern) : Pattern := either p empty

def repeated (p : Pattern) : Pattern := seq p (many p)

def digit : Pattern := char Char.isDigit

end Pattern
end Chip8.Text
