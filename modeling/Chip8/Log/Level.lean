/-! Severity of log messages. -/
namespace Chip8

inductive Level where
  | debug
  | info
  | warning
  | error
  | critical
deriving DecidableEq, Repr, Inhabited

namespace Level

def all : List Level := [debug, info, warning, error, critical]

def rank : Level → Nat
  | debug => 0
  | info => 1
  | warning => 2
  | error => 3
  | critical => 4

def name : Level → String
  | debug => "DEBUG"
  | info => "INFO"
  | warning => "WARNING"
  | error => "ERROR"
  | critical => "CRITICAL"

/-- Besides the ASCII letters, the dotless i and the long s have ASCII capitals. -/
def capital (c : Char) : Char :=
  if c = 'ı' then 'I' else if c = 'ſ' then 'S' else c.toUpper

def capitals (s : String) : String := String.ofList (s.toList.map capital)

/-- Names are found in any case. -/
def ofName? (s : String) : Option Level := all.find? (·.name == capitals s)

theorem ofName?_name (level : Level) : ofName? level.name = some level := by
  cases level <;> decide +kernel

end Level
end Chip8
