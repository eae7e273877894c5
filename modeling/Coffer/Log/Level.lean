/-!
How urgent a note is. Five levels have names; numbers between and beyond them are possible.
-/

namespace Coffer

inductive LogLevel where
  | debug
  | info
  | warning
  | error
  | critical
deriving DecidableEq, Repr

namespace LogLevel

def all : List LogLevel :=
  [debug, info, warning, error, critical]

def name : LogLevel → String
  | debug => "DEBUG"
  | info => "INFO"
  | warning => "WARNING"
  | error => "ERROR"
  | critical => "CRITICAL"

def number : LogLevel → Int
  | debug => 10
  | info => 20
  | warning => 30
  | error => 40
  | critical => 50

def ofName? (s : String) : Option LogLevel :=
  all.find? (·.name == s)

/-- How a number is shown. -/
def nameOf (n : Int) : String :=
  match all.find? (·.number == n) with
  | some level => level.name
  | none => if n = 0 then "NOTSET" else "Level " ++ toString n

end LogLevel

end Coffer
