/-! The severities of log records. -/

namespace CustomerNotice

inductive Level
  | error
  | warn
  | info
  | debug
  | trace
  deriving DecidableEq, Repr

namespace Level

/-- A larger number lets more records through. -/
def verbosity : Level → Nat
  | error => 1
  | warn => 2
  | info => 3
  | debug => 4
  | trace => 5

def code : Level → Nat
  | error => 50
  | warn => 40
  | info => 30
  | debug => 20
  | trace => 10

def label : Level → String
  | error => "error"
  | warn => "warn"
  | info => "info"
  | debug => "debug"
  | trace => "trace"

def all : List Level := [error, warn, info, debug, trace]

def ofLabel? (name : String) : Option Level :=
  all.find? fun level => level.label = name.map Char.toLower

end Level

/-- The most verbose level that passes; none for nothing at all. -/
abbrev Threshold := Option Level

namespace Threshold

def passes (threshold : Threshold) (level : Level) : Bool :=
  match threshold with
  | some most => level.verbosity ≤ most.verbosity
  | none => false

end Threshold
end CustomerNotice
