import LogRelay.Text.Blank

/-!
Severities of log records, and the thresholds that let them pass.
-/

namespace LogRelay

inductive Level where
  | error
  | warn
  | info
  | debug
  | trace
deriving DecidableEq

namespace Level

def rank : Level → Nat
  | error => 1
  | warn => 2
  | info => 3
  | debug => 4
  | trace => 5

/-- The tag at the start of each line; the most verbose level is tagged V. -/
def letter : Level → String
  | error => "E"
  | warn => "W"
  | info => "I"
  | debug => "D"
  | trace => "V"

def all : List Level :=
  [error, warn, info, debug, trace]

def name : Level → String
  | error => "error"
  | warn => "warn"
  | info => "info"
  | debug => "debug"
  | trace => "trace"

end Level

/-- A threshold: nothing passes, or everything at least as severe as a level. -/
inductive Threshold where
  | off
  | upTo (level : Level)
deriving DecidableEq

namespace Threshold

def rank : Threshold → Nat
  | off => 0
  | upTo level => level.rank

def passes (t : Threshold) (level : Level) : Bool :=
  level.rank ≤ t.rank

def all : List Threshold :=
  off :: Level.all.map upTo

def name : Threshold → String
  | off => "off"
  | upTo level => level.name

def ofName? (s : String) : Option Threshold :=
  all.find? (·.name == Text.lower s)

end Threshold

end LogRelay
