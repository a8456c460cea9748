import LogRelay.Level
import LogRelay.Router

/-!
Log records, and the text in which a router receives them: the tag of the level, the milliseconds
since the start, the target and the message, ended by a newline.
-/

namespace LogRelay

structure Record where
  level : Level
  target : String
  message : String
deriving DecidableEq

namespace Record

/-- The value handed to the router for a message. The clock stands at zero. -/
def value (level : Level) (target : String) (message : Script) : Script :=
  .text level.letter <| .text " (" <| .text "0" <| .text ") " <| .text target <| .text ": " <|
    message.andThen (.ofText "\n")

def script (r : Record) : Script :=
  value r.level r.target (.ofText r.message)

end Record

namespace Desk

/-- Logs a message through the main router if the threshold lets its level pass. The flag tells
whether the call unwound. -/
def log (d : Desk) (threshold : Threshold) (level : Level) (target : String) (message : Script) :
    Bool × Desk :=
  if threshold.passes level then d.emit .main (Record.value level target message) else (false, d)

/-- Logs a record of the library itself; its text cannot unwind. -/
def logRecord (d : Desk) (threshold : Threshold) (r : Record) : Desk :=
  (d.log threshold r.level r.target (.ofText r.message)).2

end Desk

end LogRelay
