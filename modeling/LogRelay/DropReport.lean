import LogRelay.Duration
import LogRelay.Transport

/-!
Reports of dropped lines. Drops add up in a tally, and a warning tells the tally and empties it,
at most once in an interval; a warning that has nothing to tell does not start an interval.
-/

namespace LogRelay

/-- Drops not yet told are counted in 64 bits, and times in milliseconds. -/
structure Warner where
  interval : Nat
  last : Option Nat
  tally : UInt64
deriving DecidableEq

namespace Warner

def create (interval : Duration) : Warner :=
  ⟨min interval.millis (UInt64.size - 1), none, 0⟩

def record (w : Warner) (drops : UInt64) : Warner :=
  { w with tally := w.tally + drops }

def due (w : Warner) (now : Nat) : Bool :=
  match w.last with
  | none => true
  | some last => now - last ≥ w.interval

def warn (w : Warner) (now : Nat) : Option UInt64 × Warner :=
  if w.due now && w.tally ≠ 0 then
    (some w.tally, { w with tally := 0, last := some now })
  else (none, w)

end Warner

structure DropReporter where
  kind : Transport
  seen : UInt64
  warner : Warner
deriving DecidableEq

namespace DropReporter

def create (kind : Transport) (interval : Duration) : DropReporter :=
  ⟨kind, 0, Warner.create interval⟩

/-- Adds the drops that are new and tells the tally if a warning is due. -/
def observe (r : DropReporter) (now : Nat) (dropped : UInt64) : Option UInt64 × DropReporter :=
  let r :=
    if r.seen < dropped then
      { r with warner := r.warner.record (dropped - r.seen), seen := dropped }
    else r
  let (count, warner) := r.warner.warn now
  (count, { r with warner := warner })

def message (kind : Transport) (count : UInt64) : String :=
  s!"netlog {kind.name}: {count.toNat} log lines dropped because the queue was full"

end DropReporter

end LogRelay
