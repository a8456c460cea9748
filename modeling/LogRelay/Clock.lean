import LogRelay.Opening

/-!
The passing of time. Workers act only between two sleeps; when time passes, the sleeps come to
their ends in the order of the clock, and each worker goes on from there. A worker that waits for
lines takes them as soon as they are pushed.
-/

namespace LogRelay

namespace Program

/-- The worker of a kind has its turn: it goes on if its sleep is over, and then takes lines until
it sleeps or none is left. -/
def turn (p : Program) (kind : Transport) : Program :=
  match p.stations.get kind with
  | none => p
  | some s =>
    if s.stalled && p.clock < s.pacer.clock then p
    else
      let s := { s with pacer := s.pacer.untilSleep p.clock }
      let p :=
        if s.stalled then p.afterCall kind (p.session s).resume
        else { p with stations := p.stations.set kind (some s) }
      (p.settle kind).2

def retry (p : Program) (o : Opening) : Program :=
  if p.clock < o.station.pacer.clock then { p with openings := p.openings ++ [o] }
  else
    let s := { o.station with pacer := o.station.pacer.untilSleep p.clock }
    p.afterAttempt o (p.session s).resume

/-- All that happens at the present moment. The turns come twice, as a worker may write records
for another one to send. -/
def moment (p : Program) : Program :=
  let p := p.openings.foldl retry { p with openings := [] }
  let round p := Transport.all.foldl turn p
  round (round p)

def nextWake? (p : Program) : Option Nat :=
  let serving := Transport.all.filterMap fun kind => (p.stations.get kind).filter (·.stalled)
  ((serving ++ p.openings.map (·.station)).map (·.pacer.clock)).min?

/-- Time passes up to a deadline, or until something has come about, over at most `fuel`
wake-ups. -/
def passing (deadline : Nat) (done : Program → Bool) : Nat → Program → Program
  | 0, p => p
  | fuel + 1, p =>
    let p := p.moment
    if done p then p
    else
      match p.nextWake?.filter (· < deadline) with
      | some t => passing deadline done fuel { p with clock := max p.clock t }
      | none => { p with clock := max p.clock deadline }

/-- Lets up to `time` nanoseconds pass. Every worker wakes up once and then at most once in the
shortest time that a sleep takes. -/
def pass (p : Program) (time : Nat) (done : Program → Bool) : Program :=
  let workers := Transport.all.length + p.openings.length
  passing (p.clock + time) done ((time / Tempo.slack + 2) * workers) p

def busy (p : Program) (kind : Transport) : Bool :=
  match p.stations.get kind, p.registry.get kind with
  | some s, some c => s.stalled || !c.isEmpty
  | _, _ => false

end Program

end LogRelay
