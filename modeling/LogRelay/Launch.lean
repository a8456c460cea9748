import LogRelay.Clock

/-!
Starting a transport. A launch spawns a worker and waits for its first connection, but not for ever.
A start also installs the router before the launch, and sets its echo flag after a launch that went
well.
-/

namespace LogRelay

namespace Program

def result (p : Program) (c : Config) (i : Nat) : Except StartError Handle :=
  match p.launcher? i with
  | some (.returned (.enabled a)) => .ok ⟨c.kind, a⟩
  | some (.returned .alreadyActive) => .error (.alreadyActive c.kind)
  | some (.returned (.unresolvable fault)) => .error (.unresolvable c.destination fault)
  | _ => .error (.notReady c.kind c.readyTimeout)

def waiting (p : Program) (i : Nat) : Bool :=
  p.launcher? i = some .waiting

/-- Launches a transport over a connector. `intruder` is a channel that somebody else registers
right after the worker has connected. -/
def launch (p : Program) (c : Config) (connector : Transport) (intruder : Option Channel) :
    Except StartError Handle × Program :=
  if connector ≠ c.kind then
    (.error (.config (.invalid (.wrongConnector connector c.kind))), p)
  else
    let i := p.handshake.launches.length
    let active := p.registry.isActive c.kind
    let p := p.play [.launch c.kind]
    if active then (p.result c i, p)
    else
      let pacer := (Pacer.startingAt p.clock p.tempo).untilSleep p.clock
      match Session.start c.kind c.policy p.network pacer with
      | .failed fault network journal =>
        let p := { p with network := network }.keep journal
        let p := p.act i [.resolve (.error fault), .receive, .hangUp, .withdraw]
        (p.result c i, p)
      | .started s =>
        let p := p.act i [.resolve (.ok s.worker.endpoint)]
        let p := p.afterAttempt ⟨i, c, intruder, station s⟩ s.connect
        let p := if p.waiting i then p.pass c.readyTimeout.nanos (!·.waiting i) else p
        let p := p.act i [.timeOut, .hangUp, .withdraw]
        (p.result c i, p)

/-- A started worker goes to its channel, which is registered already: it connects and, if it has a
launcher to agree with, confirms. The slot for its news, whether it serves the channel, and the
program with the worker at its place either way. -/
def employ (p : Program) (s : Session) (startup : Option (ReadySlot × Publication)) :
    Option ReadySlot × Bool × Program :=
  let p := { p with network := s.network, journal := p.journal ++ s.journal }
  let s := { s with journal := [] }.connect
  let (slot, serves, s) :=
    match startup with
    | none => (none, true, s)
    | some (ready, publication) =>
      if s.stalled then (some ready, false, s)
      else
        let (ok, ready, s) := s.confirm ready publication
        (some ready, ok, s)
  let p := p.absorb s
  (slot, serves && !s.stalled,
    { p with stations := p.stations.set s.worker.kind (some (station s)) })

def startWith (p : Program) (c : Config) : Except StartError Handle × Program :=
  match p.install c.maxLevel with
  | (false, p) => (.error .loggerTaken, p)
  | (true, p) =>
    match p.launch c c.kind none with
    | (.error e, p) => (.error e, p)
    | (.ok handle, p) => (.ok handle, p.setEcho c.echo)

def start (p : Program) (kind : Transport) (host : String) (port : UInt16) (echo : Bool) :
    Except StartError Handle × Program :=
  match Config.ofSettings kind [.destination host port, .echo echo] with
  | .error e => (.error (.config e), p)
  | .ok c => p.startWith c

def setup (p : Program) (s : StoredSettings) : Except StartError (Option Handle) × Program :=
  if s.mode = .mqtt then (.error (.unsupported s.mode), p)
  else
    match s.config? with
    | .error e => (.error (.config e), p)
    | .ok none => (.ok none, p)
    | .ok (some c) =>
      let (answer, p) := p.startWith c
      (answer.map some, p)

end Program

end LogRelay
