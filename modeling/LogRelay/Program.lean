import LogRelay.Handshake
import LogRelay.Settings.Stored
import LogRelay.Worker

/-!
A program that logs: its logger, its router and registry, the network around it and the workers
that serve its channels. A start installs the router, launches a worker and registers the channel
once the worker is connected; lines pushed from then on are sent by the worker. The program has one
clock, and a worker that sleeps has one of its own that stands at the end of its sleep.
-/

namespace LogRelay

inductive Logger where
  | none
  | foreign
  | router
deriving DecidableEq

structure Station where
  worker : Worker
  pacer : Pacer
  stalled : Bool

/-- A worker on its way to its first connection, by the place of its launch, and the channel that
somebody else registers as soon as it is connected. -/
structure Opening where
  launch : Nat
  config : Config
  intruder : Option Channel
  station : Station

/-- All attempts to install the router have the outcome of the first one. The launchers of the
workers that are not connected yet wait for them or have given up. What has reached the collectors
is looked at piece by piece. -/
structure Program where
  logger : Logger
  installed : Option Bool
  maxLevel : Threshold
  desk : Desk
  network : Network
  stations : Transport.Table (Option Station)
  handshake : Handshake.State
  openings : List Opening
  journal : Array Record
  tempo : Tempo
  clock : Nat
  collected : Transport.Table Nat

structure Handle where
  kind : Transport
  endpoint : SocketAddress
deriving DecidableEq

inductive StartError where
  | unresolvable (destination : Destination) (fault : Fault)
  | notReady (kind : Transport) (timeout : Duration)
  | alreadyActive (kind : Transport)
  | unsupported (mode : LogMode)
  | loggerTaken
  | config (e : ConfigError)
deriving DecidableEq

namespace StartError

def message : StartError → String
  | unresolvable destination fault => s!"cannot resolve {destination.text}: {fault.message}"
  | notReady kind timeout =>
    s!"{kind.name} transport did not connect within {timeout.text}"
  | alreadyActive kind => s!"{kind.name} transport is already active"
  | unsupported mode => s!"remote logging over {mode.name} is not supported"
  | loggerTaken => "another global logger is already installed"
  | config e => e.message

end StartError

namespace Program

def fresh (network : Network) : Program where
  logger := .none
  installed := none
  maxLevel := .off
  desk := Desk.single (Router.create Registry.empty false)
  network := network
  stations := .fill none
  handshake := .initial
  openings := []
  journal := #[]
  tempo := .full
  clock := 0
  collected := .fill 0

def registry (p : Program) : Registry :=
  p.desk.main.registry

def setRegistry (p : Program) (r : Registry) : Program :=
  { p with desk := p.desk.update .main ({ · with registry := r }) }

/-- Writes down the records of the library that the threshold lets pass, and hands them to the
router if it is the logger. -/
def keep (p : Program) (records : List Record) : Program :=
  let passed := records.filter fun r => p.maxLevel.passes r.level
  { p with
    journal := p.journal ++ passed
    desk :=
      if p.logger = .router then passed.foldl (·.logRecord p.maxLevel ·) p.desk else p.desk }

def session (p : Program) (s : Station) : Session :=
  ⟨s.worker, p.network, s.pacer, [], s.stalled⟩

def absorb (p : Program) (s : Session) : Program :=
  { p with network := s.network }.keep s.journal

def station (s : Session) : Station :=
  ⟨s.worker, s.pacer, s.stalled⟩

def register? (p : Program) (kind : Transport) (c : Channel) : Option Program :=
  (p.registry.register? kind c).map fun r =>
    { p.setRegistry r with handshake := p.handshake.play [.intrude kind] }

def push (p : Program) (kind : Transport) (l : Line) : Option PushOutcome × Program :=
  let (outcome, r) := p.registry.push kind l
  (outcome, p.setRegistry r)

def take (p : Program) (kind : Transport) : Option (Option Line) × Program :=
  let (l, r) := p.registry.take kind
  (l, p.setRegistry r)

/-- The worker at its place has acted. Unless it has stalled it looks at the drop count. -/
def afterCall (p : Program) (kind : Transport) (s : Session) : Program :=
  let p := p.absorb s
  let s := { s with journal := [] }
  let seen := if s.stalled then s else s.observe ((p.registry.dropped kind).getD 0)
  let p := p.absorb seen
  { p with stations := p.stations.set kind (some (station seen)) }

def send (p : Program) (kind : Transport) (s : Station) (l : Line) : Delivery × Program :=
  let (outcome, sent) := (p.session s).deliver l
  (outcome, p.afterCall kind sent)

/-- The worker of a kind takes one line and sends it; nothing if there is no such worker or no line,
or if the worker has stalled. -/
def serveOne (p : Program) (kind : Transport) : Option (Delivery × Program) :=
  match p.stations.get kind with
  | none => none
  | some s =>
    if s.stalled then none
    else
      match p.take kind with
      | (some (some l), p) => some (p.send kind s l)
      | _ => none

/-- The worker of a kind takes lines until none is left, at most `fuel` of them; and how many it
took. -/
def serve (kind : Transport) : Nat → Program → Nat × Program
  | 0, p => (0, p)
  | fuel + 1, p =>
    match p.serveOne kind with
    | none => (0, p)
    | some (_, p) =>
      let (n, p) := serve kind fuel p
      (n + 1, p)

/-- Enough lines for the worker of a kind to come to rest: what it takes between two sleeps is
bounded by its queue. -/
def enough (p : Program) (kind : Transport) : Nat :=
  let room := ((p.registry.get kind).map (·.capacity)).getD 0
  let sleeps := ((p.stations.get kind).map (·.pacer.ahead.length)).getD 0
  (sleeps + 2) * (room + 3)

def settle (p : Program) (kind : Transport) : Nat × Program :=
  serve kind (p.enough kind) p

def router? (p : Program) : Option Router :=
  if p.installed = some true then some p.desk.main else none

def setEcho (p : Program) (on : Bool) : Program :=
  { p with desk := p.desk.update .main ({ · with echo := on }) }

def emit (p : Program) (value : Script) : Bool × Program :=
  let (unwound, desk) := p.desk.emit .main value
  (unwound, { p with desk := desk })

def log (p : Program) (level : Level) (target : String) (message : Script) : Bool × Program :=
  if p.logger = .router then
    let (unwound, desk) := p.desk.log p.maxLevel level target message
    (unwound, { p with desk := desk })
  else (false, p)

def installForeign (p : Program) : Bool × Program :=
  if p.logger = .none then (true, { p with logger := .foreign }) else (false, p)

/-- Makes the router the logger, if there was none at the first attempt, and sets the threshold
if the router is the logger. -/
def install (p : Program) (level : Threshold) : Bool × Program :=
  let ok := p.installed.getD (p.logger = .none)
  let p := { p with installed := some ok }
  if ok then (true, { p with logger := .router, maxLevel := level }) else (false, p)

end Program

end LogRelay
