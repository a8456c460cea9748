import LogRelay.Program

/-!
The first connection of a worker. A worker that gets there reports to its launcher, which registers
the channel and announces it. Whatever goes wrong before that leaves the registry as it was, and a
worker whose channel is not announced leaves.
-/

namespace LogRelay

namespace Session

def leave (s : Session) : Session :=
  (s.note .info "channel was not published; worker exiting").close

/-- Reports the first connection and waits for the announcement. The flag tells whether the worker
goes on to serve; a worker that waits for an announcement that may still come is stalled. -/
def confirm (s : Session) (ready : ReadySlot) (publication : Publication) :
    Bool × ReadySlot × Session :=
  let (told, ready) := ready.offer (.connected s.worker.endpoint)
  if told then
    match publication with
    | .announced => (true, ready, s)
    | .withdrawn => (false, ready, s.leave)
    | .pending => (false, ready, { s with stalled := true })
  else (false, ready, s.leave)

end Session

namespace Program

def play (p : Program) (moves : List Handshake.Move) : Program :=
  { p with handshake := p.handshake.play moves }

def act (p : Program) (i : Nat) (actions : List Handshake.Action) : Program :=
  p.play (actions.map (.act i))

def launcher? (p : Program) (i : Nat) : Option Handshake.Launcher :=
  (p.handshake.launches[i]?).map (·.launcher)

def enabledRecord (c : Config) (a : SocketAddress) : Record :=
  ⟨.info, "netlogging::start",
    s!"netlog {c.kind.name}: remote logging to {c.destination.text} ({a.text}) enabled"⟩

/-- The worker of a launch has connected. If its launcher still waits it registers the channel and
announces it, unless it finds the place taken. -/
def arrive (p : Program) (o : Opening) (s : Session) : Program :=
  let kind := o.config.kind
  let p := p.act o.launch [.connect true, .report]
  let p := (o.intruder.bind (p.register? kind ·)).getD p
  let p := (p.act o.launch [.receive]).play [.register o.launch]
  match p.launcher? o.launch with
  | some (.registered a) =>
    let p := p.setRegistry (p.registry.put kind (Channel.create o.config.capacity o.config.backend))
    let p := { p with stations := p.stations.set kind (some (station s)) }
    (p.act o.launch [.announce, .confirm]).keep [enabledRecord o.config a]
  | _ => (p.act o.launch [.hangUp, .withdraw, .confirm]).absorb s.leave

def afterAttempt (p : Program) (o : Opening) (s : Session) : Program :=
  let p := p.absorb s
  let s := { s with journal := [] }
  if s.stalled then { p with openings := p.openings ++ [{ o with station := station s }] }
  else p.arrive o s

end Program

end LogRelay
