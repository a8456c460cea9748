import LogRelay.Clock

/-!
What arrives at the collectors of a program: the datagrams one by one, or the lines of the stream.
-/

namespace LogRelay

/-- The lines of a stream, each with its newline; the last may have none. `line` holds the
beginning of the first one in reverse. -/
def splitLines (line : Bytes) : Bytes → List Bytes
  | [] => if line.isEmpty then [] else [line.reverse]
  | b :: rest =>
    if b = newline then (b :: line).reverse :: splitLines [] rest else splitLines (b :: line) rest

namespace Program

def received (p : Program) : Transport → List Bytes
  | .udp => p.network.datagrams
  | .tcp =>
    match (p.stations.get .tcp).bind (·.worker.link) with
    | some link => splitLines [] ((p.network.connections[link]?).getD [])
    | none => []

/-- What the collector of a transport receives next. Its patience ends after ten seconds. -/
def collect (p : Program) (kind : Transport) : Option Bytes × Program :=
  let next (p : Program) : Option Bytes := (p.received kind)[p.collected.get kind]?
  let p := p.pass (10 * Duration.second) (fun p => (next p).isSome)
  match next p with
  | some b => (some b, { p with collected := p.collected.set kind (p.collected.get kind + 1) })
  | none => (none, p)

def collectMany (p : Program) (kind : Transport) : Nat → List (Option Bytes) × Program
  | 0 => ([], p)
  | n + 1 =>
    let (first, p) := p.collect kind
    let (rest, p) := p.collectMany kind n
    (first :: rest, p)

end Program

end LogRelay
