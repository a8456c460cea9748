import LogRelay.Destination
import LogRelay.Stream
import LogRelay.Transport

/-!
A network in memory: what it does to names, connections and sends, and what it has received.
Changes of its settings play the part of the weather between two calls.
-/

namespace LogRelay

/-- How far the network reaches: to everybody, to nobody for now, or to nobody ever for want of a
route. Without a route no stream is connected, and datagrams, whose links need no peer, are not
sent. -/
inductive Uplink where
  | up
  | down
  | absent
deriving DecidableEq

/-- Every name leads to the endpoint; without one, addresses are taken as they are written. The
refusals, failures and interruptions are those to come, and the budget is what streams still take
before every write meets a reset. Inboxes and arrivals hold what came last first. -/
structure Network where
  endpoint : Option SocketAddress
  unresolvable : Bool
  uplink : Uplink
  refusals : Nat
  sendFailures : Nat
  interrupts : Nat
  maxChunk : Option Nat
  budget : Option Nat
  resolves : Nat
  attempts : Nat
  connectedTo : List SocketAddress
  inboxes : List Bytes
  arrivals : List Bytes
  openLinks : Nat
  mostOpen : Nat

inductive NetChange where
  | endpoint (a : SocketAddress)
  | unresolvable (on : Bool)
  | online (on : Bool)
  | refusals (n : Nat)
  | sendFailures (n : Nat)
  | interrupts (n : Nat)
  | maxChunk (n : Option Nat)
  | budget (n : Option Nat)

/-- The refusals that changes bring. -/
def NetChange.refused : List NetChange → Nat
  | [] => 0
  | .refusals n :: rest => n + refused rest
  | _ :: rest => refused rest

namespace Network

def fresh (endpoint : Option SocketAddress) : Network where
  endpoint := endpoint
  unresolvable := false
  uplink := .up
  refusals := 0
  sendFailures := 0
  interrupts := 0
  maxChunk := none
  budget := none
  resolves := 0
  attempts := 0
  connectedTo := []
  inboxes := []
  arrivals := []
  openLinks := 0
  mostOpen := 0

/-- A host alone: addresses are taken as they are written, and no route leads anywhere. -/
def isolated : Network :=
  { fresh none with uplink := .absent }

def collector : SocketAddress :=
  ⟨.v4 192 0 2 10, 514⟩

def connections (n : Network) : List Bytes :=
  n.inboxes.map List.reverse

def datagrams (n : Network) : List Bytes :=
  n.arrivals.reverse

def octets (n : Network) : Nat :=
  n.inboxes.foldl (fun count b => count + b.length) 0

def change (n : Network) : NetChange → Network
  | .endpoint a => { n with endpoint := some a }
  | .unresolvable on => { n with unresolvable := on }
  | .online on => { n with uplink := if on then .up else .down }
  | .refusals k => { n with refusals := k }
  | .sendFailures k => { n with sendFailures := k }
  | .interrupts k => { n with interrupts := k }
  | .maxChunk k => { n with maxChunk := k }
  | .budget k => { n with budget := k }

def changeAll (n : Network) (cs : List NetChange) : Network :=
  cs.foldl change n

theorem refusals_changeAll_le (n : Network) (cs : List NetChange) :
    (n.changeAll cs).refusals ≤ n.refusals + NetChange.refused cs := by
  induction cs generalizing n with
  | nil => exact Nat.le_refl _
  | cons c cs ih =>
    have later := ih (n.change c)
    simp only [changeAll, List.foldl_cons] at later ⊢
    cases c <;> simp only [NetChange.refused, change] at later ⊢ <;> omega

def resolve (n : Network) (d : Destination) : Except Fault SocketAddress × Network :=
  let answer :=
    if n.unresolvable then .error (.noAddress d.host)
    else
      match n.endpoint with
      | some a => .ok a
      | none =>
        match d.lookup with
        | .address a => .ok a
        | .refused fault => .error fault
        | .name => .error (.noAddress d.host)
  (answer, { n with resolves := n.resolves + 1 })

/-- Why no link of a kind can be opened while the uplink is as it is. -/
def barrier? (n : Network) (kind : Transport) : Option Fault :=
  match n.uplink, kind with
  | .up, _ => none
  | .down, _ => some .refused
  | .absent, .tcp => some .unreachable
  | .absent, .udp => none

def connect (n : Network) (kind : Transport) (a : SocketAddress) : Except Fault Nat × Network :=
  let counted := { n with attempts := n.attempts + 1 }
  match n.barrier? kind with
  | some fault => (.error fault, counted)
  | none =>
    if n.refusals > 0 then (.error .refused, { counted with refusals := n.refusals - 1 })
    else
      (.ok n.inboxes.length,
        { counted with
          connectedTo := n.connectedTo ++ [a]
          inboxes := n.inboxes ++ [[]]
          openLinks := n.openLinks + 1
          mostOpen := max n.mostOpen (n.openLinks + 1) })

theorem refusals_of_refused {n m : Network} {kind : Transport} {a : SocketAddress} {fault : Fault}
    (h : n.connect kind a = (.error fault, m)) :
    m.refusals ≤ n.refusals ∧ (n.barrier? kind = none → m.refusals < n.refusals) := by
  rw [connect] at h
  split at h
  · next barred =>
    cases h
    exact ⟨Nat.le_refl _, fun free => by rw [barred] at free; cases free⟩
  · split at h
    · cases h
      dsimp only
      omega
    · cases h

def close (n : Network) : Network :=
  { n with openLinks := n.openLinks - 1 }

def receive (n : Network) (link : Nat) (b : Bytes) : Network :=
  { n with inboxes := n.inboxes.modify link (b.reverse ++ ·) }

/-- One write on a stream. Interruptions come first, then a used-up budget, then the limits on
what is taken. -/
def write (link : Nat) (n : Network) (offer : Bytes) : Reply × Network :=
  if n.interrupts > 0 then (.interrupted, { n with interrupts := n.interrupts - 1 })
  else
    let chunk := match n.maxChunk with
      | some k => min offer.length k
      | none => offer.length
    match n.budget with
    | some 0 => (.failed .reset, n)
    | some left =>
      let count := min chunk left
      (.accepted count,
        { n.receive link (offer.take count) with budget := some (left - count) })
    | none => (.accepted chunk, n.receive link (offer.take chunk))

/-- Writes a whole text on a stream. One call for each octet, one for each interruption and a last
one are always enough. -/
def writeAll (n : Network) (link : Nat) (b : Bytes) : Transfer Network :=
  writeFully (write link) (b.length + n.interrupts + 1) n b

/-- Sends one line over a link; the fault if it did not go out whole. -/
def send (n : Network) (kind : Transport) (link : Nat) (b : Bytes) : Option Fault × Network :=
  match n.uplink with
  | .down => (some .offline, n)
  | .absent => (some .unreachable, n)
  | .up =>
    if n.sendFailures > 0 then (some .injected, { n with sendFailures := n.sendFailures - 1 })
    else
      match kind with
      | .udp => (none, { n.receive link b with arrivals := b :: n.arrivals })
      | .tcp =>
        let t := n.writeAll link b
        match t.ending with
        | .complete => (none, t.writer)
        | .failed fault => (some fault, t.writer)
        | .unfinished => (some .timedOut, t.writer)

theorem map_reverse_modify (inboxes : List Bytes) (link : Nat) (b : Bytes) :
    (inboxes.modify link (b.reverse ++ ·)).map List.reverse =
      (inboxes.map List.reverse).modify link (· ++ b) := by
  induction inboxes generalizing link with
  | nil => cases link <;> rfl
  | cons first rest ih =>
    cases link with
    | zero =>
      simp only [List.modify_zero_cons, List.map_cons, List.reverse_append, List.reverse_reverse]
    | succ link => simp only [List.modify_succ_cons, List.map_cons, ih]

theorem connections_receive (n : Network) (link : Nat) (b : Bytes) :
    (n.receive link b).connections = n.connections.modify link (· ++ b) :=
  map_reverse_modify n.inboxes link b

theorem connections_open (n : Network) :
    { n with inboxes := n.inboxes ++ [[]] }.connections = n.connections ++ [[]] := by
  simp only [connections, List.map_append, List.map_cons, List.map_nil, List.reverse_nil]

theorem datagrams_arrive (n : Network) (b : Bytes) :
    { n with arrivals := b :: n.arrivals }.datagrams = n.datagrams ++ [b] := by
  simp only [datagrams, List.reverse_cons]

end Network

end LogRelay
