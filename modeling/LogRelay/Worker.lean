import LogRelay.Config
import LogRelay.DropReport
import LogRelay.Pacer
import LogRelay.Record

/-!
The worker of a transport: it resolves its destination, keeps one link open and sends lines over
it. A line whose send fails is lost and never sent again; the worker waits, connects anew and goes
on with the next line. Only the first resolution can fail for good.
-/

namespace LogRelay

inductive Phase where
  | resolving
  | connecting
  | connected
deriving DecidableEq

/-- The link is known by the place of its connection in the network. The streak counts the failed
sends since the last successful one, `lost` all of them, and `sinceYield` the sends since the last
pause for other threads. A worker has overflowed if `sinceYield` has grown out of 32 bits or `lost`
out of 64: where arithmetic is checked, it ended there. -/
structure Worker where
  kind : Transport
  policy : Policy
  phase : Phase
  endpoint : SocketAddress
  link : Option Nat
  connectRetry : Retry
  sendRetry : Retry
  streak : Nat
  lost : Nat
  sinceYield : Nat
  overflowed : Bool
  drops : DropReporter

/-- A worker with all that it acts on, and the records that it wrote about itself. It has stalled if
it stopped in the middle of a call: its pacer has reached its limit, or it would wait for ever. -/
structure Session where
  worker : Worker
  network : Network
  pacer : Pacer
  journal : List Record
  stalled : Bool

/-- A line without octets is skipped. It is withheld if the worker stalled before it could send. -/
inductive Delivery where
  | skipped
  | sent
  | lost
  | withheld
deriving DecidableEq

inductive Start where
  | failed (fault : Fault) (network : Network) (journal : List Record)
  | started (s : Session)

namespace Worker

def target : String := "netlogging::worker"

def record (kind : Transport) (level : Level) (text : String) : Record :=
  ⟨level, target, s!"netlog {kind.name}: {text}"⟩

def refusedText (w : Worker) (fault : Fault) : String :=
  s!"connect to {w.endpoint.text} failed: {fault.message}; retrying in " ++
    w.connectRetry.current.text

def create (kind : Transport) (policy : Policy) (endpoint : SocketAddress) : Worker where
  kind := kind
  policy := policy
  phase := .connecting
  endpoint := endpoint
  link := none
  connectRetry := Retry.fresh policy.connectBackoff
  sendRetry := Retry.fresh policy.sendBackoff
  streak := 0
  lost := 0
  sinceYield := 0
  overflowed := false
  drops := DropReporter.create kind policy.warnInterval

def afterSend (w : Worker) : Bool × Worker :=
  let w :=
    { w with
      streak := 0
      sendRetry := w.sendRetry.reset
      sinceYield := w.sinceYield + 1
      overflowed := w.overflowed || w.sinceYield ≥ Backoff.maxCount }
  if w.policy.yieldEvery > 0 ∧ w.sinceYield ≥ w.policy.yieldEvery then
    (true, { w with sinceYield := 0 })
  else (false, w)

def afterLoss (w : Worker) : Worker :=
  { w with
    link := none
    streak := Backoff.count w.streak
    lost := w.lost + 1
    overflowed := w.overflowed || w.lost + 1 ≥ UInt64.size }

def mustResolve (w : Worker) : Bool :=
  w.policy.resolveEvery > 0 && w.lost % w.policy.resolveEvery == 0

end Worker

namespace Session

def note (s : Session) (level : Level) (text : String) : Session :=
  { s with journal := s.journal ++ [Worker.record s.worker.kind level text] }

/-- Sleeps; then the network changes as it does after this sleep, and a worker whose pacer has
reached its limit stalls. -/
def sleep (s : Session) (d : Duration) : Session :=
  let pacer := s.pacer.sleep d
  { s with
    network := s.network.changeAll (s.pacer.ahead.headD [])
    pacer := pacer
    stalled := s.stalled || pacer.ended }

def established (s : Session) (link : Nat) : Session :=
  let network := if s.worker.link.isSome then s.network.close else s.network
  { s with
    network := network
    worker := { s.worker with
      link := some link
      connectRetry := s.worker.connectRetry.reset
      phase := .connected } }

def refused (s : Session) (fault : Fault) : Session :=
  let delay := s.worker.connectRetry.current
  let s := s.note .warn (s.worker.refusedText fault)
  let s := { s with worker := { s.worker with connectRetry := s.worker.connectRetry.advance } }
  s.sleep delay

/-- No attempt will ever succeed, and nothing ends the attempts: the network is closed to this
kind of link and is not going to change. -/
def hopeless (s : Session) : Bool :=
  (s.network.barrier? s.worker.kind).isSome && s.pacer.ahead.isEmpty && s.pacer.limit.isNone

/-- How much is left before the attempts to connect come to an end. -/
def patience (s : Session) : Nat :=
  s.pacer.foretold + s.network.refusals + s.pacer.remaining

/-- Each refused attempt uses up a coming change of the network, some of the time left, or one of
the refusals. -/
theorem patience_refused_lt {s : Session} {network : Network} {fault : Fault}
    (attempt : s.network.connect s.worker.kind s.worker.endpoint = (.error fault, network))
    (going : ¬ ({ s with network := network }.refused fault).stalled = true)
    (hope : ¬ s.hopeless = true) :
    ({ s with network := network }.refused fault).patience < s.patience := by
  obtain ⟨kept, used⟩ := Network.refusals_of_refused attempt
  have shorter := s.pacer.remaining_sleep_le s.worker.connectRetry.current
  have after : ({ s with network := network }.refused fault).patience =
      (s.pacer.sleep s.worker.connectRetry.current).foretold +
        (network.changeAll (s.pacer.ahead.headD [])).refusals +
        (s.pacer.sleep s.worker.connectRetry.current).remaining := rfl
  rw [after, patience]
  cases ahead : s.pacer.ahead with
  | cons cs rest =>
    have spent := Pacer.foretold_sleep_lt ahead s.worker.connectRetry.current network
    rw [List.headD_cons]
    omega
  | nil =>
    have none : (s.pacer.sleep s.worker.connectRetry.current).foretold = s.pacer.foretold := by
      simp only [Pacer.foretold, Pacer.sleep, ahead, List.tail_nil]
    have same : (network.changeAll (([] : List (List NetChange)).headD [])).refusals =
        network.refusals := rfl
    rw [none, same]
    cases limit : s.pacer.limit with
    | some _ =>
      have onward : (s.pacer.sleep s.worker.connectRetry.current).ended = false :=
        (Bool.or_eq_false_iff.mp (Bool.eq_false_iff.mpr going)).2
      have less := Pacer.remaining_sleep_lt (by rw [limit]; rfl) onward
      omega
    | none =>
      have free := used (by simpa [hopeless, ahead, limit] using hope)
      omega

/-- Attempts to connect until one attempt succeeds, with the delays of the connect schedule in
between. -/
def tryConnect (s : Session) : Session :=
  match _h : s.network.connect s.worker.kind s.worker.endpoint with
  | (.ok link, network) =>
    let s := { s with network := network }.established link
    s.note .info s!"connected to {s.worker.endpoint.text}"
  | (.error fault, network) =>
    let after := { s with network := network }.refused fault
    if _going : after.stalled then after
    else if _hope : s.hopeless then { after with stalled := true }
    else after.tryConnect
termination_by s.patience
decreasing_by exact patience_refused_lt _h _going _hope

def connect (s : Session) : Session :=
  { s with worker := { s.worker with phase := .connecting } }.tryConnect

/-- Asks again where the destination is. If nobody knows, the address stays. -/
def resolveAgain (s : Session) : Session :=
  let (answer, network) := s.network.resolve s.worker.policy.destination
  let s := { s with network := network }
  let destination := s.worker.policy.destination.text
  let s :=
    match answer with
    | .ok endpoint =>
      let s :=
        if endpoint = s.worker.endpoint then s
        else s.note .info s!"{destination} moved from {s.worker.endpoint.text} to {endpoint.text}"
      { s with worker := { s.worker with endpoint := endpoint } }
    | .error fault =>
      s.note .warn
        s!"re-resolve of {destination} failed: {fault.message}; keeping {s.worker.endpoint.text}"
  { s with worker := { s.worker with phase := .connecting } }

def sendSucceeded (s : Session) : Session :=
  let (rest, worker) := s.worker.afterSend
  let pacer := if rest then { s.pacer with yields := s.pacer.yields + 1 } else s.pacer
  { s with worker := worker, pacer := pacer }

def giveUp (s : Session) (fault : Fault) : Session :=
  let s := { s with worker := s.worker.afterLoss, network := s.network.close }
  let s := s.note .warn s!"send failed: {fault.message} (streak={s.worker.streak})"
  let delay := s.worker.sendRetry.current
  { s with worker := { s.worker with sendRetry := s.worker.sendRetry.advance } }.sleep delay

/-- After the wait: resolves again now and then, and connects anew from the beginning of the connect
schedule. -/
def recover (s : Session) : Session :=
  let s := if s.worker.mustResolve then s.resolveAgain else s
  { s with worker := { s.worker with connectRetry := s.worker.connectRetry.reset } }.connect

def sendFailed (s : Session) (fault : Fault) : Session :=
  let s := s.giveUp fault
  if s.stalled then s else s.recover

/-- Goes on from the sleep in which the worker stalled: after a refused attempt, or after a failed
send. -/
def resume (s : Session) : Session :=
  let s := { s with stalled := false }
  match s.worker.phase with
  | .connecting => s.tryConnect
  | .resolving | .connected => s.recover

def transmit (s : Session) (l : Line) (link : Nat) : Delivery × Session :=
  match s.network.send s.worker.kind link l.bytes with
  | (none, network) => (.sent, { s with network := network }.sendSucceeded)
  | (some fault, network) => (.lost, { s with network := network }.sendFailed fault)

def linked (s : Session) : Session :=
  if s.worker.link.isNone then s.connect else s

/-- Sends a line over the open link, after opening one if there is none. -/
def deliver (s : Session) (l : Line) : Delivery × Session :=
  if l.isEmpty then (.skipped, s)
  else
    let s := s.linked
    match s.worker.link with
    | some link => if s.stalled then (.withheld, s) else s.transmit l link
    | none => (.withheld, s)

def observe (s : Session) (dropped : UInt64) : Session :=
  let now := s.pacer.clock / Duration.millisecond
  let (count, drops) := s.worker.drops.observe now dropped
  let s := { s with worker := { s.worker with drops := drops } }
  match count with
  | none => s
  | some n =>
    { s with journal := s.journal ++
        [⟨.warn, "netlogging::drop_accounting", DropReporter.message s.worker.kind n⟩] }

def close (s : Session) : Session :=
  if s.worker.link.isSome then
    { s with network := s.network.close, worker := { s.worker with link := none } }
  else s

def start (kind : Transport) (policy : Policy) (network : Network) (pacer : Pacer) : Start :=
  let (answer, network) := network.resolve policy.destination
  let destination := policy.destination.text
  match answer with
  | .error fault =>
    .failed fault network
      [Worker.record kind .warn s!"cannot resolve {destination}: {fault.message}"]
  | .ok endpoint =>
    .started
      { worker := Worker.create kind policy endpoint
        network := network
        pacer := pacer
        journal := [Worker.record kind .info s!"start {destination} -> {endpoint.text}"]
        stalled := false }

end Session

end LogRelay
