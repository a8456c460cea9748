import LogRelay.Fault
import LogRelay.Address
import LogRelay.Transport

/-!
How a launcher and the worker that it spawns agree on a channel. The worker reports its first
connection in a slot for one message, and serves the channel only if the launcher then announces
that the channel is registered. Any number of launches may be under way at once; each step is one
move of one party.
-/

namespace LogRelay

inductive Readiness where
  | connected (a : SocketAddress)
  | unresolvable (fault : Fault)
deriving DecidableEq

/-- The slot for the news. Once the launcher is gone nothing can be put there. -/
inductive ReadySlot where
  | free
  | holds (r : Readiness)
  | abandoned
deriving DecidableEq

def ReadySlot.offer (slot : ReadySlot) (r : Readiness) : Bool × ReadySlot :=
  match slot with
  | free => (true, holds r)
  | other => (false, other)

inductive Publication where
  | pending
  | announced
  | withdrawn
deriving DecidableEq

def Publication.letGo : Publication → Publication
  | announced => announced
  | pending | withdrawn => withdrawn

namespace Handshake

inductive Verdict where
  | enabled (a : SocketAddress)
  | alreadyActive
  | unresolvable (fault : Fault)
  | notReady
deriving DecidableEq

inductive Launcher where
  | waiting
  | informed (a : SocketAddress)
  | registered (a : SocketAddress)
  | returned (v : Verdict)
deriving DecidableEq

inductive Stage where
  | resolving
  | connecting (a : SocketAddress)
  | linked (a : SocketAddress)
  | confirming (a : SocketAddress)
  | serving (a : SocketAddress)
  | exited
deriving DecidableEq

/-- One launch: its two parties and what stands between them. Its channel goes by its place among
the launches. -/
structure Launch where
  kind : Transport
  launcher : Launcher
  worker : Stage
  ready : ReadySlot
  publication : Publication
deriving DecidableEq

inductive Holder where
  | launch (i : Nat)
  | outsider
deriving DecidableEq

structure State where
  launches : List Launch
  slots : Transport.Table (Option Holder)
deriving DecidableEq

/-- What one party of a launch does without the registry. A launcher may stop waiting whether or not
there is news for it; one that is done lets go of the slot for the news and of its word about the
channel. -/
inductive Action where
  | resolve (answer : Except Fault SocketAddress)
  | connect (accepted : Bool)
  | report
  | confirm
  | receive
  | timeOut
  | announce
  | hangUp
  | withdraw

/-- A launcher looks for its place in the registry and spawns a worker if it is free; an intruder
registers a channel without a launch. -/
inductive Move where
  | launch (kind : Transport)
  | intrude (kind : Transport)
  | register (i : Nat)
  | act (i : Nat) (a : Action)

namespace Launch

def begun (kind : Transport) : Launch :=
  ⟨kind, .waiting, .resolving, .free, .pending⟩

def refusedAtOnce (kind : Transport) : Launch :=
  ⟨kind, .returned .alreadyActive, .exited, .abandoned, .withdrawn⟩

/-- The worker leaves its news; without a free slot nobody learns of it. -/
def leave (l : Launch) (r : Readiness) (told untold : Stage) : Launch :=
  let (ok, slot) := l.ready.offer r
  { l with ready := slot, worker := if ok then told else untold }

def step (l : Launch) : Action → Option Launch
  | .resolve answer =>
    match l.worker, answer with
    | .resolving, .ok a => some { l with worker := .connecting a }
    | .resolving, .error fault => some (l.leave (.unresolvable fault) .exited .exited)
    | _, _ => none
  | .connect accepted =>
    match l.worker with
    | .connecting a => some (if accepted then { l with worker := .linked a } else l)
    | _ => none
  | .report =>
    match l.worker with
    | .linked a => some (l.leave (.connected a) (.confirming a) .exited)
    | _ => none
  | .confirm =>
    match l.worker, l.publication with
    | .confirming a, .announced => some { l with worker := .serving a }
    | .confirming _, .withdrawn => some { l with worker := .exited }
    | _, _ => none
  | .receive =>
    match l.launcher, l.ready with
    | .waiting, .holds (.connected a) => some { l with launcher := .informed a, ready := .free }
    | .waiting, .holds (.unresolvable fault) =>
      some { l with launcher := .returned (.unresolvable fault), ready := .free }
    | _, _ => none
  | .timeOut =>
    match l.launcher with
    | .waiting => some { l with launcher := .returned .notReady }
    | _ => none
  | .announce =>
    match l.launcher with
    | .registered a => some { l with launcher := .returned (.enabled a), publication := .announced }
    | _ => none
  | .hangUp =>
    match l.launcher with
    | .returned _ => some { l with ready := .abandoned }
    | _ => none
  | .withdraw =>
    match l.launcher with
    | .returned _ => some { l with publication := l.publication.letGo }
    | _ => none

end Launch

namespace State

def initial : State :=
  ⟨[], .fill none⟩

def setLaunch (s : State) (i : Nat) (l : Launch) : State :=
  { s with launches := s.launches.set i l }

def register (s : State) (i : Nat) (l : Launch) : Option State :=
  match l.launcher with
  | .informed a =>
    if (s.slots.get l.kind).isSome then
      some (s.setLaunch i { l with launcher := .returned .alreadyActive })
    else
      some
        { s.setLaunch i { l with launcher := .registered a } with
          slots := s.slots.set l.kind (some (.launch i)) }
  | _ => none

def step (s : State) : Move → Option State
  | .launch kind =>
    let l := if (s.slots.get kind).isSome then Launch.refusedAtOnce kind else Launch.begun kind
    some { s with launches := s.launches ++ [l] }
  | .intrude kind =>
    if (s.slots.get kind).isSome then none
    else some { s with slots := s.slots.set kind (some .outsider) }
  | .register i => (s.launches[i]?).bind (s.register i)
  | .act i a => (s.launches[i]?).bind fun l => (l.step a).map (s.setLaunch i)

inductive Reachable : State → Prop where
  | initial : Reachable initial
  | step {s t : State} (m : Move) : Reachable s → s.step m = some t → Reachable t

def play (s : State) (moves : List Move) : State :=
  moves.foldl (fun s m => (s.step m).getD s) s

theorem Reachable.play {s : State} (h : Reachable s) (moves : List Move) :
    Reachable (s.play moves) := by
  induction moves generalizing s with
  | nil => exact h
  | cons m rest ih =>
    have next : Reachable ((s.step m).getD s) := by
      cases hm : s.step m with
      | none => exact h
      | some t => exact .step m h hm
    exact ih next

end State

end Handshake

end LogRelay
