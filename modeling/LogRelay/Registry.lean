import LogRelay.Channel
import LogRelay.Transport

/-!
The channels that producers write to, at most one for each transport. A place is filled once and
never emptied.
-/

namespace LogRelay

structure Registry where
  slots : Transport.Table (Option Channel)
deriving DecidableEq

namespace Registry

def empty : Registry :=
  ⟨.fill none⟩

def get (r : Registry) (kind : Transport) : Option Channel :=
  r.slots.get kind

def put (r : Registry) (kind : Transport) (c : Channel) : Registry :=
  ⟨r.slots.set kind (some c)⟩

def isActive (r : Registry) (kind : Transport) : Bool :=
  (r.get kind).isSome

def register? (r : Registry) (kind : Transport) (c : Channel) : Option Registry :=
  if r.isActive kind then none else some (r.put kind c)

def dropped (r : Registry) (kind : Transport) : Option UInt64 :=
  (r.get kind).map (·.dropped)

def active (r : Registry) : List (Transport × Channel) :=
  Transport.all.filterMap fun kind => (r.get kind).map (kind, ·)

def act {α : Type} (r : Registry) (kind : Transport) (f : Channel → α × Channel) :
    Option α × Registry :=
  match r.get kind with
  | some c => (some (f c).1, r.put kind (f c).2)
  | none => (none, r)

def push (r : Registry) (kind : Transport) (l : Line) : Option PushOutcome × Registry :=
  r.act kind (·.push l)

def take (r : Registry) (kind : Transport) : Option (Option Line) × Registry :=
  r.act kind Channel.take

def drain (r : Registry) (kind : Transport) : Option (List Line) × Registry :=
  r.act kind Channel.drain

/-- Pushes one line to every channel; each takes or drops it on its own. -/
def pushAll (r : Registry) (l : Line) : Registry :=
  Transport.all.foldl (fun r kind => (r.push kind l).2) r

@[simp] theorem get_put (r : Registry) (kind other : Transport) (c : Channel) :
    (r.put kind c).get other = if other = kind then some c else r.get other := by
  simp [get, put]

end Registry

end LogRelay
