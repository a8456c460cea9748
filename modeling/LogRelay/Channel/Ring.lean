import LogRelay.Channel

/-!
How the consumer of a ring sleeps and is woken. Before it sleeps it announces that it waits and
looks at the queue once more; a producer looks at the announcement after its push. So whichever
comes later sees the other, and no line stays behind while the consumer sleeps.
-/

namespace LogRelay.Ring

/-- Where the consumer stands inside a wait for a line: it looks at the queue, makes itself known,
announces that it waits, looks again and sleeps. A line found after the announcement is held once
the announcement is taken back. -/
inductive Consumer where
  | away
  | taking
  | recording
  | announcing
  | rechecking
  | retracting (l : Line)
  | parked
  | woken
  | holding (l : Line)
deriving DecidableEq

inductive Producer where
  | idle
  | pushed
  | waking
deriving DecidableEq

/-- The consumer is `known` once it has made itself known, and there is a `token` while it was woken
and has not slept since. -/
structure State where
  capacity : Nat
  queue : List Line
  known : Bool
  waiting : Bool
  token : Bool
  consumer : Consumer
  producers : List Producer
deriving DecidableEq

/-- The consumer begins to wait, goes on, or wakes up for no reason; a producer pushes a line or
does its next step after a push. -/
inductive Move where
  | begin
  | consume
  | stir
  | push (i : Nat) (l : Line)
  | produce (i : Nat)

namespace State

def create (capacity : Nat) (queue : List Line) (producers : Nat) : State where
  capacity := capacity
  queue := queue
  known := false
  waiting := false
  token := false
  consumer := .away
  producers := List.replicate producers .idle

def look (s : State) (found : Line → Consumer) (missed : Consumer) : State :=
  match s.queue with
  | l :: rest => { s with queue := rest, consumer := found l }
  | [] => { s with consumer := missed }

def consume (s : State) : Option State :=
  match s.consumer with
  | .away | .holding _ => none
  | .taking => some (s.look .holding .recording)
  | .recording => some { s with known := true, consumer := .announcing }
  | .announcing => some { s with waiting := true, consumer := .rechecking }
  | .rechecking => some (s.look .retracting .parked)
  | .retracting l => some { s with waiting := false, consumer := .holding l }
  | .parked => if s.token then some { s with token := false, consumer := .woken } else none
  | .woken => some { s with waiting := false, consumer := .taking }

def setProducer (s : State) (i : Nat) (p : Producer) : State :=
  { s with producers := s.producers.set i p }

/-- One move, if it can be made now. A line that finds the queue full is dropped. -/
def step (s : State) : Move → Option State
  | .begin =>
    match s.consumer with
    | .away | .holding _ => some { s with consumer := .taking }
    | _ => none
  | .consume => s.consume
  | .stir => if s.consumer = .parked then some { s with consumer := .woken } else none
  | .push i l =>
    match s.producers[i]? with
    | some .idle =>
      if s.queue.length < s.capacity then
        some ({ s with queue := s.queue ++ [l] }.setProducer i .pushed)
      else some s
    | _ => none
  | .produce i =>
    match s.producers[i]? with
    | some .pushed => some (s.setProducer i (if s.waiting then .waking else .idle))
    | some .waking => some ({ s with token := s.token || s.known }.setProducer i .idle)
    | _ => none

inductive Reachable (capacity producers : Nat) : State → Prop where
  | initial : Reachable capacity producers (create capacity [] producers)
  | step {s t : State} (m : Move) :
      Reachable capacity producers s → s.step m = some t → Reachable capacity producers t

def play (s : State) (moves : List Move) : State :=
  moves.foldl (fun s m => (s.step m).getD s) s

/-- The consumer goes on until it holds a line or sleeps. From anywhere that takes at most seven
steps, since it takes a line at the latest after one sleep. -/
def settle (s : State) : State :=
  s.play (List.replicate 7 .consume)

def held (s : State) : Option Line :=
  match s.consumer with
  | .holding l => some l
  | _ => none

def await (s : State) : State :=
  (s.play [.begin]).settle

def hand (s : State) (l : Line) : State :=
  (s.play [.push 0 l, .produce 0, .produce 0]).settle

end State

end LogRelay.Ring

namespace LogRelay.Channel

/-- The channel with other lines in its queue, as many as there is room for. -/
def withLines (c : Channel) (ls : List Line) : Channel :=
  { c with
    queue := .ofList (ls.take c.capacity)
    size_le := Nat.le_trans (Nat.le_of_eq List.length_take) (Nat.min_le_left _ _) }

/-- Hands lines one by one to a consumer that waits for each: what became of the push, and what
the consumer got. -/
def handOffRing (c : Channel) (s : Ring.State) :
    List Line → List (PushOutcome × Option Line) × Channel
  | [] => ([], c)
  | l :: rest =>
    let waiting := s.await
    let (outcome, pushed) := (c.withLines waiting.queue).push l
    let s := waiting.hand l
    let (handed, c) := handOffRing (pushed.withLines s.queue) s rest
    ((outcome, s.held) :: handed, c)

def handOffMessage (c : Channel) : List Line → List (PushOutcome × Option Line) × Channel
  | [] => ([], c)
  | l :: rest =>
    let (outcome, pushed) := c.push l
    let (got, c) := match pushed.pop? with
      | some (got, c) => (some got, c)
      | none => (none, pushed)
    let (handed, c) := handOffMessage c rest
    ((outcome, got) :: handed, c)

def handOff (c : Channel) (ls : List Line) : List (PushOutcome × Option Line) × Channel :=
  match c.backend with
  | .ring => c.handOffRing (Ring.State.create c.capacity c.lines 1) ls
  | .message => c.handOffMessage ls

end LogRelay.Channel
