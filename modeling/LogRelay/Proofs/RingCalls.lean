import LogRelay.Channel.Ring
import LogRelay.Proofs.Queueing

/-!
The calls of a ring, played from beginning to end one after another. Between two calls a ring holds
the same lines as a channel that was used in the same way, and it has given the same answers: a
consumer that announces itself, looks again and sleeps neither loses a line nor takes one twice.
-/

namespace LogRelay.Ring

open Channel (Operation Answer)

namespace State

def push (s : State) (l : Line) : PushOutcome × State :=
  let after := s.play [.push 0 l]
  (if after.producers[0]? = some .pushed then .delivered else .dropped,
    after.play [.produce 0, .produce 0])

def tryHold (s : State) (moves : List Move) (onward : State → Option Line × State) :
    Option Line × State :=
  let s := s.play moves
  match s.held with
  | some l => (some l, s)
  | none => onward s

/-- A consumer that takes lines until a deadline. It sleeps as often as it is said to, each time
until it is woken or until the sleep ends by itself, and then finds that its time is over. -/
def waitFor : Nat → State → Option Line × State
  | 0, s => s.tryHold [.consume] fun s => (none, { s with consumer := .away })
  | wakes + 1, s =>
    s.tryHold [.consume] fun s =>
      s.tryHold [.consume, .consume, .consume, .consume, .stir] fun s =>
        waitFor wakes (s.play [.consume])

structure AtRest (s : State) : Prop where
  consumer : s.consumer = .away ∨ ∃ l, s.consumer = .holding l
  producers : s.producers = [.idle]

theorem AtRest.begin {s : State} (rest : s.AtRest) :
    s.play [.begin] = { s with consumer := .taking } := by
  obtain ⟨capacity, queue, known, waiting, token, consumer, producers⟩ := s
  obtain rfl | ⟨l, rfl⟩ := rest.consumer <;> rfl

theorem AtRest.push_of_lt {s : State} (rest : s.AtRest) (l : Line)
    (room : s.queue.length < s.capacity) :
    (s.push l).1 = .delivered ∧
      ∃ token, (s.push l).2 = { s with queue := s.queue ++ [l], token := token } := by
  obtain ⟨capacity, queue, known, waiting, token, consumer, producers⟩ := s
  obtain ⟨_, rfl⟩ := rest
  have pushed :
      State.play ⟨capacity, queue, known, waiting, token, consumer, [.idle]⟩ [.push 0 l] =
        ⟨capacity, queue ++ [l], known, waiting, token, consumer, [.pushed]⟩ := by
    simp only [play, List.foldl_cons, List.foldl_nil, step, List.getElem?_cons_zero]
    rw [if_pos room]
    rfl
  rw [push, pushed]
  refine ⟨rfl, ?_⟩
  cases waiting <;> exact ⟨_, rfl⟩

theorem AtRest.push_of_full {s : State} (rest : s.AtRest) (l : Line)
    (full : ¬ s.queue.length < s.capacity) : s.push l = (.dropped, s) := by
  obtain ⟨capacity, queue, known, waiting, token, consumer, producers⟩ := s
  obtain ⟨_, rfl⟩ := rest
  have refused :
      State.play ⟨capacity, queue, known, waiting, token, consumer, [.idle]⟩ [.push 0 l] =
        ⟨capacity, queue, known, waiting, token, consumer, [.idle]⟩ := by
    simp only [play, List.foldl_cons, List.foldl_nil, step, List.getElem?_cons_zero]
    rw [if_neg full]
    rfl
  rw [push, refused]
  rfl

theorem waitFor_of_line {s : State} {l : Line} {rest : List Line} (begun : s.consumer = .taking)
    (line : s.queue = l :: rest) (wakes : Nat) :
    waitFor wakes s = (some l, { s with queue := rest, consumer := .holding l }) := by
  obtain ⟨capacity, queue, known, waiting, token, consumer, producers⟩ := s
  cases begun
  cases line
  cases wakes <;> rfl

theorem waitFor_of_empty {s : State} (begun : s.consumer = .taking) (empty : s.queue = [])
    (wakes : Nat) :
    ∃ known waiting token, waitFor wakes s =
      (none, { s with known := known, waiting := waiting, token := token, consumer := .away }) := by
  induction wakes generalizing s with
  | zero =>
    obtain ⟨capacity, queue, known, waiting, token, consumer, producers⟩ := s
    cases begun
    cases empty
    exact ⟨_, _, _, rfl⟩
  | succ wakes ih =>
    obtain ⟨capacity, queue, known, waiting, token, consumer, producers⟩ := s
    cases begun
    cases empty
    have again : waitFor (wakes + 1) ⟨capacity, [], known, waiting, token, .taking, producers⟩ =
        waitFor wakes ⟨capacity, [], true, false, false, .taking, producers⟩ := by
      cases token <;> rfl
    rw [again]
    exact ih rfl rfl

theorem AtRest.await_of_line {s : State} (rest : s.AtRest) {l : Line} {ls : List Line}
    (line : s.queue = l :: ls) : s.await = { s with queue := ls, consumer := .holding l } := by
  rw [await, rest.begin]
  obtain ⟨capacity, queue, known, waiting, token, consumer, producers⟩ := s
  cases line
  rfl

end State

structure Counted where
  ring : State
  dropped : UInt64

namespace Counted

def create (capacity : Nat) : Counted :=
  ⟨State.create capacity [] 1, 0⟩

def push (d : Counted) (l : Line) : PushOutcome × Counted :=
  match d.ring.push l with
  | (.delivered, ring) => (.delivered, { d with ring := ring })
  | (.dropped, ring) => (.dropped, ⟨ring, d.dropped + 1⟩)

def pop (d : Counted) : Option Line × Counted :=
  if d.ring.queue.isEmpty then (none, d)
  else (d.ring.await.held, { d with ring := d.ring.await })

def popTimeout (d : Counted) (now : Nat) (timeout : Duration) (wakes : Nat) : Waited × Counted :=
  if timeout.overruns now then (.clockOverflow, d)
  else
    let (found, ring) := State.waitFor wakes (d.ring.play [.begin])
    (.ended found, { d with ring := ring })

def operate (d : Counted) : Operation → Answer × Counted
  | .push l => (.pushed ⟨l, (d.push l).1⟩, (d.push l).2)
  | .pop => (.popped d.pop.1, d.pop.2)
  | .popTimeout now timeout wakes =>
    (.waited (d.popTimeout now timeout wakes).1, (d.popTimeout now timeout wakes).2)
  | .length => (.count d.ring.queue.length, d)
  | .capacity => (.count d.ring.capacity, d)
  | .dropped => (.count d.dropped.toNat, d)

def operateAll : Counted → List Operation → List Answer × Counted
  | d, [] => ([], d)
  | d, op :: rest =>
    let (answer, after) := d.operate op
    let (later, last) := operateAll after rest
    (answer :: later, last)

structure Mirrors (d : Counted) (c : Channel) : Prop where
  capacity : d.ring.capacity = c.capacity
  queue : d.ring.queue = c.lines
  atRest : d.ring.AtRest
  dropped : d.dropped = c.dropped

theorem mirrors_create (capacity : Nat) (backend : Backend) :
    (create (max capacity 1)).Mirrors (Channel.create capacity backend) :=
  ⟨rfl, rfl, ⟨.inl rfl, rfl⟩, rfl⟩

namespace Mirrors

variable {d : Counted} {c : Channel}

theorem taking (h : d.Mirrors c) {l : Line} {rest : List Line} (lines : c.lines = l :: rest) :
    Mirrors { d with ring := { d.ring with queue := rest, consumer := .holding l } } c.take.2 := by
  obtain ⟨_, left, dropped⟩ := Channel.take_of_lines lines
  refine ⟨?_, left.symm, ⟨.inr ⟨l, rfl⟩, h.atRest.producers⟩, h.dropped.trans dropped.symm⟩
  exact h.capacity.trans (c.kept_take).capacity.symm

theorem push (h : d.Mirrors c) (l : Line) :
    (d.push l).1 = (c.push l).1 ∧ (d.push l).2.Mirrors (c.push l).2 := by
  have capacity : d.ring.capacity = (c.push l).2.capacity :=
    h.capacity.trans (c.capacity_push l).symm
  rw [Counted.push]
  by_cases room : c.lines.length < c.capacity
  · obtain ⟨outcome, lines, dropped⟩ := Channel.push_of_lt l room
    obtain ⟨outcome', token, after⟩ :=
      h.atRest.push_of_lt l (by rw [h.queue, h.capacity]; exact room)
    have pushed : d.ring.push l = (.delivered, _) := Prod.ext outcome' after
    rw [pushed, outcome]
    refine ⟨rfl, capacity, ?_, ⟨h.atRest.consumer, h.atRest.producers⟩,
      h.dropped.trans dropped.symm⟩
    rw [lines, ← h.queue]
  · obtain ⟨outcome, lines, dropped⟩ := Channel.push_of_full l room
    rw [h.atRest.push_of_full l (by rw [h.queue, h.capacity]; exact room), outcome]
    exact ⟨rfl, capacity, h.queue.trans lines.symm, h.atRest, by rw [dropped, ← h.dropped]⟩

theorem pop (h : d.Mirrors c) : d.pop.1 = c.take.1 ∧ d.pop.2.Mirrors c.take.2 := by
  rw [Counted.pop, h.queue]
  cases lines : c.lines with
  | nil =>
    rw [Channel.take_of_empty lines]
    exact ⟨rfl, h⟩
  | cons l rest =>
    rw [h.atRest.await_of_line (h.queue.trans lines), (Channel.take_of_lines lines).1]
    exact ⟨rfl, h.taking lines⟩

theorem waitFor (h : d.Mirrors c) (wakes : Nat) :
    (State.waitFor wakes (d.ring.play [.begin])).1 = c.take.1 ∧
      Mirrors { d with ring := (State.waitFor wakes (d.ring.play [.begin])).2 } c.take.2 := by
  rw [h.atRest.begin]
  cases lines : c.lines with
  | nil =>
    obtain ⟨known, waiting, token, waited⟩ := State.waitFor_of_empty
      (s := { d.ring with consumer := .taking }) rfl (h.queue.trans lines) wakes
    rw [waited, Channel.take_of_empty lines]
    exact ⟨rfl, h.capacity, h.queue, ⟨.inl rfl, h.atRest.producers⟩, h.dropped⟩
  | cons l rest =>
    rw [State.waitFor_of_line (s := { d.ring with consumer := .taking }) rfl
      (h.queue.trans lines) wakes]
    exact ⟨(Channel.take_of_lines lines).1.symm, h.taking lines⟩

theorem popTimeout (h : d.Mirrors c) (ring : c.backend = .ring) (now : Nat) (timeout : Duration)
    (wakes : Nat) :
    (d.popTimeout now timeout wakes).1 = (c.popTimeout timeout now).1 ∧
      (d.popTimeout now timeout wakes).2.Mirrors (c.popTimeout timeout now).2 := by
  rw [Counted.popTimeout]
  split
  · next late =>
    rw [Channel.popTimeout, if_pos ⟨ring, late⟩]
    exact ⟨rfl, h⟩
  · next onTime =>
    obtain ⟨found, after⟩ := h.waitFor wakes
    rw [Channel.popTimeout_of_onTime (Bool.eq_false_iff.mpr onTime)]
    exact ⟨congrArg Waited.ended found, after⟩

theorem operate (h : d.Mirrors c) (ring : c.backend = .ring) (op : Operation) :
    (d.operate op).1 = (c.operate op).1 ∧ (d.operate op).2.Mirrors (c.operate op).2 := by
  cases op with
  | push l =>
    obtain ⟨outcome, after⟩ := h.push l
    exact ⟨congrArg (fun o => Answer.pushed ⟨l, o⟩) outcome, after⟩
  | pop =>
    obtain ⟨found, after⟩ := h.pop
    exact ⟨congrArg Answer.popped found, after⟩
  | popTimeout now timeout wakes =>
    obtain ⟨waited, after⟩ := h.popTimeout ring now timeout wakes
    exact ⟨congrArg Answer.waited waited, after⟩
  | length =>
    refine ⟨?_, h⟩
    rw [Counted.operate, Channel.operate, h.queue, Channel.length_eq]
  | capacity =>
    refine ⟨?_, h⟩
    rw [Counted.operate, Channel.operate, h.capacity]
  | dropped =>
    refine ⟨?_, h⟩
    rw [Counted.operate, Channel.operate, h.dropped]

theorem operateAll (h : d.Mirrors c) (ring : c.backend = .ring) (ops : List Operation) :
    (d.operateAll ops).1 = (c.operateAll ops).1 ∧
      (d.operateAll ops).2.Mirrors (c.operateAll ops).2 := by
  induction ops generalizing d c with
  | nil => exact ⟨rfl, h⟩
  | cons op rest ih =>
    obtain ⟨answer, after⟩ := h.operate ring op
    obtain ⟨later, last⟩ := ih after ((c.kept_operate op).backend.trans ring)
    refine ⟨?_, last⟩
    rw [Counted.operateAll, Channel.operateAll]
    dsimp only
    rw [answer, later]

end Mirrors

end Counted

end LogRelay.Ring

namespace LogRelay.Channel

/-- The state of a channel and the history that led to it: `c` is the channel as it is, and the last
three fields say that the ring, step by step, gives the same answers. -/
structure BoundedFifo (capacity : Nat) (backend : Backend) (ops : List Operation)
    (answers : List Answer) (c : Channel) : Prop where
  room : c.capacity = max capacity 1
  bounded : c.length ≤ c.capacity
  offered : (answers.flatMap Answer.offers).map (·.line) =
    ops.filterMap fun | .push l => some l | _ => none
  order : answers.flatMap Answer.got ++ c.lines =
    Offer.taken (answers.flatMap Answer.offers)
  dropped : c.dropped = UInt64.ofNat (Offer.rejected (answers.flatMap Answer.offers))
  serves : c.Serves
  ringAnswers : backend = .ring →
    ((Ring.Counted.create (max capacity 1)).operateAll ops).1 = answers
  ringLines : backend = .ring →
    ((Ring.Counted.create (max capacity 1)).operateAll ops).2.ring.queue = c.lines
  ringDropped : backend = .ring →
    ((Ring.Counted.create (max capacity 1)).operateAll ops).2.dropped = c.dropped

theorem operateAll_bounded_fifo (capacity : Nat) (backend : Backend) (ops : List Operation) :
    BoundedFifo capacity backend ops ((create capacity backend).operateAll ops).1
      ((create capacity backend).operateAll ops).2 := by
  have kept := (create capacity backend).kept_operateAll ops
  have mirrored (ring : backend = .ring) :=
    (Ring.Counted.mirrors_create capacity backend).operateAll ring ops
  refine ⟨kept.capacity, ?_, offered_operateAll _ ops, kept.order, ?_, serves _,
    fun ring => (mirrored ring).1, fun ring => (mirrored ring).2.queue,
    fun ring => (mirrored ring).2.dropped⟩
  · rw [length_eq]
    exact length_le _
  · rw [kept.dropped]
    exact UInt64.zero_add _

/-- A queue with one place that is filled, rejects a line, is drained by a timed wait and filled
again. -/
example : ((create 0 .ring).operateAll [.push (Line.ofText "a"), .push (Line.ofText "b"),
    .popTimeout 0 (.ofNanos 0) 0, .push (Line.ofText "c")]).2.dropped = 1 := by
  decide +kernel

end LogRelay.Channel
