import LogRelay.Proofs.Deliveries
import LogRelay.Proofs.Ledger

/-!
What a call that comes to its end has done: to the worker, to the count of the network and to the
delays of the pacer. The delays are told by the schedules of the worker as they stood when the call
began, and by the number of attempts that were refused.
-/

namespace LogRelay

theorem Retry.take_succ (r : Retry) (m : Nat) :
    r.take (m + 1) = ((r.take m).1 ++ [(r.take m).2.current], (r.take m).2.advance) := by
  induction m generalizing r with
  | zero => rfl
  | succ m ih => rw [take, ih, take]; rfl

theorem Retry.reset_take (r : Retry) (m : Nat) : (r.take m).2.reset = r.reset := by
  induction m generalizing r with
  | zero => rfl
  | succ m ih => exact ih r.advance

namespace Session

def rests (s : Session) : List Duration × Nat :=
  (s.pacer.sleeps, s.pacer.yields)

structure Waited (s : Session) (m : Nat) (t : Session) : Prop where
  worker : t.worker = { s.worker with connectRetry := (s.worker.connectRetry.take m).2 }
  ledger : t.network.ledger = { s.network.ledger with attempts := s.network.ledger.attempts + m }
  rests : t.rests = (s.pacer.sleeps ++ (s.worker.connectRetry.take m).1, s.pacer.yields)

/-- Connected after that many refused attempts. The new link is opened before an old one is
closed. -/
structure Reached (s : Session) (m : Nat) (t : Session) : Prop where
  worker : ∃ link, t.worker =
    { s.worker with
      link := some link, connectRetry := s.worker.connectRetry.reset, phase := .connected }
  ledger : t.network.ledger =
    if s.worker.link.isSome then (s.network.ledger.opens m s.worker.endpoint).closes
    else s.network.ledger.opens m s.worker.endpoint
  rests : t.rests = (s.pacer.sleeps ++ (s.worker.connectRetry.take m).1, s.pacer.yields)

theorem Waited.refl (s : Session) : s.Waited 0 s :=
  ⟨rfl, rfl, by rw [Retry.take, List.append_nil]; rfl⟩

theorem Waited.refused {s t : Session} {m : Nat} (waited : s.Waited m t) {fault : Fault}
    {network : Network}
    (attempt : t.network.connect t.worker.kind t.worker.endpoint = (.error fault, network)) :
    s.Waited (m + 1) (t.turnedAway network fault) := by
  have current : t.worker.connectRetry = (s.worker.connectRetry.take m).2 := by
    rw [waited.worker]
  refine ⟨?_, ?_, ?_⟩
  · rw [worker_turnedAway, current, waited.worker, Retry.take_succ]
  · have same : (t.turnedAway network fault).network.ledger = network.ledger :=
      network.ledger_changeAll _
    rw [same, Network.ledger_of_refused attempt, waited.ledger]
    rfl
  · have slept : (t.turnedAway network fault).rests =
        (t.rests.1 ++ [t.worker.connectRetry.current], t.rests.2) := rfl
    rw [slept, waited.rests, current, Retry.take_succ, List.append_assoc]

theorem Waited.opened {s t : Session} {m : Nat} (waited : s.Waited m t) {link : Nat}
    {network : Network}
    (attempt : t.network.connect t.worker.kind t.worker.endpoint = (.ok link, network)) :
    s.Reached m (t.opened network link) := by
  refine ⟨⟨link, ?_⟩, ?_, waited.rests⟩
  · rw [worker_opened, waited.worker, ← s.worker.connectRetry.reset_take m]
  · have here : network.ledger = s.network.ledger.opens m s.worker.endpoint := by
      rw [Network.ledger_of_opened attempt, waited.ledger, waited.worker]
      rfl
    have same : t.worker.link = s.worker.link := by rw [waited.worker]
    rw [Session.opened, note, established]
    dsimp only
    rw [same, ← here]
    split <;> rfl

theorem tryConnect_reached (s : Session) :
    s.tryConnect.stalled = false → ∃ m, s.Reached m s.tryConnect := by
  refine tryConnect_induction (P := fun t => ∃ m, s.Waited m t)
    (Q := fun t => t.stalled = false → ∃ m, s.Reached m t) ?_ ?_ ?_ ⟨0, .refl s⟩
  · rintro t link network attempt ⟨m, waited⟩ _
    exact ⟨m, waited.opened attempt⟩
  · intro t fault network _ _ _ going
    cases going
  · rintro t fault network attempt ⟨m, waited⟩
    exact ⟨m + 1, waited.refused attempt⟩

theorem connect_reached {s : Session} (going : s.connect.stalled = false) :
    ∃ m, s.Reached m s.connect := by
  obtain ⟨m, ⟨link, worker⟩, ledger, rests⟩ := tryConnect_reached _ going
  exact ⟨m, ⟨link, worker⟩, ledger, rests⟩

/-- About to connect from the beginning of the schedule, to the address that the worker has then. -/
structure Aimed (s t : Session) : Prop where
  worker : ∃ endpoint phase, t.worker =
    { s.worker with
      endpoint := endpoint, phase := phase, connectRetry := s.worker.connectRetry.reset }
  ledger : ∃ resolves, t.network.ledger = { s.network.ledger with resolves := resolves }
  rests : t.rests = s.rests

theorem recover_reached {s : Session} (going : s.recover.stalled = false) :
    ∃ t m, s.Aimed t ∧ t.Reached m s.recover := by
  rw [recover] at going ⊢
  split at going
  · next again =>
    rw [if_pos again]
    obtain ⟨endpoint, journal, resolved⟩ := s.resolveAgain_eq
    rw [resolved] at going ⊢
    obtain ⟨m, reached⟩ := connect_reached going
    refine ⟨_, m, ?_, reached⟩
    exact ⟨⟨endpoint, .connecting, rfl⟩, ⟨_, rfl⟩, rfl⟩
  · next asBefore =>
    rw [if_neg asBefore]
    obtain ⟨m, reached⟩ := connect_reached going
    refine ⟨_, m, ?_, reached⟩
    exact ⟨⟨s.worker.endpoint, s.worker.phase, rfl⟩, ⟨s.network.resolves, rfl⟩, rfl⟩

structure Sent (s t : Session) : Prop where
  worker : ∃ sinceYield overflowed, t.worker =
    { s.worker with
      streak := 0, sendRetry := s.worker.sendRetry.reset
      sinceYield := sinceYield, overflowed := overflowed }
  ledger : t.network.ledger = s.network.ledger
  sleeps : t.pacer.sleeps = s.pacer.sleeps

/-- A line was lost, and the worker is connected anew after that many refused attempts. The old link
is closed before the new one is opened. -/
structure Lost (s : Session) (m : Nat) (t : Session) : Prop where
  worker : ∃ endpoint link overflowed, t.worker =
    { s.worker with
      endpoint := endpoint, link := some link, phase := .connected
      connectRetry := s.worker.connectRetry.reset, sendRetry := s.worker.sendRetry.advance
      streak := Backoff.count s.worker.streak, lost := s.worker.lost + 1
      overflowed := overflowed }
  ledger : ∃ resolves endpoint, t.network.ledger =
    ({ s.network.ledger.closes with resolves := resolves } : Ledger).opens m endpoint
  sleeps : t.pacer.sleeps =
    s.pacer.sleeps ++ s.worker.sendRetry.current :: (s.worker.connectRetry.reset.take m).1

theorem sendSucceeded_sent (s : Session) : s.Sent s.sendSucceeded := by
  obtain ⟨sinceYield, overflowed, yields, same⟩ := s.sendSucceeded_eq
  rw [same]
  exact ⟨⟨sinceYield, overflowed, rfl⟩, rfl, rfl⟩

theorem sendFailed_lost {s : Session} {fault : Fault}
    (going : (s.sendFailed fault).stalled = false) : ∃ m, s.Lost m (s.sendFailed fault) := by
  rw [sendFailed] at going ⊢
  split at going
  · next stalled =>
    rw [stalled] at going
    cases going
  · next onward =>
    rw [if_neg onward]
    obtain ⟨t, m, aimed, reached⟩ := recover_reached going
    obtain ⟨endpoint, phase, worker⟩ := aimed.worker
    obtain ⟨resolves, ledger⟩ := aimed.ledger
    obtain ⟨link, linked⟩ := reached.worker
    have closed : (s.giveUp fault).network.ledger = s.network.ledger.closes :=
      Network.ledger_changeAll _ _
    have slept : t.pacer.sleeps = s.pacer.sleeps ++ [s.worker.sendRetry.current] :=
      congrArg Prod.fst aimed.rests
    refine ⟨m, ⟨endpoint, link, (s.giveUp fault).worker.overflowed, ?_⟩,
      ⟨resolves, endpoint, ?_⟩, ?_⟩
    · rw [linked, worker]
      rfl
    · rw [reached.ledger, worker, ledger, closed]
      rfl
    · rw [← List.singleton_append, ← List.append_assoc, ← slept]
      refine (congrArg Prod.fst reached.rests).trans ?_
      rw [worker]
      rfl

theorem Sent.of_network {s t : Session} {n : Network} (same : n.ledger = s.network.ledger)
    (sent : Sent { s with network := n } t) : s.Sent t :=
  ⟨sent.worker, sent.ledger.trans same, sent.sleeps⟩

theorem Lost.of_network {s t : Session} {m : Nat} {n : Network}
    (same : n.ledger = s.network.ledger) (lost : Lost { s with network := n } m t) :
    s.Lost m t := by
  obtain ⟨worker, ⟨resolves, endpoint, ledger⟩, sleeps⟩ := lost
  exact ⟨worker, ⟨resolves, endpoint, by rw [ledger, same]⟩, sleeps⟩

theorem transmit_done {s : Session} {l : Line} {link : Nat}
    (going : (s.transmit l link).2.stalled = false) :
    ((s.transmit l link).1 = .sent ∧ s.Sent (s.transmit l link).2) ∨
      ((s.transmit l link).1 = .lost ∧ ∃ m, s.Lost m (s.transmit l link).2) := by
  have same := s.network.ledger_send s.worker.kind link l.bytes
  cases answer : s.network.send s.worker.kind link l.bytes with
  | mk fault n =>
    rw [answer] at same
    cases fault with
    | none =>
      rw [transmit_of_none answer]
      exact .inl ⟨rfl, (sendSucceeded_sent _).of_network same⟩
    | some fault =>
      rw [transmit_of_some answer] at going ⊢
      obtain ⟨m, lost⟩ := sendFailed_lost going
      exact .inr ⟨rfl, m, lost.of_network same⟩

namespace Online

variable {s : Session}

theorem linked_cases (h : s.Online) :
    (s.linked = s ∧ ∃ link, s.worker.link = some link) ∨
      (s.worker.link = none ∧ ∃ m, s.Reached m s.linked) := by
  cases link : s.worker.link with
  | some i =>
    refine .inl ⟨?_, i, rfl⟩
    rw [Session.linked, if_neg (by rw [link]; exact Bool.false_ne_true)]
  | none =>
    refine .inr ⟨rfl, ?_⟩
    rw [Session.linked, if_pos (by rw [link]; rfl)]
    exact connect_reached h.connect.going

theorem deliver_cases (h : s.Online) {l : Line} (text : l.bytes ≠ []) :
    ((s.deliver l).1 = .sent ∧ s.linked.Sent (s.deliver l).2) ∨
      ((s.deliver l).1 = .lost ∧ ∃ m, s.linked.Lost m (s.deliver l).2) := by
  have going := (h.deliver l).2.going
  obtain ⟨link, _, sends⟩ := h.deliver_eq text
  rw [sends] at going ⊢
  exact transmit_done going

theorem deliver_tried (h : s.Online) {l : Line} (text : l.bytes ≠ []) :
    (s.deliver l).1 ≠ .skipped := by
  obtain ⟨sent, _⟩ | ⟨lost, _⟩ := h.deliver_cases text
  · rw [sent]
    nofun
  · rw [lost]
    nofun

end Online

end Session

end LogRelay
