import LogRelay.Proofs.Reaching
import LogRelay.Proofs.Work

/-!
What a worker keeps in order between its calls. A call drops the link, moves the schedules on and
starts them again, and leaves every relation between the worker, its history and the count of the
network as it found it.
-/

namespace LogRelay

/-- The failed sends since the last successful one. -/
def Delivery.streak (h : List Delivery) : Nat :=
  (h.reverse.takeWhile (· ≠ .sent)).count .lost

namespace Delivery

@[simp] theorem streak_sent (h : List Delivery) : streak (h ++ [.sent]) = 0 := by
  simp [streak]

@[simp] theorem streak_lost (h : List Delivery) : streak (h ++ [.lost]) = streak h + 1 := by
  simp [streak]

@[simp] theorem streak_skipped (h : List Delivery) : streak (h ++ [.skipped]) = streak h := by
  simp [streak]

end Delivery

namespace Session

structure Sound (policy : Policy) (h : List Delivery) (s : Session) : Prop where
  policy_eq : s.worker.policy = policy
  phase : s.worker.phase = if s.worker.link.isSome then .connected else .connecting
  connectRetry : s.worker.connectRetry = .fresh policy.connectBackoff
  sendRetry : s.worker.sendRetry = ⟨policy.sendBackoff, s.worker.streak⟩
  streak : s.worker.streak = min (Delivery.streak h) Backoff.maxCount
  lost : s.worker.lost = h.count .lost
  openLinks : s.network.ledger.openLinks = if s.worker.link.isSome then 1 else 0
  peak : s.network.ledger.openLinks ≤ s.network.ledger.mostOpen
  tried : .withheld ∉ h
  used : (∃ o ∈ h, o ≠ .skipped) → s.worker.link.isSome = true

def Single (s : Session) : Prop :=
  s.network.ledger.mostOpen ≤ 1

theorem ledger_forecast (s : Session) (weather : List NetChange) :
    (s.forecast weather).network.ledger = s.network.ledger :=
  Network.ledger_changeAll _ _

theorem Single.forecast {s : Session} (single : s.Single) (weather : List NetChange) :
    (s.forecast weather).Single := by
  rw [Single, ledger_forecast]
  exact single

namespace Sound

variable {policy : Policy} {h : List Delivery} {s t : Session} {m : Nat}

theorem reached (sound : s.Sound policy h) (reached : s.Reached m t) :
    t.Sound policy h ∧ t.worker.link.isSome = true := by
  obtain ⟨link, worker⟩ := reached.worker
  have ledger := reached.ledger
  have links := sound.openLinks
  have some : t.worker.link.isSome = true := by rw [worker]; rfl
  have openLinks : t.network.ledger.openLinks = 1 := by
    rw [ledger]
    split at links
    · next some => simp [some, Ledger.opens, Ledger.closes, links]
    · next none => simp [none, Ledger.opens, links]
  have peak : t.network.ledger.openLinks ≤ t.network.ledger.mostOpen := by
    rw [ledger]
    split
    · exact Nat.le_trans (Nat.sub_le _ 1) (Ledger.peak_opens _ _ _)
    · exact Ledger.peak_opens _ _ _
  refine ⟨?_, some⟩
  exact
    { policy_eq := by rw [worker, ← sound.policy_eq]
      phase := by rw [worker]; rfl
      connectRetry := by rw [worker, sound.connectRetry]; rfl
      sendRetry := by rw [worker, sound.sendRetry]
      streak := by rw [worker, ← sound.streak]
      lost := by rw [worker, ← sound.lost]
      openLinks := by rw [openLinks, if_pos some]
      peak := peak
      tried := sound.tried
      used := fun _ => some }

theorem sent (sound : s.Sound policy h) (linked : s.worker.link.isSome = true)
    (sent : s.Sent t) : t.Sound policy (h ++ [.sent]) := by
  obtain ⟨sinceYield, overflowed, worker⟩ := sent.worker
  exact
    { policy_eq := by rw [worker, ← sound.policy_eq]
      phase := by rw [worker, ← sound.phase]
      connectRetry := by rw [worker, ← sound.connectRetry]
      sendRetry := by rw [worker, sound.sendRetry]; rfl
      streak := by rw [worker, Delivery.streak_sent]; rfl
      lost := by rw [worker, List.count_append, ← sound.lost]; rfl
      openLinks := by rw [sent.ledger, worker, ← sound.openLinks]
      peak := by rw [sent.ledger]; exact sound.peak
      tried := by simpa using sound.tried
      used := fun _ => by rw [worker]; exact linked }

theorem lose (sound : s.Sound policy h) (linked : s.worker.link.isSome = true)
    (lost : s.Lost m t) :
    t.Sound policy (h ++ [.lost]) ∧ t.worker.link.isSome = true ∧ (s.Single → t.Single) := by
  obtain ⟨endpoint, link, overflowed, worker⟩ := lost.worker
  obtain ⟨resolves, address, ledger⟩ := lost.ledger
  have links := sound.openLinks
  rw [if_pos linked] at links
  have some : t.worker.link.isSome = true := by rw [worker]; rfl
  have one : t.network.ledger.openLinks = 1 := by
    simp [ledger, Ledger.opens, Ledger.closes, links]
  refine ⟨?_, some, fun single => ?_⟩
  · exact
      { policy_eq := by rw [worker, ← sound.policy_eq]
        phase := by rw [worker]; rfl
        connectRetry := by rw [worker, sound.connectRetry]; rfl
        sendRetry := by rw [worker, sound.sendRetry]; rfl
        streak := by rw [worker, Delivery.streak_lost, ← Backoff.count_min, ← sound.streak]
        lost := by rw [worker, List.count_append, ← sound.lost]; rfl
        openLinks := by rw [one, if_pos some]
        peak := by rw [ledger]; exact Ledger.peak_opens _ _ _
        tried := by simpa using sound.tried
        used := fun _ => some }
  · rw [Single, ledger]
    simp only [Ledger.opens, Ledger.closes, links]
    exact Nat.max_le.mpr ⟨single, Nat.le_refl 1⟩

theorem skip (sound : s.Sound policy h) : s.Sound policy (h ++ [.skipped]) :=
  { sound with
    streak := by rw [Delivery.streak_skipped, sound.streak]
    lost := by rw [List.count_append, sound.lost]; rfl
    tried := by simpa using sound.tried
    used := fun ⟨o, mem, tried⟩ => sound.used ⟨o, by simpa [tried] using mem, tried⟩ }

theorem forecast (sound : s.Sound policy h) (weather : List NetChange) :
    (s.forecast weather).Sound policy h :=
  { sound with
    openLinks := by rw [ledger_forecast]; exact sound.openLinks
    peak := by rw [ledger_forecast]; exact sound.peak }

theorem single_reached (sound : s.Sound policy h) (none : s.worker.link = none)
    (reached : s.Reached m t) (single : s.Single) : t.Single := by
  have links := sound.openLinks
  rw [none] at links
  rw [Single, reached.ledger, none]
  simp only [Option.isSome_none, Bool.false_eq_true, if_false, Ledger.opens] at links ⊢
  rw [links]
  exact Nat.max_le.mpr ⟨single, Nat.le_refl 1⟩

theorem linked (sound : s.Sound policy h) (online : s.Online) :
    s.linked.Sound policy h ∧ s.linked.worker.link.isSome = true ∧
      (s.Single → s.linked.Single) := by
  obtain ⟨same, link, here⟩ | ⟨none, m, reached⟩ := online.linked_cases
  · rw [same]
    exact ⟨sound, by rw [here]; rfl, id⟩
  · obtain ⟨sound', some⟩ := sound.reached reached
    exact ⟨sound', some, sound.single_reached none reached⟩

theorem deliver (sound : s.Sound policy h) (online : s.Online) (l : Line) :
    (s.deliver l).2.Sound policy (h ++ [(s.deliver l).1]) ∧
      (s.worker.link.isSome = true ∨ l.bytes ≠ [] → (s.deliver l).2.worker.link.isSome = true) ∧
      (s.Single → (s.deliver l).2.Single) := by
  by_cases empty : l.bytes = []
  · rw [deliver_of_empty empty]
    refine ⟨sound.skip, fun some => ?_, id⟩
    obtain some | text := some
    · exact some
    · exact absurd empty text
  · obtain ⟨ready, some, single⟩ := sound.linked online
    obtain ⟨outcome, sent⟩ | ⟨outcome, m, lost⟩ := online.deliver_cases empty
    · obtain ⟨sinceYield, overflowed, worker⟩ := sent.worker
      rw [outcome]
      refine ⟨ready.sent some sent, fun _ => ?_, fun one => ?_⟩
      · rw [worker]
        exact some
      · rw [Single, sent.ledger]
        exact single one
    · obtain ⟨after, some', single'⟩ := ready.lose some lost
      rw [outcome]
      exact ⟨after, fun _ => some', fun one => single' (single one)⟩

theorem turn (sound : s.Sound policy h) (calm : s.Calm) (t : Turn) :
    (s.turn t.clear).2.Sound policy (h ++ (s.turn t.clear).1.map (·.outcome)) ∧
      (s.worker.link.isSome = true → (s.turn t.clear).2.worker.link.isSome = true) ∧
      (t.line?.isSome = true → s.Single → (s.turn t.clear).2.Single) := by
  have before := sound.forecast t.weather
  have online := calm.forecast t.weather
  obtain ⟨weather, errand⟩ := t
  cases errand with
  | deliver l =>
    obtain ⟨after, link, single⟩ := before.deliver online l
    exact ⟨after, fun some => link (.inl some), fun _ one => single (one.forecast weather)⟩
  | connect =>
    obtain ⟨m, reached⟩ := connect_reached online.connect.going
    obtain ⟨after, some⟩ := before.reached reached
    refine ⟨?_, fun _ => some, fun delivery => absurd delivery Bool.false_ne_true⟩
    exact (List.append_nil h).symm ▸ after

theorem work (sound : s.Sound policy h) (calm : s.Calm) (turns : List Turn) :
    (s.work turns).2.Sound policy (h ++ (s.work turns).1.map (·.outcome)) ∧
      (s.worker.link.isSome = true → (s.work turns).2.worker.link.isSome = true) ∧
      ((∀ t ∈ turns, t.line?.isSome = true) → s.Single → (s.work turns).2.Single) := by
  induction turns generalizing s h with
  | nil => exact ⟨(List.append_nil h).symm ▸ sound, id, fun _ => id⟩
  | cons t rest ih =>
    obtain ⟨after, link, single⟩ := sound.turn calm t
    obtain ⟨last, link', single'⟩ := ih after (calm.turn t)
    rw [List.append_assoc, ← List.map_append] at last
    rw [work_cons calm.going]
    refine ⟨last, fun some => link' (link some), fun deliveries one => ?_⟩
    have now := deliveries t List.mem_cons_self
    exact single' (fun t mem => deliveries t (List.mem_cons_of_mem _ mem)) (single now one)

end Sound

theorem sound_of_start {kind : Transport} {policy : Policy} {endpoint : Option SocketAddress}
    {weather : List NetChange} {pacer : Pacer} {s : Session}
    (started : start kind policy ((Network.fresh endpoint).changeAll weather) pacer =
      .started s) : s.Sound policy [] ∧ s.Single := by
  have ledger := Network.ledger_changeAll (Network.fresh endpoint) weather
  have openLinks := congrArg Ledger.openLinks ledger
  have mostOpen := congrArg Ledger.mostOpen ledger
  have none (n : Nat) : ((Network.fresh endpoint).changeAll weather).ledger.openLinks ≤ n :=
    Nat.le_trans (Nat.le_of_eq openLinks) (Nat.zero_le n)
  obtain ⟨_, _, _, rfl⟩ := start_eq started
  exact ⟨⟨rfl, rfl, rfl, rfl, rfl, rfl, openLinks, none _, by simp, by simp⟩,
    Nat.le_trans (Nat.le_of_eq mostOpen) (Nat.zero_le 1)⟩

/-- What holds between two calls, after lines that ended as in `h`. -/
structure InOrder (policy : Policy) (h : List Delivery) (s : Session) : Prop where
  going : s.stalled = false
  connected : s.worker.phase = .connected ↔ s.worker.link.isSome = true
  resolved : s.worker.phase ≠ .resolving
  openLinks : s.network.openLinks = if s.worker.link.isSome then 1 else 0
  peak : s.network.openLinks ≤ s.network.mostOpen
  tried : .withheld ∉ h
  used : (∃ o ∈ h, o ≠ .skipped) → s.worker.link.isSome = true
  stays : s.worker.link.isSome = true → ∀ more, (s.work more).2.worker.link.isSome = true
  sendDelay : s.worker.sendRetry.current = policy.sendBackoff.delay s.worker.streak
  connectDelay : s.worker.connectRetry.current = policy.connectBackoff.delay 0
  streak : s.worker.streak = min (Delivery.streak h) Backoff.maxCount
  lost : s.worker.lost = h.count .lost

theorem Sound.inOrder {policy : Policy} {h : List Delivery} {s : Session}
    (sound : s.Sound policy h) (calm : s.Calm) : s.InOrder policy h := by
  have phase := sound.phase
  have connected : s.worker.phase = .connected ↔ s.worker.link.isSome = true := by
    rw [phase]
    by_cases some : s.worker.link.isSome = true
    · rw [if_pos some]
      exact ⟨fun _ => some, fun _ => rfl⟩
    · rw [if_neg some]
      exact ⟨nofun, fun linked => absurd linked some⟩
  have resolved : s.worker.phase ≠ .resolving := by
    rw [phase]
    split <;> nofun
  exact
    { going := calm.going
      connected := connected
      resolved := resolved
      openLinks := sound.openLinks
      peak := sound.peak
      tried := sound.tried
      used := sound.used
      stays := fun some more => (sound.work calm more).2.1 some
      sendDelay := by rw [sound.sendRetry]; rfl
      connectDelay := by rw [sound.connectRetry]; rfl
      streak := sound.streak
      lost := sound.lost }

theorem work_in_order {kind : Transport} {policy : Policy} {endpoint : Option SocketAddress}
    {weather : List NetChange} {pacer : Pacer} {s : Session}
    (started : start kind policy ((Network.fresh endpoint).changeAll weather) pacer =
      .started s)
    (steady : ∀ cs ∈ pacer.ahead, .online false ∉ cs) (endless : pacer.limit = none)
    (turns : List Turn) :
    (s.work turns).2.InOrder policy ((s.work turns).1.map (·.outcome)) ∧
      s.Faithful (turns.map Turn.clear) ∧
      ((∀ t ∈ turns, t.line?.isSome = true) → (s.work turns).2.network.mostOpen ≤ 1) := by
  obtain ⟨sound, single⟩ := sound_of_start started
  have calm := calm_of_start started steady endless
  obtain ⟨after, _, one⟩ := sound.work calm turns
  exact ⟨after.inOrder (calm.work turns), run_faithful s _, fun deliveries => one deliveries single⟩

/-- A worker that is refused at first, meets more refusals after the first sleep, connects a second
time over its live link and then loses a line; without the second connect there is never more than
one link. -/
theorem work_in_order_of_refusals :
    let policy : Policy :=
      ⟨⟨"collector.test", 514⟩, .connecting, .sending, 1, 50, .ofMillis 5000⟩
    let a : Turn := ⟨[], .deliver (Line.ofText "a")⟩
    let b : Turn := ⟨[.sendFailures 1, .refusals 1], .deliver (Line.ofText "b")⟩
    ∃ s, start .udp policy ((Network.fresh (some Network.collector)).changeAll [.refusals 1])
        { Pacer.startingAt 0 .brisk with ahead := [[.refusals 2]] } = .started s ∧
      let again := s.work [a, ⟨[], .connect⟩, b]
      let once := s.work [a, b]
      (again.1.map (·.outcome) = [.sent, .lost] ∧ again.2.network.attempts = 7 ∧
          again.2.network.mostOpen = 2) ∧
        again.2.InOrder policy (again.1.map (·.outcome)) ∧
        once.1.map (·.outcome) = [.sent, .lost] ∧ once.2.network.mostOpen ≤ 1 :=
  ⟨_, rfl, by decide +kernel,
    (@work_in_order .udp _ (some Network.collector) [.refusals 1]
      { Pacer.startingAt 0 .brisk with ahead := [[.refusals 2]] } _ rfl (by simp) rfl _).1,
    by decide +kernel,
    (@work_in_order .udp _ (some Network.collector) [.refusals 1]
      { Pacer.startingAt 0 .brisk with ahead := [[.refusals 2]] } _ rfl (by simp) rfl _).2.2
      (by simp [Turn.line?])⟩

end Session

end LogRelay
