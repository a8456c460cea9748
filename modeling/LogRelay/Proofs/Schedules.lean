import LogRelay.Proofs.Bookkeeping

/-!
The delays of a worker, told by what became of its lines and by the attempts that were refused. Each
time it connects the connect schedule runs from its beginning; the send schedule goes on from one
failed send to the next and starts again only after a line was sent.
-/

namespace LogRelay

namespace Backoff

def schedule (b : Backoff) (retries : Nat) : List Duration :=
  (List.range retries).map b.delay

/-- Beyond the largest count the delay stays as it is, so that it may be told by any number. -/
theorem delay_min (b : Backoff) (n : Nat) : b.delay (min n maxCount) = b.delay n := by
  have large : 32 ≤ maxCount := by decide
  have same : factor (min n maxCount) = factor n := by
    by_cases small : n < 32
    · rw [Nat.min_eq_left (by omega)]
    · rw [factor, factor, if_neg (by omega), if_neg small]
  rw [delay, delay, same]

end Backoff

theorem Retry.take_eq_range' (b : Backoff) (n m : Nat) :
    (Retry.take m ⟨b, min n Backoff.maxCount⟩).1 = (List.range' n m).map b.delay := by
  induction m generalizing n with
  | zero => rfl
  | succ m ih =>
    have onward : advance ⟨b, min n Backoff.maxCount⟩ = ⟨b, min (n + 1) Backoff.maxCount⟩ :=
      congrArg (mk b) (Backoff.count_min n)
    rw [take, onward, List.range'_succ, List.map_cons, ← ih, current, b.delay_min]

theorem Retry.take_fresh (b : Backoff) (m : Nat) : ((fresh b).take m).1 = b.schedule m := by
  rw [Backoff.schedule, List.range_eq_range']
  exact take_eq_range' b 0 m

/-- What became of a line, and the attempts to connect that were refused before it was sent and
after its send had failed. -/
structure Trial where
  outcome : Delivery
  before : Nat
  after : Nat
deriving DecidableEq

namespace Policy

/-- The delays of a line, after lines that ended as in `past`. -/
def delaysOf (p : Policy) (past : List Delivery) (t : Trial) : List Duration :=
  p.connectBackoff.schedule t.before ++
    if t.outcome = .lost then
      p.sendBackoff.delay (min (Delivery.streak past) Backoff.maxCount) ::
        p.connectBackoff.schedule t.after
    else []

def delays (p : Policy) : List Delivery → List Trial → List Duration
  | _, [] => []
  | past, t :: rest => p.delaysOf past t ++ p.delays (past ++ [t.outcome]) rest

end Policy

namespace Session

def trial (s : Session) (l : Line) : Trial :=
  let ready := if l.isEmpty then s else s.linked
  { outcome := (s.deliver l).1
    before := s.network.ledger.refusedUntil ready.network.ledger
    after := ready.network.ledger.refusedUntil (s.deliver l).2.network.ledger }

def trials (s : Session) (calls : List (List NetChange × Line)) : List Trial :=
  (s.begun calls).map fun c => c.1.trial c.2

theorem trials_cons (s : Session) (call : List NetChange × Line)
    (rest : List (List NetChange × Line)) :
    s.trials (call :: rest) = (s.forecast call.1).trial call.2 ::
      ((s.forecast call.1).deliver call.2).2.trials rest := rfl

theorem trial_of_empty {l : Line} (empty : l.bytes = []) (s : Session) :
    s.trial l = ⟨.skipped, 0, 0⟩ := by
  rw [trial, deliver_of_empty empty, if_pos (l.isEmpty_iff.mpr empty)]
  simp

theorem trial_of_text {l : Line} (text : l.bytes ≠ []) (s : Session) :
    s.trial l =
      ⟨(s.deliver l).1, s.network.ledger.refusedUntil s.linked.network.ledger,
        s.linked.network.ledger.refusedUntil (s.deliver l).2.network.ledger⟩ := by
  rw [trial, if_neg (fun empty => text (l.isEmpty_iff.mp empty))]

theorem Lost.refused {s t : Session} {m : Nat} (lost : s.Lost m t) :
    s.network.ledger.refusedUntil t.network.ledger = m := by
  obtain ⟨resolves, endpoint, ledger⟩ := lost.ledger
  rw [ledger]
  simp only [Ledger.refusedUntil, Ledger.opens, Ledger.closes, List.length_append,
    List.length_singleton]
  omega

theorem Online.trial_spec {s : Session} (online : s.Online) (l : Line) :
    (s.trial l).outcome ≠ .withheld ∧
      ((s.trial l).outcome = .skipped → (s.trial l).before = 0) ∧
      ((s.trial l).outcome ≠ .lost → (s.trial l).after = 0) ∧
      (s.worker.link.isSome = true → (s.trial l).before = 0) := by
  by_cases empty : l.bytes = []
  · rw [trial_of_empty empty]
    exact ⟨nofun, fun _ => rfl, fun _ => rfl, fun _ => rfl⟩
  · rw [trial_of_text empty]
    dsimp only
    have quiet : s.worker.link.isSome = true →
        s.network.ledger.refusedUntil s.linked.network.ledger = 0 := by
      intro some
      obtain ⟨same, _⟩ | ⟨none, _⟩ := online.linked_cases
      · rw [same, Ledger.refusedUntil_self]
      · rw [none] at some
        cases some
    obtain ⟨outcome, sent⟩ | ⟨outcome, m, lost⟩ := online.deliver_cases empty
    · rw [outcome, sent.ledger]
      exact ⟨nofun, nofun, fun _ => Ledger.refusedUntil_self _, quiet⟩
    · rw [outcome]
      exact ⟨nofun, nofun, fun other => absurd rfl other, quiet⟩

namespace Sound

variable {policy : Policy} {h : List Delivery} {s : Session}

theorem sleeps_linked (sound : s.Sound policy h) (online : s.Online) :
    s.linked.pacer.sleeps = s.pacer.sleeps ++
      policy.connectBackoff.schedule
        (s.network.ledger.refusedUntil s.linked.network.ledger) := by
  obtain ⟨same, _⟩ | ⟨none, m, reached⟩ := online.linked_cases
  · rw [same, Ledger.refusedUntil_self]
    exact (List.append_nil _).symm
  · have ledger := reached.ledger
    have slept := congrArg Prod.fst reached.rests
    rw [none, Option.isSome_none, if_neg Bool.false_ne_true] at ledger
    rw [sound.connectRetry, Retry.take_fresh] at slept
    rw [ledger, Ledger.refusedUntil_opens]
    exact slept

theorem sleeps_deliver (sound : s.Sound policy h) (online : s.Online) (l : Line) :
    (s.deliver l).2.pacer.sleeps = s.pacer.sleeps ++ policy.delaysOf h (s.trial l) := by
  by_cases empty : l.bytes = []
  · rw [trial_of_empty empty, deliver_of_empty empty]
    exact (List.append_nil _).symm
  · rw [trial_of_text empty]
    have linked := sound.sleeps_linked online
    have ready := (sound.linked online).1
    obtain ⟨outcome, sent⟩ | ⟨outcome, m, lost⟩ := online.deliver_cases empty
    · rw [sent.sleeps, linked, Policy.delaysOf, outcome]
      exact congrArg _ (List.append_nil _).symm
    · have first : s.linked.worker.sendRetry.current =
          policy.sendBackoff.delay (min (Delivery.streak h) Backoff.maxCount) := by
        rw [ready.sendRetry, ready.streak]
        rfl
      have restarted : s.linked.worker.connectRetry.reset = .fresh policy.connectBackoff := by
        rw [ready.connectRetry]
        rfl
      rw [lost.sleeps, linked, first, restarted, Retry.take_fresh, Policy.delaysOf, outcome,
        if_pos rfl, lost.refused, List.append_assoc]

theorem sleeps_work (sound : s.Sound policy h) (calm : s.Calm)
    (calls : List (List NetChange × Line)) :
    (s.work (calls.map Turn.delivery)).2.pacer.sleeps =
      s.pacer.sleeps ++ policy.delays h (s.trials calls) := by
  induction calls generalizing s h with
  | nil => exact (List.append_nil _).symm
  | cons call rest ih =>
    have online := calm.forecast call.1
    have now := (sound.forecast call.1).sleeps_deliver online call.2
    have after := ((sound.forecast call.1).deliver online call.2).1
    have later := ih after (calm.turn (.delivery call))
    rw [trials_cons, Policy.delays, ← List.append_assoc, List.map_cons, work_cons calm.going]
    exact later.trans (congrArg (· ++ _) now)

theorem trials_of_linked (sound : s.Sound policy h) (calm : s.Calm)
    (some : s.worker.link.isSome = true) (calls : List (List NetChange × Line)) :
    ∀ t ∈ s.trials calls, t.before = 0 := by
  induction calls generalizing s h with
  | nil => nofun
  | cons call rest ih =>
    intro t mem
    have online := calm.forecast call.1
    have ready := sound.forecast call.1
    rw [trials_cons] at mem
    obtain here | later := List.mem_cons.mp mem
    · rw [here]
      exact (online.trial_spec call.2).2.2.2 some
    · have after := ready.deliver online call.2
      exact ih after.1 (calm.turn (.delivery call)) (after.2.1 (.inl some)) t later

theorem trials_spec (sound : s.Sound policy h) (calm : s.Calm)
    (calls : List (List NetChange × Line)) :
    (∀ t ∈ s.trials calls, t.outcome ≠ .withheld ∧
      (t.outcome = .skipped → t.before = 0) ∧ (t.outcome ≠ .lost → t.after = 0)) ∧
      (s.trials calls).Pairwise fun t u => t.outcome = .skipped ∨ u.before = 0 := by
  induction calls generalizing s h with
  | nil => exact ⟨nofun, .nil⟩
  | cons call rest ih =>
    have online := calm.forecast call.1
    have ready := sound.forecast call.1
    have after := ready.deliver online call.2
    have calm' := calm.turn (.delivery call)
    obtain ⟨each, pairs⟩ := ih after.1 calm'
    obtain ⟨tried, skipped, kept, _⟩ := online.trial_spec call.2
    rw [trials_cons]
    refine ⟨fun t mem => ?_, List.pairwise_cons.mpr ⟨fun u later => ?_, pairs⟩⟩
    · obtain here | later := List.mem_cons.mp mem
      · rw [here]
        exact ⟨tried, skipped, kept⟩
      · exact each t later
    · by_cases empty : call.2.bytes = []
      · exact .inl (by rw [trial_of_empty empty])
      · exact .inr (trials_of_linked after.1 calm' (after.2.1 (.inr empty)) rest u later)

end Sound

/-- The delays of a run, told by its lines one after another. Attempts are refused before the first
line that is tried and after lines that are lost, and nowhere else. -/
structure Scheduled (policy : Policy) (s : Session) (calls : List (List NetChange × Line)) :
    Prop where
  returned : (s.work (calls.map Turn.delivery)).2.stalled = false
  faithful : s.Faithful ((calls.map Turn.delivery).map Turn.clear)
  outcomes : (s.work (calls.map Turn.delivery)).1.map (·.outcome) =
    (s.trials calls).map (·.outcome)
  sleeps : (s.work (calls.map Turn.delivery)).2.pacer.sleeps =
    s.pacer.sleeps ++ policy.delays [] (s.trials calls)
  places : ∀ t ∈ s.trials calls, t.outcome ≠ .withheld ∧
    (t.outcome = .skipped → t.before = 0) ∧ (t.outcome ≠ .lost → t.after = 0)
  first : (s.trials calls).Pairwise fun t u => t.outcome = .skipped ∨ u.before = 0

theorem work_scheduled {kind : Transport} {policy : Policy} {endpoint : Option SocketAddress}
    {weather : List NetChange} {pacer : Pacer} {s : Session}
    (started : start kind policy ((Network.fresh endpoint).changeAll weather) pacer =
      .started s)
    (steady : ∀ cs ∈ pacer.ahead, .online false ∉ cs) (endless : pacer.limit = none)
    (calls : List (List NetChange × Line)) : Scheduled policy s calls := by
  have sound := (sound_of_start started).1
  have calm := calm_of_start started steady endless
  obtain ⟨places, first⟩ := sound.trials_spec calm calls
  exact
    { returned := (calm.work _).going
      faithful := run_faithful s _
      outcomes := by rw [calm.work_eq_begun, trials, List.map_map, List.map_map]; rfl
      sleeps := sound.sleeps_work calm calls
      places := places
      first := first }

theorem work_scheduled_of_losses :
    let policy : Policy :=
      ⟨⟨"collector.test", 514⟩, .connecting, .sending, 10, 50, .ofMillis 5000⟩
    let calls := [([.sendFailures 1], Line.ofText "a"), ([], Line.empty),
      ([.budget (some 0), .refusals 3], Line.ofText "b"), ([.budget none], Line.ofText "c")]
    ∃ s, start .tcp policy ((Network.fresh (some Network.collector)).changeAll [.refusals 2])
        { Pacer.startingAt 0 .brisk with ahead := [[], [], [.refusals 1]] } = .started s ∧
      s.trials calls =
        [⟨.lost, 2, 1⟩, ⟨.skipped, 0, 0⟩, ⟨.lost, 0, 3⟩, ⟨.sent, 0, 0⟩] ∧
      Scheduled policy s calls :=
  ⟨_, rfl, by decide +kernel, @work_scheduled .tcp _ (some Network.collector) [.refusals 2]
    { Pacer.startingAt 0 .brisk with ahead := [[], [], [.refusals 1]] } _ rfl
    (by simp) rfl _⟩

end Session

end LogRelay
