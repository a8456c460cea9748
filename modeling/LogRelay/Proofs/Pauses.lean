import LogRelay.Proofs.Work

/-!
The pauses for other threads. A worker counts its sends up to the number that its policy sets, then
pauses and counts again from zero; without such a number it counts on for ever. Nothing but a send
that went well touches the count, whatever the network does between the calls and during them.
-/

namespace LogRelay

namespace Policy

theorem counts_succ (p : Policy) (sent : Nat) :
    ((sent + 1) % p.yieldEvery, (sent + 1) / p.yieldEvery) =
      if p.yieldEvery > 0 ∧ sent % p.yieldEvery + 1 ≥ p.yieldEvery then
        (0, sent / p.yieldEvery + 1)
      else (sent % p.yieldEvery + 1, sent / p.yieldEvery) := by
  generalize p.yieldEvery = every
  have whole := Nat.div_add_mod sent every
  split
  · next full =>
    have lt := Nat.mod_lt sent full.1
    have complete : sent + 1 = every * (sent / every + 1) := by
      rw [Nat.mul_succ]
      omega
    rw [complete, Nat.mul_mod_right, Nat.mul_div_cancel_left _ full.1]
  · next short =>
    obtain rfl | positive := Nat.eq_zero_or_pos every
    · simp
    · have lt : sent % every + 1 < every := Nat.lt_of_not_le fun full => short ⟨positive, full⟩
      have begun : sent + 1 = every * (sent / every) + (sent % every + 1) := by omega
      rw [begun, Nat.mul_add_mod, Nat.mod_eq_of_lt lt, Nat.mul_add_div positive,
        Nat.div_eq_of_lt lt]
      rfl

/-- The numbers that the count is raised to by `sent` sends, after `before` others. It starts again
from zero after every `yieldEvery` of them, and never if that is zero. -/
def raises (p : Policy) (before sent : Nat) : List Nat :=
  (List.range' before sent).map (· % p.yieldEvery + 1)

theorem raises_append (p : Policy) (before first second : Nat) :
    p.raises before first ++ p.raises (before + first) second =
      p.raises before (first + second) := by
  rw [raises, raises, raises, ← List.map_append, ← List.range'_append_1]

theorem raises_le_iff {p : Policy} {bound : Nat} (width : p.yieldEvery ≤ bound) (sent : Nat) :
    (∀ n ∈ p.raises 0 sent, n ≤ bound) ↔ p.yieldEvery ≠ 0 ∨ sent ≤ bound := by
  simp only [raises, List.mem_map, List.mem_range'_1, forall_exists_index, and_imp,
    forall_apply_eq_imp_iff₂, Nat.zero_le, Nat.zero_add, forall_const]
  constructor
  · intro below
    by_cases endless : p.yieldEvery = 0
    · refine .inr (Nat.le_of_not_lt fun beyond => ?_)
      have last := below bound beyond
      rw [endless, Nat.mod_zero] at last
      exact Nat.not_succ_le_self bound last
    · exact .inl endless
  · rintro (starts | short) k lt
    · exact Nat.le_trans (Nat.mod_lt k (Nat.pos_of_ne_zero starts)) width
    · exact Nat.le_trans (Nat.succ_le_succ (Nat.mod_le k _)) (Nat.le_trans lt short)

end Policy

namespace Network

structure Smooth (n : Network) : Prop where
  up : n.uplink = .up
  refusals : n.refusals = 0
  sendFailures : n.sendFailures = 0

theorem Smooth.connect {n : Network} (smooth : n.Smooth) (kind : Transport) (a : SocketAddress) :
    ∃ link m, n.connect kind a = (.ok link, m) ∧ m.Smooth := by
  have open? : n.barrier? kind = none := by simp only [barrier?, smooth.up]
  rw [Network.connect, open?]
  dsimp only
  rw [if_neg (by rw [smooth.refusals]; exact Nat.lt_irrefl 0)]
  exact ⟨_, _, rfl, smooth.up, smooth.refusals, smooth.sendFailures⟩

theorem Smooth.close {n : Network} (smooth : n.Smooth) : n.close.Smooth :=
  ⟨smooth.up, smooth.refusals, smooth.sendFailures⟩

theorem Smooth.send {n : Network} (smooth : n.Smooth) (link : Nat) (b : Bytes) :
    ∃ m, n.send .udp link b = (none, m) ∧ m.Smooth := by
  rw [Network.send, smooth.up]
  dsimp only
  rw [if_neg (by rw [smooth.sendFailures]; exact Nat.lt_irrefl 0)]
  exact ⟨_, rfl, smooth.up, smooth.refusals, smooth.sendFailures⟩

end Network

namespace Session

def tally (s : Session) : Policy × Nat × Nat :=
  (s.worker.policy, s.worker.sinceYield, s.pacer.yields)

theorem tally_tryConnect (s : Session) : s.tryConnect.tally = s.tally :=
  tryConnect_induction (P := (·.tally = s.tally)) (Q := (·.tally = s.tally))
    (fun _ same => same) (fun _ same _ => same) (fun _ same => same) rfl

theorem tally_connect (s : Session) : s.connect.tally = s.tally :=
  tally_tryConnect _

theorem Readdressed.tally_eq {s t : Session} (same : s.Readdressed t) : t.tally = s.tally := by
  obtain ⟨_, _, _, _, worker⟩ := same.worker
  rw [tally, worker, same.pacer]
  rfl

theorem tally_recover (s : Session) : s.recover.tally = s.tally := by
  obtain ⟨t, same, recovery⟩ := s.recover_eq
  rw [recovery, tally_connect]
  exact same.tally_eq

theorem tally_sendFailed (s : Session) (fault : Fault) : (s.sendFailed fault).tally = s.tally := by
  rw [sendFailed]
  split
  · rfl
  · exact tally_recover _

theorem tally_linked (s : Session) : s.linked.tally = s.tally := by
  rw [linked]
  split
  · exact s.tally_connect
  · rfl

/-- After that many sends, for a worker that began with `yields` pauses. -/
def Paused (policy : Policy) (yields sent : Nat) (s : Session) : Prop :=
  s.tally = (policy, sent % policy.yieldEvery, yields + sent / policy.yieldEvery)

variable {policy : Policy} {yields sent : Nat} {s : Session}

theorem Paused.of_tally {t : Session} (paused : s.Paused policy yields sent)
    (same : t.tally = s.tally) : t.Paused policy yields sent :=
  same.trans paused

theorem Paused.sinceYield (paused : s.Paused policy yields sent) :
    s.worker.sinceYield = sent % policy.yieldEvery :=
  congrArg (·.2.1) paused

theorem Paused.sendSucceeded (paused : s.Paused policy yields sent) :
    s.sendSucceeded.Paused policy yields (sent + 1) := by
  have known : s.worker.policy = policy := congrArg (·.1) paused
  have rested : s.pacer.yields = yields + sent / policy.yieldEvery := congrArg (·.2.2) paused
  have next := policy.counts_succ sent
  rw [Paused, Session.sendSucceeded, Worker.afterSend]
  dsimp only
  rw [known, paused.sinceYield]
  split at next
  · next full =>
    obtain ⟨counter, pauses⟩ := Prod.mk.inj next
    rw [if_pos full, counter, pauses, ← Nat.add_assoc, ← rested]
    rw [← known]
    rfl
  · next short =>
    obtain ⟨counter, pauses⟩ := Prod.mk.inj next
    rw [if_neg short, counter, pauses, ← rested, ← known]
    rfl

theorem Paused.transmit (paused : s.Paused policy yields sent) (l : Line) (link : Nat) :
    (s.transmit l link).2.Paused policy yields
      (sent + [(s.transmit l link).1].count .sent) := by
  cases answer : s.network.send s.worker.kind link l.bytes with
  | mk fault m =>
    have still : ({ s with network := m } : Session).Paused policy yields sent :=
      paused.of_tally rfl
    cases fault with
    | none =>
      rw [transmit_of_none answer]
      exact still.sendSucceeded
    | some fault =>
      rw [transmit_of_some answer]
      exact still.of_tally (tally_sendFailed _ fault)

theorem Paused.deliver (paused : s.Paused policy yields sent) (l : Line) :
    (s.deliver l).2.Paused policy yields (sent + [(s.deliver l).1].count .sent) := by
  have linked := paused.of_tally s.tally_linked
  by_cases empty : l.bytes = []
  · rw [deliver_of_empty empty]
    exact paused
  · obtain withheld | ⟨link, _, sends⟩ := deliver_of_text empty s
    · rw [withheld]
      exact linked
    · rw [sends]
      exact linked.transmit l link

/-- The number to which a call raises the count, before it is compared with the policy. -/
def raisedBy (s : Session) (l : Line) : List Nat :=
  if (s.deliver l).1 = .sent then [s.linked.worker.sinceYield + 1] else []

theorem Paused.raisedBy_eq (paused : s.Paused policy yields sent) (l : Line) :
    s.raisedBy l = policy.raises sent ([(s.deliver l).1].count .sent) := by
  rw [raisedBy, (paused.of_tally s.tally_linked).sinceYield]
  split
  · next went =>
    rw [went]
    rfl
  · next failed =>
    rw [List.count_singleton, if_neg (by simpa using failed)]
    rfl

def sends (s : Session) (turns : List Turn) : Nat :=
  ((s.run turns).1.map (·.outcome)).count .sent

def raisedIn (s : Session) (t : Turn) : List Nat :=
  match t.errand with
  | .deliver l => (s.under t.weather).raisedBy l
  | .connect => []

def raised : Session → List Turn → List Nat
  | _, [] => []
  | s, t :: rest => if s.stalled then [] else s.raisedIn t ++ raised (s.turn t).2 rest

theorem sends_cons (going : s.stalled = false) (t : Turn) (rest : List Turn) :
    s.sends (t :: rest) =
      ((s.turn t).1.map (·.outcome)).count .sent + (s.turn t).2.sends rest := by
  rw [sends, run_cons going, List.map_append, List.count_append]
  rfl

theorem Paused.turn (paused : s.Paused policy yields sent) (t : Turn) :
    (s.turn t).2.Paused policy yields
        (sent + ((s.turn t).1.map (·.outcome)).count .sent) ∧
      s.raisedIn t = policy.raises sent (((s.turn t).1.map (·.outcome)).count .sent) := by
  have here : (s.under t.weather).Paused policy yields sent := paused.of_tally rfl
  obtain ⟨weather, errand⟩ := t
  cases errand with
  | deliver l => exact ⟨here.deliver l, here.raisedBy_eq l⟩
  | connect => exact ⟨here.of_tally (tally_connect _), rfl⟩

theorem Paused.run (paused : s.Paused policy yields sent) (turns : List Turn) :
    (s.run turns).2.Paused policy yields (sent + s.sends turns) ∧
      s.raised turns = policy.raises sent (s.sends turns) := by
  -- Each call goes on from the count that the one before it left.
  induction turns generalizing s sent with
  | nil => exact ⟨paused, rfl⟩
  | cons t rest ih =>
    cases going : s.stalled with
    | true =>
      rw [sends, run_of_stalled going, raised, if_pos going]
      exact ⟨paused, rfl⟩
    | false =>
      obtain ⟨after, first⟩ := paused.turn t
      obtain ⟨last, later⟩ := ih after
      rw [run_cons going, sends_cons going, raised,
        if_neg (by rw [going]; exact Bool.false_ne_true), first, later, Policy.raises_append,
        ← Nat.add_assoc]
      exact ⟨last, rfl⟩

theorem paused_of_start {kind : Transport} {network : Network} {pacer : Pacer}
    (started : start kind policy network pacer = .started s) :
    s.Paused policy s.pacer.yields 0 := by
  obtain ⟨_, _, _, rfl⟩ := start_eq started
  rw [Paused, tally, Nat.zero_mod, Nat.zero_div]
  rfl

structure Smooth (s : Session) : Prop where
  kind : s.worker.kind = .udp
  network : s.network.Smooth
  online : s.Online

theorem Smooth.linked (smooth : s.Smooth) :
    s.linked.Smooth ∧ ∃ link, s.linked.worker.link = some link := by
  have online := smooth.online.linked
  rw [Session.linked] at online ⊢
  split at online
  · next free =>
    obtain ⟨link, n, attempt, still⟩ := smooth.network.connect s.worker.kind s.worker.endpoint
    have opened : s.connect = Session.opened
        { s with worker := { s.worker with phase := .connecting } } n link :=
      tryConnect_of_ok attempt
    rw [if_pos free]
    rw [opened] at online ⊢
    refine ⟨⟨smooth.kind, ?_, online⟩, link, rfl⟩
    rw [Session.opened, note, established]
    dsimp only
    split
    · exact still.close
    · exact still
  · next isLinked =>
    rw [if_neg isLinked]
    exact ⟨smooth, Option.ne_none_iff_exists'.mp (by simpa using isLinked)⟩

theorem Smooth.deliver (smooth : s.Smooth) {l : Line} (text : l.bytes ≠ []) :
    (s.deliver l).1 = .sent ∧ (s.deliver l).2.Smooth := by
  have online := (smooth.online.deliver l).2
  obtain ⟨ready, link, here⟩ := smooth.linked
  obtain ⟨n, went, still⟩ := ready.network.send link l.bytes
  rw [← ready.kind] at went
  obtain ⟨_, _, _, same⟩ := { s.linked with network := n }.sendSucceeded_eq
  rw [deliver_of_link text here ready.online.going, transmit_of_none went, same] at online ⊢
  exact ⟨rfl, ready.kind, still, online⟩

theorem Smooth.run (smooth : s.Smooth) {l : Line} (text : l.bytes ≠ []) (n : Nat) :
    ((s.run (List.replicate n ⟨[], .deliver l⟩)).1.map (·.outcome)) = List.replicate n .sent ∧
      (s.run (List.replicate n ⟨[], .deliver l⟩)).2.Smooth := by
  induction n generalizing s with
  | zero => exact ⟨rfl, smooth⟩
  | succ n ih =>
    obtain ⟨went, still⟩ := smooth.deliver text
    obtain ⟨later, last⟩ := ih still
    rw [List.replicate_succ, run_cons smooth.online.going, List.map_append, List.replicate_succ]
    exact ⟨congr (congrArg List.cons went) later, last⟩

theorem smooth_of_start {network : Network} {clock : Nat} {tempo : Tempo}
    (started : start .udp policy network (.startingAt clock tempo) = .started s)
    (smooth : network.Smooth) : s.Smooth := by
  obtain ⟨going, steady, endless⟩ := start_calm started
  obtain ⟨_, _, _, rfl⟩ := start_eq started
  exact ⟨rfl, ⟨smooth.up, smooth.refusals, smooth.sendFailures⟩,
    going, smooth.up, steady, endless⟩

theorem raised_replicate {network : Network} {clock : Nat} {tempo : Tempo}
    (started : start .udp policy network (.startingAt clock tempo) = .started s)
    (smooth : network.Smooth) {l : Line} (text : l.bytes ≠ []) (n : Nat) :
    s.raised (List.replicate n ⟨[], .deliver l⟩) = policy.raises 0 n := by
  rw [((paused_of_start started).run _).2, sends,
    ((smooth_of_start started smooth).run text n).1, List.count_replicate_self]

/-- How the sends of a run have raised the count since the last pause, and when each of its values
has room in 32 bits. -/
structure Paces (policy : Policy) (s : Session) (turns : List Turn) : Prop where
  faithful : s.Faithful turns
  sinceYield : (s.run turns).2.worker.sinceYield = s.sends turns % policy.yieldEvery
  yields : (s.run turns).2.pacer.yields = s.pacer.yields + s.sends turns / policy.yieldEvery
  raised : s.raised turns = policy.raises 0 (s.sends turns)
  fits : (∀ n ∈ s.raised turns, n ≤ Backoff.maxCount) ↔
    policy.yieldEvery ≠ 0 ∨ s.sends turns ≤ Backoff.maxCount

theorem run_paces {kind : Transport} {network : Network} {pacer : Pacer}
    (started : start kind policy network pacer = .started s)
    (width : policy.yieldEvery ≤ Backoff.maxCount) (turns : List Turn) : Paces policy s turns := by
  obtain ⟨last, raised⟩ := (paused_of_start started).run turns
  rw [Nat.zero_add] at last
  exact
    { faithful := run_faithful s turns
      sinceYield := last.sinceYield
      yields := congrArg (·.2.2) last
      raised := raised
      fits := by rw [raised, Policy.raises_le_iff width] }

theorem run_paces_of_loss :
    let policy : Policy :=
      ⟨⟨"collector.test", 514⟩, .connecting, .sending, 10, 2, .ofMillis 5000⟩
    let turns := [([], Line.ofText "a"), ([.sendFailures 1], Line.ofText "b"), ([], Line.empty),
      ([.refusals 2], Line.ofText "c"), ([], Line.ofText "d"), ([], Line.ofText "e")].map
        Turn.delivery
    ∃ s, start .udp policy (Network.fresh (some Network.collector)) (.startingAt 0 .brisk) =
        .started s ∧
      policy.yieldEvery ≤ Backoff.maxCount ∧
      (s.run turns).1.map (·.outcome) = [.sent, .lost, .skipped, .sent, .sent, .sent] ∧
      Paces policy s turns :=
  ⟨_, rfl, by decide, by decide +kernel,
    @run_paces _ _ .udp (Network.fresh (some Network.collector)) (.startingAt 0 .brisk) rfl
      (by decide) _⟩

/-- With no number set, as many sends as there are 32-bit numbers raise the count beyond the last
of them. -/
theorem raised_beyond_maxCount :
    ∃ s, start .udp ⟨⟨"collector.test", 514⟩, .connecting, .sending, 10, 0, .ofMillis 5000⟩
        (Network.fresh (some Network.collector)) (.startingAt 0 .brisk) = .started s ∧
      ¬ ∀ n ∈ s.raised (List.replicate UInt32.size ⟨[], .deliver (Line.ofText "a")⟩),
        n ≤ Backoff.maxCount := by
  refine ⟨_, rfl, ?_⟩
  -- A run of that length is not evaluated: over a smooth network it is known how it counts.
  have smooth : (Network.fresh (some Network.collector)).Smooth := ⟨rfl, rfl, rfl⟩
  have text : (Line.ofText "a").bytes ≠ [] := by decide
  rw [raised_replicate rfl smooth text, Policy.raises_le_iff (Nat.zero_le _)]
  exact fun fits => fits.elim (· rfl) (Nat.not_le.mpr (by decide))

/-- A call pauses for other threads after its send, if a pause is due, and does nothing more; a call
that sends nothing does not pause. -/
structure Pauses (s : Session) (l : Line) (due : Prop) [Decidable due] : Prop where
  reported : s.Reported l
  sent : (s.deliver l).1 = .sent → ∃ link network, s.linked.worker.link = some link ∧
    s.linked.network.send s.linked.worker.kind link l.bytes = (none, network) ∧
    s.linked.pacer.yields = s.pacer.yields ∧ (s.deliver l).2.network = network ∧
    (s.deliver l).2.pacer =
      { s.linked.pacer with yields := s.pacer.yields + if due then 1 else 0 }
  others : (s.deliver l).1 ≠ .sent → (s.deliver l).2.pacer.yields = s.pacer.yields

theorem Paused.yields_eq (paused : s.Paused policy yields sent) :
    s.pacer.yields = yields + sent / policy.yieldEvery :=
  congrArg (·.2.2) paused

theorem deliver_of_sent {l : Line} (went : (s.deliver l).1 = .sent) :
    ∃ link network, s.linked.worker.link = some link ∧
      s.linked.network.send s.linked.worker.kind link l.bytes = (none, network) ∧
      (s.deliver l).2 = { s.linked with network := network }.sendSucceeded := by
  by_cases empty : l.bytes = []
  · rw [deliver_of_empty empty] at went
    cases went
  · obtain withheld | ⟨link, here, sends⟩ := deliver_of_text empty s
    · rw [withheld] at went
      cases went
    · rw [sends] at went ⊢
      cases answer : s.linked.network.send s.linked.worker.kind link l.bytes with
      | mk fault network =>
        cases fault with
        | none => exact ⟨link, network, here, answer, by rw [transmit_of_none answer]⟩
        | some fault =>
          rw [transmit_of_some answer] at went
          cases went

theorem Paused.pauses (paused : s.Paused policy yields sent) (l : Line) :
    s.Pauses l (policy.yieldEvery ∣ sent + 1) := by
  have calm : s.linked.pacer.yields = s.pacer.yields := congrArg (·.2.2) s.tally_linked
  have after := (paused.deliver l).yields_eq
  refine ⟨s.reported_deliver l, fun went => ?_, fun failed => ?_⟩
  · rw [went, List.count_singleton_self, Nat.succ_div, ← Nat.add_assoc,
      ← paused.yields_eq] at after
    obtain ⟨link, network, here, answer, last⟩ := deliver_of_sent went
    obtain ⟨_, _, pauses, same⟩ := { s.linked with network := network }.sendSucceeded_eq
    rw [last, same] at after ⊢
    exact ⟨link, network, here, answer, calm, rfl, by rw [← after]⟩
  · rw [after, paused.yields_eq, List.count_singleton, if_neg (by simpa using failed)]
    rfl

/-- The pauses of a run, all together and call by call. -/
structure Fair (policy : Policy) (s : Session) (turns : List Turn) : Prop where
  faithful : s.Faithful turns
  yields : (s.run turns).2.pacer.yields = s.pacer.yields + s.sends turns / policy.yieldEvery
  never : policy.yieldEvery = 0 → (s.run turns).2.pacer.yields = s.pacer.yields
  sinceYield : 0 < policy.yieldEvery →
    (s.run turns).2.worker.sinceYield = s.sends turns % policy.yieldEvery
  each : ∀ before weather l later, turns = before ++ ⟨weather, .deliver l⟩ :: later →
    ((s.run before).2.under weather).Pauses l (policy.yieldEvery ∣ s.sends before + 1)

/-- Whatever fails in between, a run pauses right after every `yieldEvery`-th send that went
well. -/
theorem run_fair {kind : Transport} {network : Network} {pacer : Pacer}
    (started : start kind policy network pacer = .started s) (turns : List Turn) :
    Fair policy s turns := by
  have counted (turns : List Turn) :
      (s.run turns).2.Paused policy s.pacer.yields (s.sends turns) := by
    have run := ((paused_of_start started).run turns).1
    rwa [Nat.zero_add] at run
  exact
    { faithful := run_faithful s turns
      yields := (counted turns).yields_eq
      never := by
        intro none
        rw [(counted turns).yields_eq, none, Nat.div_zero]
        rfl
      sinceYield := fun _ => (counted turns).sinceYield
      each := by
        intro before weather l _ _
        have here : ((s.run before).2.under weather).Paused policy s.pacer.yields
            (s.sends before) := (counted before).of_tally rfl
        exact here.pauses l }

theorem run_fair_of_gaps :
    let policy : Policy :=
      ⟨⟨"collector.test", 514⟩, .connecting, .sending, 1, 2, .ofMillis 5000⟩
    let turns := [([.refusals 3], Line.ofText "a"), ([], Line.empty),
      ([.budget (some 1)], Line.ofText "bc"), ([.budget none, .interrupts 2], Line.ofText "d"),
      ([], Line.ofText "e")].map Turn.delivery
    ∃ s, start .tcp policy (Network.fresh (some Network.collector)) (.startingAt 0 .brisk) =
        .started s ∧
      (s.run turns).1.map (·.outcome) = [.sent, .skipped, .lost, .sent, .sent] ∧
      (s.run turns).2.pacer.sleeps.length = 4 ∧ (s.run turns).2.pacer.yields = 1 ∧
      Fair policy s turns :=
  ⟨_, rfl, by decide +kernel, by decide +kernel, by decide +kernel,
    @run_fair _ _ .tcp (Network.fresh (some Network.collector)) (.startingAt 0 .brisk) rfl _⟩

end Session

end LogRelay
