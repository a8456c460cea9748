import LogRelay.Proofs.Pauses
import LogRelay.Proofs.Returning

/-!
The widths of the counts of a worker. The sends since the last pause have 32 bits, and without a
number for the pauses they are never set back; the failed sends have 64 bits. Where arithmetic is
checked, a worker whose count grows out of its width ends in the middle of a call; every other call
among a network that is up comes back.
-/

namespace LogRelay

/-- Calls that ended as in `h` have raised a count out of its width. -/
def Policy.Outgrown (p : Policy) (h : List Delivery) : Prop :=
  (p.yieldEvery = 0 ∧ Backoff.maxCount < h.count .sent) ∨ UInt64.size ≤ h.count .lost

instance (p : Policy) (h : List Delivery) : Decidable (p.Outgrown h) :=
  inferInstanceAs (Decidable (_ ∨ _))

theorem Policy.outgrown_append {p : Policy} (width : p.yieldEvery ≤ Backoff.maxCount)
    (h : List Delivery) (o : Delivery) :
    p.Outgrown (h ++ [o]) ↔ p.Outgrown h ∨
      (o = .sent ∧ Backoff.maxCount ≤ h.count .sent % p.yieldEvery) ∨
      (o = .lost ∧ UInt64.size ≤ h.count .lost + 1) := by
  have sent : (h ++ [o]).count .sent = h.count .sent + if o = .sent then 1 else 0 := by
    simp [List.count_singleton]
  have lost : (h ++ [o]).count .lost = h.count .lost + if o = .lost then 1 else 0 := by
    simp [List.count_singleton]
  rw [Outgrown, Outgrown, sent, lost]
  obtain never | starts := Nat.eq_zero_or_pos p.yieldEvery
  · rw [never, Nat.mod_zero]
    cases o <;> simp <;> omega
  · have short := Nat.mod_lt (h.count .sent) starts
    cases o <;> simp <;> omega

theorem Worker.Rerouted.overflowed_eq {w v : Worker} (h : w.Rerouted v) :
    v.overflowed = w.overflowed := by
  obtain ⟨_, _, _, _, rfl⟩ := h
  rfl

namespace Session

variable {policy : Policy} {yields : Nat} {h : List Delivery} {s : Session}

theorem overflowed_sendSucceeded (s : Session) :
    s.sendSucceeded.worker.overflowed =
      (s.worker.overflowed || decide (s.worker.sinceYield ≥ Backoff.maxCount)) := by
  rw [sendSucceeded, Worker.afterSend]
  dsimp only
  split <;> rfl

theorem overflowed_transmit (s : Session) (l : Line) (link : Nat) :
    (s.transmit l link).2.worker.overflowed = true ↔ s.worker.overflowed = true ∨
      ((s.transmit l link).1 = .sent ∧ Backoff.maxCount ≤ s.worker.sinceYield) ∨
      ((s.transmit l link).1 = .lost ∧ UInt64.size ≤ s.worker.lost + 1) := by
  rw [transmit]
  split
  · next network _ =>
    rw [overflowed_sendSucceeded]
    simp
  · next fault network _ =>
    have kept := ({ s with network := network }.worker_sendFailed fault).overflowed_eq
    have counted : ({ s with network := network }.giveUp fault).worker.overflowed =
        (s.worker.overflowed || decide (s.worker.lost + 1 ≥ UInt64.size)) := rfl
    rw [kept, counted]
    simp

theorem overflowed_deliver (s : Session) (l : Line) :
    (s.deliver l).2.worker.overflowed = true ↔ s.worker.overflowed = true ∨
      ((s.deliver l).1 = .sent ∧ Backoff.maxCount ≤ s.worker.sinceYield) ∨
      ((s.deliver l).1 = .lost ∧ UInt64.size ≤ s.worker.lost + 1) := by
  have same := (worker_linked s).overflowed_eq
  have lost := (worker_linked s).lost_eq
  have sinceYield : s.linked.worker.sinceYield = s.worker.sinceYield :=
    congrArg (·.2.1) s.tally_linked
  by_cases empty : l.bytes = []
  · rw [deliver_of_empty empty]
    simp
  · obtain withheld | ⟨link, _, sends⟩ := deliver_of_text empty s
    · rw [withheld, same]
      simp
    · rw [sends, overflowed_transmit, same, lost, sinceYield]

theorem lost_deliver_eq (s : Session) (l : Line) :
    (s.deliver l).2.worker.lost = s.worker.lost + [(s.deliver l).1].count .lost := by
  by_cases empty : l.bytes = []
  · rw [deliver_of_empty empty]
    rfl
  · obtain ⟨other, _, same⟩ | ⟨lost, counted⟩ := lost_deliver empty s
    · rw [same, List.count_singleton, if_neg (by simpa using other)]
      rfl
    · rw [counted, lost]
      rfl

/-- What the counts have come to after calls that ended as in `h`. -/
structure Counted (policy : Policy) (yields : Nat) (h : List Delivery) (s : Session) : Prop where
  paused : s.Paused policy yields (h.count .sent)
  lost : s.worker.lost = h.count .lost
  overflowed : s.worker.overflowed = true ↔ policy.Outgrown h

theorem Counted.of_worker {t : Session} (counted : s.Counted policy yields h)
    (tally : t.tally = s.tally) (same : s.worker.Rerouted t.worker) :
    t.Counted policy yields h where
  paused := counted.paused.of_tally tally
  lost := same.lost_eq.trans counted.lost
  overflowed := by rw [same.overflowed_eq, counted.overflowed]

theorem Counted.deliver (width : policy.yieldEvery ≤ Backoff.maxCount)
    (counted : s.Counted policy yields h) (l : Line) :
    (s.deliver l).2.Counted policy yields (h ++ [(s.deliver l).1]) where
  paused := by
    rw [List.count_append]
    exact counted.paused.deliver l
  lost := by rw [lost_deliver_eq, counted.lost, List.count_append]
  overflowed := by
    rw [overflowed_deliver, Policy.outgrown_append width, counted.overflowed, counted.lost,
      counted.paused.sinceYield]

theorem Counted.turn (width : policy.yieldEvery ≤ Backoff.maxCount)
    (counted : s.Counted policy yields h) (t : Turn) :
    (s.turn t).2.Counted policy yields (h ++ (s.turn t).1.map (·.outcome)) := by
  have here : (s.under t.weather).Counted policy yields h :=
    ⟨counted.paused, counted.lost, counted.overflowed⟩
  obtain ⟨weather, errand⟩ := t
  cases errand with
  | deliver l => exact here.deliver width l
  | connect =>
    have after := here.of_worker (tally_connect _) (worker_connect _)
    exact (List.append_nil h).symm ▸ after

theorem Counted.run (width : policy.yieldEvery ≤ Backoff.maxCount)
    (counted : s.Counted policy yields h) (turns : List Turn) :
    (s.run turns).2.Counted policy yields (h ++ (s.run turns).1.map (·.outcome)) := by
  induction turns generalizing s h with
  | nil => exact (List.append_nil h).symm ▸ counted
  | cons t rest ih =>
    cases going : s.stalled with
    | true =>
      rw [run_of_stalled going]
      exact (List.append_nil h).symm ▸ counted
    | false =>
      have last := ih (counted.turn width t)
      rw [List.append_assoc, ← List.map_append] at last
      rw [run_cons going]
      exact last

theorem counted_of_start {kind : Transport} {network : Network} {pacer : Pacer}
    (started : start kind policy network pacer = .started s) :
    s.Counted policy s.pacer.yields [] := by
  have paused := paused_of_start started
  obtain ⟨_, _, _, rfl⟩ := start_eq started
  exact ⟨paused, rfl, by simp [Worker.create, Policy.Outgrown]⟩

/-- A call that left this session came back: the worker does not wait for ever, and no count has
grown out of its width. -/
def Returned (s : Session) : Prop :=
  s.stalled = false ∧ s.worker.overflowed = false

theorem Counted.returned_iff (width : policy.yieldEvery ≤ Backoff.maxCount)
    (counted : s.Counted policy yields h) {t : Session} (same : t.worker = s.worker)
    (online : t.Online) (l : Line) :
    (t.deliver l).2.Returned ↔ ¬ policy.Outgrown (h ++ [(t.deliver l).1]) := by
  have sinceYield := counted.paused.sinceYield
  have lost := counted.lost
  have overflowed := counted.overflowed
  rw [← same] at sinceYield lost overflowed
  rw [Returned, (online.returns l).going, Policy.outgrown_append width, ← sinceYield, ← lost,
    ← overflowed, ← overflowed_deliver, Bool.not_eq_true]
  exact and_iff_right rfl

theorem returned_replicate {network : Network} {clock : Nat} {tempo : Tempo}
    (started : start .udp policy network (.startingAt clock tempo) = .started s)
    (never : policy.yieldEvery = 0) (smooth : network.Smooth) {l : Line} (text : l.bytes ≠ []) :
    let t := (s.run (List.replicate Backoff.maxCount ⟨[], .deliver l⟩)).2
    t.Online ∧ t.Returned ∧ ¬ (t.deliver l).2.Returned := by
  have width : policy.yieldEvery ≤ Backoff.maxCount := by rw [never]; exact Nat.zero_le _
  have counted := (counted_of_start started).run width
    (List.replicate Backoff.maxCount ⟨[], .deliver l⟩)
  obtain ⟨outcomes, ready⟩ := (smooth_of_start started smooth).run text Backoff.maxCount
  rw [outcomes, List.nil_append] at counted
  have sent : (List.replicate Backoff.maxCount Delivery.sent).count .sent = Backoff.maxCount :=
    List.count_replicate_self
  have fits : ¬ policy.Outgrown (List.replicate Backoff.maxCount .sent) := by
    rintro (⟨_, beyond⟩ | many)
    · exact Nat.lt_irrefl _ (sent ▸ beyond)
    · rw [List.count_eq_zero.mpr (by simp)] at many
      exact absurd many (by decide)
  refine ⟨ready.online, ⟨ready.online.going, ?_⟩, ?_⟩
  · exact Bool.eq_false_iff.mpr fun overflowed => fits (counted.overflowed.mp overflowed)
  · rw [counted.returned_iff width rfl ready.online, (ready.deliver text).1, not_not,
      Policy.outgrown_append width, sent, never, Nat.mod_zero]
    exact .inr (.inl ⟨rfl, Nat.le_refl _⟩)

/-- Whatever a worker has been through, and whatever the network is like while it is up, a call
comes back exactly if the counts keep within their widths. -/
theorem deliver_returns {kind : Transport} {network : Network} {pacer : Pacer}
    (started : start kind policy network pacer = .started s)
    (width : policy.yieldEvery ≤ Backoff.maxCount) (turns : List Turn) {t : Session}
    (same : t.worker = (s.run turns).2.worker) (online : t.Online) (l : Line) :
    ((t.deliver l).2.Returned ↔
        ¬ policy.Outgrown ((s.run turns).1.map (·.outcome) ++ [(t.deliver l).1])) ∧
      t.Returns l := by
  have counted := (counted_of_start started).run width turns
  rw [List.nil_append] at counted
  exact ⟨counted.returned_iff width same online l, online.returns l⟩

theorem deliver_returns_of_zero_chunk :
    let policy : Policy :=
      ⟨⟨"collector.test", 514⟩, .connecting, .sending, 10, 50, .ofMillis 5000⟩
    let turns : List Turn := [⟨[.refusals 1], .deliver (Line.ofText "a")⟩, ⟨[], .connect⟩]
    ∃ s, start .tcp policy (Network.fresh (some Network.collector)) (.startingAt 0 .brisk) =
        .started s ∧
      let t := (s.run turns).2.under [.refusals 2, .interrupts 3, .maxChunk (some 0)]
      let after := t.deliver (Line.ofText "b")
      t.Online ∧ t.Unbarred ∧ after.1 = .lost ∧ after.2.network.attempts = 6 ∧
        after.2.Returned ∧ t.Returns (Line.ofText "b") := by
  intro policy turns
  refine ⟨_, rfl, ?_⟩
  intro t after
  have calm : t.pacer.ahead = [] := List.isEmpty_iff.mp (by decide +kernel)
  have online : t.Online :=
    ⟨by decide +kernel, by decide +kernel, by simp [calm], by decide +kernel⟩
  obtain ⟨returned, returns⟩ := @deliver_returns policy _ .tcp
    (Network.fresh (some Network.collector)) (.startingAt 0 .brisk) rfl (by decide) turns t rfl
    online (Line.ofText "b")
  exact ⟨online, by simp [Unbarred, calm], by decide +kernel, by decide +kernel,
    returned.mpr (by decide +kernel), returns⟩

/-- With no number set, the worker that has sent as many lines as 32 bits can count does not come
back from the next one. -/
theorem deliver_overflows_after_maxCount :
    ∃ s, start .udp ⟨⟨"collector.test", 514⟩, .connecting, .sending, 10, 0, .ofMillis 5000⟩
        (Network.fresh (some Network.collector)) (.startingAt 0 .brisk) = .started s ∧
      let t := (s.run (List.replicate Backoff.maxCount ⟨[], .deliver (Line.ofText "a")⟩)).2
      t.Online ∧ t.Returned ∧ ¬ (t.deliver (Line.ofText "a")).2.Returned :=
  ⟨_, rfl, @returned_replicate _ _ (Network.fresh (some Network.collector)) 0 .brisk rfl rfl
    ⟨rfl, rfl, rfl⟩ _ (by decide)⟩

end Session

end LogRelay
