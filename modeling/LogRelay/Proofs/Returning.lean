import LogRelay.Proofs.Reaching
import LogRelay.Proofs.Transfers

/-!
Why a call comes to its end among a network that is up. Every write takes octets, uses up an
interruption, or is the last one; every refused attempt uses up a refusal. So the attempts of a call
can be told from its outcome.
-/

namespace LogRelay

section

variable {σ : Type} {write : σ → Bytes → Reply × σ}

structure Writer.Patient (write : σ → Bytes → Reply × σ) (left : σ → Nat) : Prop where
  interrupted : ∀ {s offer next}, write s offer = (.interrupted, next) → left next < left s
  accepted : ∀ {s offer n next}, write s offer = (.accepted n, next) → left next ≤ left s

theorem Writer.Patient.ends {left : σ → Nat} (patient : Writer.Patient write left) {fuel : Nat}
    {s : σ} {b : Bytes} (enough : b.length + left s < fuel) :
    (writeFully write fuel s b).ending ≠ .unfinished := by
  induction fuel generalizing s b with
  | zero => exact absurd enough (Nat.not_lt_zero _)
  | succ fuel ih =>
    by_cases text : b = []
    · rw [text, writeFully_nil]
      intro unfinished
      cases unfinished
    · have offered := List.length_pos_iff.mpr text
      cases answer : write s b with
      | mk reply next =>
        rw [writeFully_succ text answer]
        split
        · next plain =>
          refine ih ?_
          rw [List.length_drop]
          obtain (_ | n) | _ | fault := reply
          · cases plain
          · have kept := patient.accepted answer
            simp only [Reply.count]
            omega
          · have used := patient.interrupted answer
            simp only [Reply.count]
            omega
          · cases plain
        · intro unfinished
          cases unfinished

end

namespace Network

theorem patient_write (link : Nat) : Writer.Patient (write link) (·.interrupts) where
  interrupted := by
    intro n offer m answer
    unfold write at answer
    split at answer
    · cases answer
      dsimp only
      omega
    · dsimp only at answer
      split at answer <;> cases answer
  accepted := by
    intro n offer count m answer
    unfold write at answer
    split at answer
    · cases answer
    · dsimp only at answer
      split at answer <;> cases answer <;> exact Nat.le_refl _

theorem returns_writeAll (n : Network) (link : Nat) (b : Bytes) :
    Writer.Returns (write link) n b (n.writeAll link b) :=
  ⟨_, rfl, (patient_write link).ends (Nat.lt_succ_self _)⟩

def door (n : Network) : Nat × Nat :=
  (n.refusals, n.attempts)

theorem door_send (n : Network) (kind : Transport) (link : Nat) (b : Bytes) :
    (n.send kind link b).2.door = n.door := by
  obtain ⟨_, _, _, _, _, same⟩ := n.spent_send kind link b
  rw [same]
  rfl

theorem uplink_send (n : Network) (kind : Transport) (link : Nat) (b : Bytes) :
    (n.send kind link b).2.uplink = n.uplink := by
  obtain ⟨_, _, _, _, _, same⟩ := n.spent_send kind link b
  rw [same]

theorem door_change (n : Network) {c : NetChange} (kept : ∀ k, c ≠ .refusals k) :
    (n.change c).door = n.door := by
  cases c with
  | refusals k => exact absurd rfl (kept k)
  | _ => rfl

theorem door_changeAll (n : Network) {cs : List NetChange} (kept : ∀ k, .refusals k ∉ cs) :
    (n.changeAll cs).door = n.door := by
  induction cs generalizing n with
  | nil => rfl
  | cons c cs ih =>
    simp only [List.mem_cons, not_or] at kept
    exact (ih (n.change c) fun k => (kept k).2).trans
      (n.door_change fun k => Ne.symm (kept k).1)

variable {n m : Network} {kind : Transport} {a : SocketAddress}

theorem door_of_refused {fault : Fault} (up : n.uplink = .up)
    (attempt : n.connect kind a = (.error fault, m)) :
    n.refusals = m.refusals + 1 ∧ m.attempts = n.attempts + 1 := by
  simp only [connect, barrier?, up] at attempt
  split at attempt
  · cases attempt
    dsimp only
    omega
  · cases attempt

theorem door_of_opened {link : Nat} (up : n.uplink = .up)
    (attempt : n.connect kind a = (.ok link, m)) :
    n.refusals = 0 ∧ m.door = (0, n.attempts + 1) := by
  simp only [connect, barrier?, up] at attempt
  split at attempt
  · cases attempt
  · next free =>
    cases attempt
    have none : n.refusals = 0 := Nat.eq_zero_of_not_pos free
    exact ⟨none, by rw [door, none]⟩

end Network

namespace Session

/-- Attempts one after the other, each refused one with its sleep, up to one that succeeds after
`m` others. -/
inductive Connects : Session → Nat → Session → Prop where
  | opened {s : Session} {link : Nat} {network : Network}
      (attempt : s.network.connect s.worker.kind s.worker.endpoint = (.ok link, network)) :
      Connects s 0 (s.opened network link)
  | refused {s t : Session} {m : Nat} {fault : Fault} {network : Network}
      (attempt : s.network.connect s.worker.kind s.worker.endpoint = (.error fault, network))
      (later : Connects (s.turnedAway network fault) m t) : Connects s (m + 1) t

/-- No refusals are added during the sleeps to come. -/
def Unbarred (s : Session) : Prop :=
  ∀ cs ∈ s.pacer.ahead, ∀ k, .refusals k ∉ cs

variable {s t : Session}

theorem Unbarred.sleep (unbarred : s.Unbarred) (d : Duration) :
    (s.sleep d).network.door = s.network.door ∧ (s.sleep d).Unbarred := by
  refine ⟨?_, fun cs mem => unbarred cs (List.mem_of_mem_tail mem)⟩
  rw [Session.sleep]
  dsimp only
  cases ahead : s.pacer.ahead with
  | nil => rfl
  | cons cs rest =>
    exact s.network.door_changeAll (unbarred cs (by rw [ahead]; exact List.mem_cons_self))

namespace Online

theorem connects (h : s.Online) : ∃ m, s.Connects m s.tryConnect := by
  induction s using tryConnect.induct with
  | case1 s link network attempt =>
    rw [tryConnect_of_ok attempt]
    exact ⟨0, .opened attempt⟩
  | case2 s fault network attempt after stalled =>
    have up := (Network.connect_refused attempt).2.trans h.up
    exact absurd (h.turnedAway up fault).going (by rw [Bool.not_eq_false]; exact stalled)
  | case3 s fault network attempt after going hope =>
    exact absurd (h.hopeful.symm.trans hope) Bool.false_ne_true
  | case4 s fault network attempt after going hope ih =>
    have up := (Network.connect_refused attempt).2.trans h.up
    obtain ⟨m, later⟩ := ih (h.turnedAway up fault)
    rw [tryConnect_of_error attempt, if_neg (fun stuck => stuck.elim going hope)]
    exact ⟨m + 1, .refused attempt later⟩

end Online

theorem Connects.link_isSome {m : Nat} (connects : s.Connects m t) :
    t.worker.link.isSome = true := by
  induction connects with
  | opened => rfl
  | refused _ _ ih => exact ih

theorem Connects.counts {m : Nat} (connects : s.Connects m t) (online : s.Online)
    (unbarred : s.Unbarred) :
    m = s.network.refusals ∧ t.network.door = (0, s.network.attempts + (m + 1)) ∧ t.Unbarred := by
  induction connects with
  | @opened s link network attempt =>
    obtain ⟨free, door⟩ := Network.door_of_opened online.up attempt
    refine ⟨free.symm, ?_, unbarred⟩
    rw [← door, Session.opened, note, established]
    dsimp only
    split <;> rfl
  | @refused s t m fault network attempt later ih =>
    obtain ⟨used, attempts⟩ := Network.door_of_refused online.up attempt
    have up := (Network.connect_refused attempt).2.trans online.up
    obtain ⟨kept, still⟩ := Unbarred.sleep (s := ({ s with network := network } : Session))
      unbarred s.worker.connectRetry.current
    have here : (s.turnedAway network fault).network.door = network.door := kept
    obtain ⟨left, sofar⟩ := Prod.mk.inj here
    obtain ⟨rest, door, unbarred⟩ := ih (online.turnedAway up fault) still
    refine ⟨by omega, ?_, unbarred⟩
    rw [door, sofar, attempts, Nat.add_right_comm, Nat.add_assoc]

/-- What a recovery does before it connects concerns neither refusals nor the pacer. -/
structure Sheltered (s t : Session) : Prop where
  door : t.network.door = s.network.door
  uplink : t.network.uplink = s.network.uplink
  pacer : t.pacer = s.pacer
  stalled : t.stalled = s.stalled

theorem recover_tries (s : Session) : ∃ u, s.Sheltered u ∧ s.recover = u.tryConnect := by
  rw [recover]
  split
  · obtain ⟨endpoint, journal, again⟩ := s.resolveAgain_eq
    rw [again]
    refine ⟨_, ?_, rfl⟩
    exact ⟨rfl, rfl, rfl, rfl⟩
  · refine ⟨_, ?_, rfl⟩
    exact ⟨rfl, rfl, rfl, rfl⟩

theorem Sheltered.online {u : Session} (same : s.Sheltered u) (h : s.Online) : u.Online where
  going := same.stalled.trans h.going
  up := same.uplink.trans h.up
  steady := by rw [same.pacer]; exact h.steady
  endless := by rw [same.pacer]; exact h.endless

theorem Sheltered.unbarred {u : Session} (same : s.Sheltered u) (h : s.Unbarred) :
    u.Unbarred := by
  rw [Unbarred, same.pacer]
  exact h

theorem Online.sendFailed_connects (h : s.Online) (fault : Fault) :
    ∃ u m, (s.giveUp fault).Sheltered u ∧ Connects u m (s.sendFailed fault) ∧
      (s.Unbarred → (s.sendFailed fault).network.door =
        (0, s.network.attempts + (s.network.refusals + 1))) := by
  have still := h.giveUp fault
  obtain ⟨u, same, recovery⟩ := (s.giveUp fault).recover_tries
  obtain ⟨m, connects⟩ := (same.online still).connects
  rw [Session.sendFailed, if_neg (by rw [still.going]; exact Bool.false_ne_true), recovery]
  refine ⟨u, m, same, connects, fun unbarred => ?_⟩
  obtain ⟨kept, later⟩ := Unbarred.sleep
    (s := { s with worker := s.worker.afterLoss, network := s.network.close }) unbarred
    s.worker.sendRetry.current
  obtain ⟨left, sofar⟩ := Prod.mk.inj (same.door.trans kept)
  obtain ⟨all, door, -⟩ := connects.counts (same.online still) (same.unbarred later)
  rw [door, all, left, sofar]
  rfl

/-- A line was lost over the link that the worker had, which then connected anew. -/
def Recovers (s : Session) (l : Line) (t : Session) : Prop :=
  ∃ link fault network u m, s.worker.link = some link ∧
    s.network.send s.worker.kind link l.bytes = (some fault, network) ∧
    ({ s with network := network }.giveUp fault).Sheltered u ∧ Connects u m t

theorem Online.transmit_returns (h : s.Online) (l : Line) {link : Nat}
    (here : s.worker.link = some link) :
    ((s.transmit l link).1 = .sent ∧ (s.transmit l link).2.worker.link.isSome = true ∧
        (s.transmit l link).2.network.door = s.network.door) ∨
      ((s.transmit l link).1 = .lost ∧ (s.transmit l link).2.worker.link.isSome = true ∧
        s.Recovers l (s.transmit l link).2 ∧
        (s.Unbarred → (s.transmit l link).2.network.door =
          (0, s.network.attempts + (s.network.refusals + 1)))) := by
  have door := s.network.door_send s.worker.kind link l.bytes
  have uplink := s.network.uplink_send s.worker.kind link l.bytes
  cases answer : s.network.send s.worker.kind link l.bytes with
  | mk fault network =>
    rw [answer] at door uplink
    cases fault with
    | none =>
      obtain ⟨_, _, _, same⟩ := { s with network := network }.sendSucceeded_eq
      rw [transmit_of_none answer, same]
      exact .inl ⟨rfl, by rw [here]; rfl, door⟩
    | some fault =>
      obtain ⟨u, m, sheltered, connects, counts⟩ :=
        (h.among uplink).sendFailed_connects fault
      obtain ⟨left, sofar⟩ := Prod.mk.inj door
      rw [transmit_of_some answer]
      refine .inr ⟨rfl, connects.link_isSome, ⟨link, fault, network, u, m, here, answer,
        sheltered, connects⟩, fun unbarred => ?_⟩
      rw [counts unbarred, left, sofar]

/-- The attempts to connect that a call makes, with that many refusals to come. -/
def attemptsOf (connected : Bool) (refusals : Nat) : Delivery → Nat
  | .skipped | .withheld => 0
  | .sent => if connected then 0 else refusals + 1
  | .lost => if connected then refusals + 1 else refusals + 2

theorem Online.linked_connects (h : s.Online) :
    (s.worker.link.isSome = true ∧ s.linked = s) ∨
      (s.worker.link.isSome = false ∧
        ∃ m, Connects { s with worker := { s.worker with phase := .connecting } } m s.linked ∧
        (s.Unbarred → s.linked.network.door =
          (0, s.network.attempts + (s.network.refusals + 1)) ∧ s.linked.Unbarred)) := by
  cases link : s.worker.link with
  | some i =>
    refine .inl ⟨rfl, ?_⟩
    rw [Session.linked, if_neg (by rw [link]; exact Bool.false_ne_true)]
  | none =>
    refine .inr ⟨rfl, ?_⟩
    rw [Session.linked, if_pos (by rw [link]; rfl), Session.connect]
    have ready : ({ s with worker := { s.worker with phase := .connecting } } : Session).Online :=
      ⟨h.going, h.up, h.steady, h.endless⟩
    obtain ⟨m, connects⟩ := ready.connects
    refine ⟨m, connects, fun unbarred => ?_⟩
    obtain ⟨all, door, later⟩ := connects.counts ready unbarred
    rw [door, all]
    exact ⟨rfl, later⟩

/-- How the call for a line with octets ends: each of its loops comes to an end, and it has made
this many attempts to connect. -/
structure Concludes (s : Session) (l : Line) : Prop where
  reported : s.Reported l
  tried : (s.deliver l).1 = .sent ∨ (s.deliver l).1 = .lost
  connected : (s.deliver l).2.worker.link.isSome = true
  connects : s.worker.link.isSome = false →
    ∃ m, Connects { s with worker := { s.worker with phase := .connecting } } m s.linked
  writes : ∀ link, Writer.Returns (Network.write link) s.linked.network l.bytes
    (s.linked.network.writeAll link l.bytes)
  reconnects : (s.deliver l).1 = .lost → s.linked.Recovers l (s.deliver l).2
  attempts : s.Unbarred → (s.deliver l).2.network.attempts = s.network.attempts +
    attemptsOf s.worker.link.isSome s.network.refusals (s.deliver l).1

structure Returns (s : Session) (l : Line) : Prop where
  going : (s.deliver l).2.stalled = false
  empty : l.bytes = [] → s.deliver l = (.skipped, s)
  text : l.bytes ≠ [] → s.Concludes l

theorem Online.attempts_linked (h : s.Online) (unbarred : s.Unbarred) :
    s.linked.Unbarred ∧ (s.linked.network.door = if s.worker.link.isSome then s.network.door else
      (0, s.network.attempts + (s.network.refusals + 1))) := by
  obtain ⟨isLinked, same⟩ | ⟨free, _, _, counts⟩ := h.linked_connects
  · rw [same, if_pos isLinked]
    exact ⟨unbarred, rfl⟩
  · rw [if_neg (by rw [free]; exact Bool.false_ne_true)]
    exact (counts unbarred).symm

theorem Online.attempts_deliver (h : s.Online) {l : Line} (text : l.bytes ≠ [])
    (unbarred : s.Unbarred) :
    (s.deliver l).2.network.attempts =
      s.network.attempts + attemptsOf s.worker.link.isSome s.network.refusals (s.deliver l).1 := by
  obtain ⟨link, here, sends⟩ := h.deliver_eq text
  obtain ⟨still, before⟩ := h.attempts_linked unbarred
  have after := h.linked.transmit_returns l here
  rw [← sends] at after
  cases isLinked : s.worker.link.isSome
  all_goals
    rw [isLinked] at before
    obtain ⟨left, sofar⟩ := Prod.mk.inj before
    obtain ⟨went, -, door⟩ | ⟨failed, -, -, door⟩ := after
    · rw [went]
      exact (congrArg Prod.snd door).trans sofar
    · rw [failed]
      refine (congrArg Prod.snd (door still)).trans ?_
      rw [left, sofar]
      rfl

theorem Online.concludes (h : s.Online) {l : Line} (text : l.bytes ≠ []) : s.Concludes l := by
  obtain ⟨link, here, sends⟩ := h.deliver_eq text
  have after := h.linked.transmit_returns l here
  rw [← sends] at after
  exact
    { reported := s.reported_deliver l
      tried := after.imp (·.1) (·.1)
      connected := after.elim (·.2.1) (·.2.1)
      connects := by
        intro free
        obtain ⟨isLinked, _⟩ | ⟨_, m, connects, _⟩ := h.linked_connects
        · rw [free] at isLinked
          cases isLinked
        · exact ⟨m, connects⟩
      writes := fun link => s.linked.network.returns_writeAll link l.bytes
      reconnects := by
        intro failed
        obtain ⟨went, _⟩ | ⟨_, _, recovers, _⟩ := after
        · rw [failed] at went
          cases went
        · exact recovers
      attempts := h.attempts_deliver text }

theorem Online.returns (h : s.Online) (l : Line) : s.Returns l :=
  ⟨(h.deliver l).2.going, fun empty => deliver_of_empty empty s, fun text => h.concludes text⟩

end Session

end LogRelay
