import LogRelay.Proofs.Deliveries
import LogRelay.Proofs.Ledger

/-!
Where names lead in a network. Only two of its settings decide that, so that no connection, send or
sleep has a part in it unless a change during the sleep touches one of the two.
-/

namespace LogRelay

def NetChange.renames : NetChange → Bool
  | .endpoint _ | .unresolvable _ => true
  | _ => false

namespace Network

def naming (n : Network) : Option SocketAddress × Bool :=
  (n.endpoint, n.unresolvable)

theorem resolve_of_naming {n m : Network} (same : n.naming = m.naming) (d : Destination) :
    (n.resolve d).1 = (m.resolve d).1 := by
  have endpoint : n.endpoint = m.endpoint := congrArg Prod.fst same
  have unresolvable : n.unresolvable = m.unresolvable := congrArg Prod.snd same
  rw [resolve, resolve, endpoint, unresolvable]

theorem naming_changeAll (n : Network) {cs : List NetChange} (kept : ∀ c ∈ cs, c.renames = false) :
    (n.changeAll cs).naming = n.naming := by
  induction cs generalizing n with
  | nil => rfl
  | cons c cs ih =>
    have first : (n.change c).naming = n.naming := by
      have same := kept c List.mem_cons_self
      cases c with
      | endpoint | unresolvable => cases same
      | _ => rfl
    exact (ih _ fun c mem => kept c (List.mem_cons_of_mem _ mem)).trans first

theorem naming_connect (n : Network) (kind : Transport) (a : SocketAddress) :
    (n.connect kind a).2.naming = n.naming := by
  rw [connect]
  dsimp only
  split
  · rfl
  · split <;> rfl

theorem naming_send (n : Network) (kind : Transport) (link : Nat) (b : Bytes) :
    (n.send kind link b).2.naming = n.naming := by
  obtain ⟨_, _, _, _, _, same⟩ := n.spent_send kind link b
  rw [same]
  rfl

end Network

namespace Session

/-- Names lead where `names` says, and they go on doing so while the worker sleeps. -/
structure Named (names : Option SocketAddress × Bool) (s : Session) : Prop where
  naming : s.network.naming = names
  ahead : ∀ cs ∈ s.pacer.ahead, ∀ c ∈ cs, c.renames = false

namespace Named

variable {names : Option SocketAddress × Bool} {s : Session}

theorem sleep (named : s.Named names) (d : Duration) : (s.sleep d).Named names := by
  refine ⟨?_, fun cs mem => named.ahead cs (List.mem_of_mem_tail mem)⟩
  refine (s.network.naming_changeAll fun c mem => ?_).trans named.naming
  cases ahead : s.pacer.ahead with
  | nil =>
    rw [ahead] at mem
    cases mem
  | cons cs rest =>
    rw [ahead] at mem
    exact named.ahead cs (by rw [ahead]; exact List.mem_cons_self) c mem

theorem tryConnect (named : s.Named names) : s.tryConnect.Named names := by
  have turnedAway {t : Session} {fault : Fault} {network : Network}
      (attempt : t.network.connect t.worker.kind t.worker.endpoint = (.error fault, network))
      (named : t.Named names) : (t.turnedAway network fault).Named names := by
    have same := t.network.naming_connect t.worker.kind t.worker.endpoint
    rw [attempt] at same
    refine sleep ?_ _
    exact ⟨same.trans named.naming, named.ahead⟩
  refine tryConnect_induction (P := Named names) (Q := Named names) ?_ ?_ turnedAway named
  · intro t link network attempt named
    have same := t.network.naming_connect t.worker.kind t.worker.endpoint
    rw [attempt] at same
    refine ⟨?_, named.ahead⟩
    rw [opened, note, established]
    dsimp only
    split <;> exact same.trans named.naming
  · intro t fault network attempt named _
    have refused := turnedAway attempt named
    exact ⟨refused.naming, refused.ahead⟩

theorem connect (named : s.Named names) : s.connect.Named names :=
  tryConnect ⟨named.naming, named.ahead⟩

theorem linked (named : s.Named names) : s.linked.Named names := by
  rw [Session.linked]
  split
  · exact named.connect
  · exact named

theorem giveUp (named : s.Named names) (fault : Fault) : (s.giveUp fault).Named names := by
  refine sleep ?_ _
  exact ⟨named.naming, named.ahead⟩

theorem recover (named : s.Named names) : s.recover.Named names := by
  rw [Session.recover]
  refine connect ?_
  split
  · obtain ⟨_, _, again⟩ := s.resolveAgain_eq
    rw [again]
    exact ⟨named.naming, named.ahead⟩
  · exact ⟨named.naming, named.ahead⟩

theorem transmit (named : s.Named names) (l : Line) (link : Nat) :
    (s.transmit l link).2.Named names := by
  have same := s.network.naming_send s.worker.kind link l.bytes
  cases answer : s.network.send s.worker.kind link l.bytes with
  | mk fault m =>
    rw [answer] at same
    have sent : ({ s with network := m } : Session).Named names :=
      ⟨same.trans named.naming, named.ahead⟩
    cases fault with
    | none =>
      obtain ⟨_, _, _, after⟩ := ({ s with network := m } : Session).sendSucceeded_eq
      rw [transmit_of_none answer, after]
      exact ⟨sent.naming, sent.ahead⟩
    | some fault =>
      rw [transmit_of_some answer, sendFailed]
      split
      · exact sent.giveUp fault
      · exact (sent.giveUp fault).recover

theorem deliver (named : s.Named names) (l : Line) : (s.deliver l).2.Named names := by
  by_cases empty : l.bytes = []
  · rw [deliver_of_empty empty]
    exact named
  · obtain same | ⟨link, _, same⟩ := deliver_of_text empty s
    · rw [same]
      exact named.linked
    · rw [same]
      exact named.linked.transmit l link

end Named

end Session

end LogRelay
