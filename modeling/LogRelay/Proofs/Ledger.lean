import LogRelay.Proofs.Traffic

/-!
What a network counts: resolutions, attempts to connect, the connections that came of them and the
links that are open. Settings and sends leave the count as it is, and only a connection that is
opened can bring more links than there ever were at once.
-/

namespace LogRelay

structure Ledger where
  resolves : Nat
  attempts : Nat
  connectedTo : List SocketAddress
  openLinks : Nat
  mostOpen : Nat

namespace Ledger

def opens (g : Ledger) (refused : Nat) (a : SocketAddress) : Ledger :=
  { g with
    attempts := g.attempts + refused + 1
    connectedTo := g.connectedTo ++ [a]
    openLinks := g.openLinks + 1
    mostOpen := max g.mostOpen (g.openLinks + 1) }

def closes (g : Ledger) : Ledger :=
  { g with openLinks := g.openLinks - 1 }

theorem peak_opens (g : Ledger) (refused : Nat) (a : SocketAddress) :
    (g.opens refused a).openLinks ≤ (g.opens refused a).mostOpen :=
  Nat.le_max_right _ _

/-- The attempts from one point to a later one that opened no connection. -/
def refusedUntil (g h : Ledger) : Nat :=
  (h.attempts - g.attempts) - (h.connectedTo.length - g.connectedTo.length)

@[simp] theorem refusedUntil_self (g : Ledger) : g.refusedUntil g = 0 := by
  simp [refusedUntil]

@[simp] theorem refusedUntil_opens (g : Ledger) (refused : Nat) (a : SocketAddress) :
    g.refusedUntil (g.opens refused a) = refused := by
  simp only [refusedUntil, opens, List.length_append, List.length_singleton]
  omega

end Ledger

namespace Network

def ledger (n : Network) : Ledger :=
  ⟨n.resolves, n.attempts, n.connectedTo, n.openLinks, n.mostOpen⟩

@[simp] theorem ledger_change (n : Network) (c : NetChange) : (n.change c).ledger = n.ledger := by
  cases c <;> rfl

@[simp] theorem ledger_changeAll (n : Network) (cs : List NetChange) :
    (n.changeAll cs).ledger = n.ledger := by
  induction cs generalizing n with
  | nil => rfl
  | cons c cs ih => exact (ih (n.change c)).trans (n.ledger_change c)

theorem ledger_of_refused {n m : Network} {kind : Transport} {a : SocketAddress} {fault : Fault}
    (attempt : n.connect kind a = (.error fault, m)) :
    m.ledger = { n.ledger with attempts := n.ledger.attempts + 1 } := by
  rw [connect] at attempt
  split at attempt
  · cases attempt
    rfl
  · split at attempt
    · cases attempt
      rfl
    · cases attempt

theorem ledger_of_opened {n m : Network} {kind : Transport} {a : SocketAddress} {link : Nat}
    (attempt : n.connect kind a = (.ok link, m)) : m.ledger = n.ledger.opens 0 a := by
  rw [connect] at attempt
  split at attempt
  · cases attempt
  · split at attempt
    · cases attempt
    · cases attempt
      rfl

/-- The networks differ at most in what a send uses up and in what it brings. -/
def Spent (n m : Network) : Prop :=
  ∃ inboxes arrivals interrupts budget sendFailures,
    m = { n with
      inboxes := inboxes, arrivals := arrivals, interrupts := interrupts, budget := budget
      sendFailures := sendFailures }

theorem Spent.refl (n : Network) : n.Spent n :=
  ⟨_, _, _, _, _, rfl⟩

theorem Spent.trans {n m l : Network} (first : n.Spent m) (second : m.Spent l) : n.Spent l := by
  obtain ⟨_, _, _, _, _, rfl⟩ := first
  obtain ⟨_, _, _, _, _, rfl⟩ := second
  exact ⟨_, _, _, _, _, rfl⟩

theorem spent_write (link : Nat) (n : Network) (offer : Bytes) :
    n.Spent (write link n offer).2 := by
  unfold write
  split
  · exact ⟨_, _, _, _, _, rfl⟩
  · dsimp only
    split <;> exact ⟨_, _, _, _, _, rfl⟩

theorem spent_writeAll (n : Network) (link : Nat) (b : Bytes) :
    n.Spent (n.writeAll link b).writer :=
  writeFully_took (write link) (fun n _ m => n.Spent m) Spent.refl Spent.trans (spent_write link)
    _ n b

theorem spent_send (n : Network) (kind : Transport) (link : Nat) (b : Bytes) :
    n.Spent (n.send kind link b).2 := by
  unfold send
  split
  · exact .refl n
  · exact .refl n
  · split
    · exact ⟨_, _, _, _, _, rfl⟩
    · cases kind with
      | udp => exact ⟨_, _, _, _, _, rfl⟩
      | tcp =>
        have spent := n.spent_writeAll link b
        dsimp only
        split <;> exact spent

theorem ledger_send (n : Network) (kind : Transport) (link : Nat) (b : Bytes) :
    (n.send kind link b).2.ledger = n.ledger := by
  obtain ⟨_, _, _, _, _, same⟩ := n.spent_send kind link b
  rw [same]
  rfl

end Network

end LogRelay
