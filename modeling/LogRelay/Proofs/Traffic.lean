import LogRelay.Network
import LogRelay.Proofs.Writing

/-!
What a network has received, connection by connection and datagram by datagram. Settings, attempts
and closed links leave it as it is; a send adds to its own connection only, the whole line if it
succeeds and less than the line if it fails.
-/

namespace LogRelay.Network

def traffic (n : Network) : List Bytes × List Bytes :=
  (n.connections, n.datagrams)

@[simp] theorem traffic_change (n : Network) (c : NetChange) :
    (n.change c).traffic = n.traffic := by
  cases c <;> rfl

@[simp] theorem traffic_changeAll (n : Network) (cs : List NetChange) :
    (n.changeAll cs).traffic = n.traffic := by
  induction cs generalizing n with
  | nil => rfl
  | cons c cs ih => exact (ih (n.change c)).trans (n.traffic_change c)

theorem uplink_change {n : Network} (up : n.uplink = .up) {c : NetChange} (kept : c ≠ .online false) :
    (n.change c).uplink = .up := by
  cases c with
  | online on =>
    cases on with
    | true => rfl
    | false => exact absurd rfl kept
  | _ => exact up

theorem uplink_changeAll {n : Network} (up : n.uplink = .up) {cs : List NetChange}
    (kept : .online false ∉ cs) : (n.changeAll cs).uplink = .up := by
  induction cs generalizing n with
  | nil => exact up
  | cons c cs ih =>
    rw [List.mem_cons, not_or] at kept
    exact ih (uplink_change up (Ne.symm kept.1)) kept.2

theorem length_connections (n : Network) : n.connections.length = n.inboxes.length :=
  List.length_map _

theorem connect_refused {n m : Network} {kind : Transport} {a : SocketAddress} {fault : Fault}
    (h : n.connect kind a = (.error fault, m)) :
    m.traffic = n.traffic ∧ m.uplink = n.uplink := by
  rw [connect] at h
  split at h
  · cases h; exact ⟨rfl, rfl⟩
  · split at h
    · cases h; exact ⟨rfl, rfl⟩
    · cases h

theorem connect_opened {n m : Network} {kind : Transport} {a : SocketAddress} {link : Nat}
    (h : n.connect kind a = (.ok link, m)) :
    link = n.connections.length ∧ m.traffic = (n.connections ++ [[]], n.datagrams) ∧
      m.uplink = n.uplink := by
  rw [connect] at h
  split at h
  · cases h
  · split at h
    · cases h
    · cases h
      exact ⟨n.length_connections.symm, congrArg (·, n.datagrams) n.connections_open, rfl⟩

structure Carries (link : Nat) (n : Network) (b : Bytes) (arrived : List Bytes) (m : Network) :
    Prop where
  connections : m.connections = n.connections.modify link (· ++ b)
  datagrams : m.datagrams = n.datagrams ++ arrived
  uplink : m.uplink = n.uplink

namespace Carries

variable {link : Nat} {n m l : Network} {a b : Bytes}

theorem nothing (link : Nat) (n : Network) : Carries link n [] [] n where
  connections := by
    simp only [List.append_nil]
    exact (List.modify_id link n.connections).symm
  datagrams := (List.append_nil _).symm
  uplink := rfl

theorem join (first : Carries link n a [] m) (second : Carries link m b [] l) :
    Carries link n (a ++ b) [] l where
  connections := by
    rw [second.connections, first.connections, List.modify_modify_eq]
    simp only [Function.comp_def, List.append_assoc]
  datagrams := by rw [second.datagrams, first.datagrams, List.append_nil]
  uplink := second.uplink.trans first.uplink

theorem receive (link : Nat) (n : Network) (b : Bytes) (budget : Option Nat) :
    Carries link n b [] { n.receive link b with budget := budget } where
  connections := connections_receive n link b
  datagrams := (List.append_nil _).symm
  uplink := rfl

end Carries

theorem carries_write (link : Nat) (n : Network) (offer : Bytes) :
    Carries link n ((write link n offer).1.share offer) [] (write link n offer).2 := by
  unfold write
  split
  · exact { Carries.nothing link n with }
  · cases hb : n.budget with
    | none => exact { Carries.receive link n _ n.budget with }
    | some left =>
      cases left with
      | zero => exact Carries.nothing link n
      | succ left => exact Carries.receive link n _ _

theorem carries_writeAll (n : Network) (link : Nat) (b : Bytes) :
    Carries link n (n.writeAll link b).taken [] (n.writeAll link b).writer :=
  writeFully_took (write link) (fun n b m => Carries link n b [] m) (Carries.nothing link)
    Carries.join (carries_write link) _ n b

def arrivalsOf (kind : Transport) (b : Bytes) : List Bytes :=
  match kind with
  | .udp => [b]
  | .tcp => []

/-- A send that succeeds carries the line whole, and a send that fails a part of it that is not the
whole line. -/
theorem send_carries (n : Network) (kind : Transport) (link : Nat) {b : Bytes} (text : b ≠ []) :
    ((n.send kind link b).1 = none ∧
        Carries link n b (arrivalsOf kind b) (n.send kind link b).2) ∨
      ∃ fault part rest, (n.send kind link b).1 = some fault ∧ b = part ++ rest ∧ rest ≠ [] ∧
        Carries link n part [] (n.send kind link b).2 := by
  have untouched : Carries link n [] [] n := Carries.nothing link n
  unfold send
  split
  · exact .inr ⟨_, [], b, rfl, rfl, text, untouched⟩
  · exact .inr ⟨_, [], b, rfl, rfl, text, untouched⟩
  · split
    · exact .inr ⟨_, [], b, rfl, rfl, text, { untouched with }⟩
    · cases kind with
      | udp =>
        refine .inl ⟨rfl, connections_receive n link b, ?_, rfl⟩
        exact datagrams_arrive (n.receive link b) b
      | tcp =>
        have carried := carries_writeAll n link b
        obtain ⟨rest, split, whole⟩ : ∃ rest, b = (n.writeAll link b).taken ++ rest ∧
            ((n.writeAll link b).ending = .complete ↔ rest = []) :=
          writeFully_splits (write link) _ n b
        dsimp only
        generalize n.writeAll link b = t at carried split whole
        have short (broken : t.ending ≠ .complete) : rest ≠ [] :=
          fun all => broken (whole.mpr all)
        cases ended : t.ending with
        | complete =>
          have all : b = t.taken := by rw [split, whole.mp ended, List.append_nil]
          exact .inl ⟨rfl, by rw [all]; exact carried⟩
        | failed fault =>
          exact .inr ⟨fault, t.taken, rest, rfl, split, short (by rw [ended]; nofun), carried⟩
        | unfinished =>
          exact .inr ⟨_, t.taken, rest, rfl, split, short (by rw [ended]; nofun), carried⟩

end LogRelay.Network
