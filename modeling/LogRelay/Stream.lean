import LogRelay.Fault
import LogRelay.Text.Utf8

/-!
Sending a line over something that takes octets a few at a time. Writing goes on from where the
last call stopped until everything is taken or a call fails.
-/

namespace LogRelay

inductive Reply where
  | accepted (count : Nat)
  | interrupted
  | failed (fault : Fault)
deriving DecidableEq

/-- A transfer is unfinished if the calls allowed were used up. -/
inductive Ending where
  | complete
  | failed (fault : Fault)
  | unfinished
deriving DecidableEq

structure Transfer (σ : Type) where
  ending : Ending
  taken : Bytes
  replies : List Reply
  writer : σ

namespace Transfer

variable {σ : Type}

def calls (t : Transfer σ) : Nat :=
  t.replies.length

def after (t : Transfer σ) (reply : Reply) (b : Bytes) : Transfer σ :=
  { t with taken := b ++ t.taken, replies := reply :: t.replies }

end Transfer

/-- Offers the rest again and again, in at most `fuel` calls. An offer of which nothing is taken
means that the peer is gone. -/
def writeFully {σ : Type} (write : σ → Bytes → Reply × σ) : Nat → σ → Bytes → Transfer σ
  | _, s, [] => ⟨.complete, [], [], s⟩
  | 0, s, _ :: _ => ⟨.unfinished, [], [], s⟩
  | fuel + 1, s, b :: rest =>
    match write s (b :: rest) with
    | (.accepted 0, s) => ⟨.failed .peerClosed, [], [.accepted 0], s⟩
    | (.accepted (n + 1), s) =>
      (writeFully write fuel s ((b :: rest).drop (n + 1))).after (.accepted (n + 1))
        ((b :: rest).take (n + 1))
    | (.interrupted, s) => (writeFully write fuel s (b :: rest)).after .interrupted []
    | (.failed fault, s) => ⟨.failed fault, [], [.failed fault], s⟩

/-- A writer that answers as listed; the last answer repeats, and without answers it takes every
offer whole. -/
def scriptedWrite (replies : List Reply) (offer : Bytes) : Reply × List Reply :=
  match replies with
  | [] => (.accepted offer.length, [])
  | reply :: rest =>
    let reply := match reply with
      | .accepted n => .accepted (offer.take n).length
      | other => other
    (reply, if rest.isEmpty then replies else rest)

def checkDatagram (sent expected : Nat) : Option Fault :=
  if sent = expected then none else some (.shortDatagram sent expected)

end LogRelay
