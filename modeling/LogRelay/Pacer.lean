import LogRelay.Duration
import LogRelay.Network

/-!
How a worker passes time. Each sleep moves the worker's clock on, by a time that depends on the
tempo, and a worker whose clock has reached its limit goes no further. What the network does
meanwhile comes with the sleeps.
-/

namespace LogRelay

/-- What a sleep takes of the time on the clock: one for each sleep, at most a millisecond, or all
of it. -/
inductive Tempo where
  | counted
  | brisk
  | full
deriving DecidableEq

namespace Tempo

/-- A thread wakes up a twentieth of a millisecond late. -/
def slack : Nat :=
  50 * Duration.microsecond

def time (t : Tempo) (d : Duration) : Nat :=
  match t with
  | counted => 1
  | brisk => min d.nanos Duration.millisecond + slack
  | full => d.nanos + slack

theorem time_pos (t : Tempo) (d : Duration) : 0 < t.time d := by
  have : 0 < slack := by decide
  cases t <;> simp only [time] <;> omega

end Tempo

/-- The changes ahead are those of the network right after each of the coming sleeps. A worker stops
in the middle of the sleep that reaches the limit. -/
structure Pacer where
  sleeps : List Duration
  yields : Nat
  ahead : List (List NetChange)
  tempo : Tempo
  clock : Nat
  limit : Option Nat

namespace Pacer

def startingAt (clock : Nat) (tempo : Tempo) : Pacer :=
  ⟨[], 0, [], tempo, clock, none⟩

def limited (limit : Nat) (changes : List (Nat × List NetChange)) : Pacer :=
  { startingAt 0 .counted with
    ahead := (List.range limit).map fun i =>
      (changes.filter (·.1 == i + 1)).flatMap (·.2)
    limit := some limit }

/-- The same pacer from `now` on, up to its first sleep. -/
def untilSleep (p : Pacer) (now : Nat) : Pacer :=
  let clock := max p.clock now
  { p with clock := clock, limit := some (clock + 1) }

def sleep (p : Pacer) (d : Duration) : Pacer :=
  { p with
    sleeps := p.sleeps ++ [d]
    ahead := p.ahead.tail
    clock := p.clock + p.tempo.time d }

def ended (p : Pacer) : Bool :=
  match p.limit with
  | some limit => limit ≤ p.clock
  | none => false

def remaining (p : Pacer) : Nat :=
  match p.limit with
  | some limit => limit - p.clock
  | none => 0

theorem remaining_sleep_lt {p : Pacer} {d : Duration} (limited : p.limit.isSome = true)
    (going : (p.sleep d).ended = false) : (p.sleep d).remaining < p.remaining := by
  have step := p.tempo.time_pos d
  cases h : p.limit with
  | none => rw [h] at limited; cases limited
  | some limit =>
    simp only [ended, sleep, h, decide_eq_false_iff_not] at going
    simp only [remaining, sleep, h]
    omega

theorem remaining_sleep_le (p : Pacer) (d : Duration) : (p.sleep d).remaining ≤ p.remaining := by
  simp only [remaining, sleep]
  split <;> omega

/-- The coming sleeps that change the network, and the refusals that come with them. -/
def foretold (p : Pacer) : Nat :=
  p.ahead.foldr (fun cs n => NetChange.refused cs + 1 + n) 0

theorem foretold_sleep_lt {p : Pacer} {cs : List NetChange} {rest : List (List NetChange)}
    (h : p.ahead = cs :: rest) (d : Duration) (n : Network) :
    (p.sleep d).foretold + (n.changeAll cs).refusals < p.foretold + n.refusals := by
  have brought := n.refusals_changeAll_le cs
  simp only [foretold, sleep, h, List.tail_cons, List.foldr_cons]
  omega

end Pacer

end LogRelay
