import LogRelay.Duration

/-!
Delays between retries. The delay starts at a floor and doubles with every attempt up to a cap;
a success brings it back to the floor.
-/

namespace LogRelay

structure Backoff where
  floor : Duration
  cap : Duration
deriving DecidableEq

namespace Backoff

/-- The largest number that counts attempts and failures; counting stops there. -/
def maxCount : Nat := UInt32.size - 1

def count (n : Nat) : Nat :=
  min (n + 1) maxCount

theorem count_min (n : Nat) : count (min n maxCount) = min (n + 1) maxCount := by
  simp only [count]
  omega

def connecting : Backoff :=
  ⟨Duration.ofMillis 250, Duration.ofMillis 5000⟩

def sending : Backoff :=
  ⟨Duration.ofMillis 50, Duration.ofMillis 2000⟩

/-- The factor doubles for 32 attempts and then stays at the largest 32-bit number. -/
def factor (attempt : Nat) : Nat :=
  if attempt < 32 then 1 <<< attempt else maxCount

/-- The delay before a retry, counted from zero. The floor wins over a lower cap. -/
def delay (b : Backoff) (attempt : Nat) : Duration :=
  max (min (b.floor.scale (factor attempt)) b.cap) b.floor

end Backoff

/-- A schedule of delays and the attempt at which it stands. -/
structure Retry where
  backoff : Backoff
  attempt : Nat
deriving DecidableEq

namespace Retry

def fresh (b : Backoff) : Retry :=
  ⟨b, 0⟩

def current (r : Retry) : Duration :=
  r.backoff.delay r.attempt

def advance (r : Retry) : Retry :=
  { r with attempt := Backoff.count r.attempt }

def next (r : Retry) : Duration × Retry :=
  (r.current, r.advance)

def reset (r : Retry) : Retry :=
  { r with attempt := 0 }

def take : Nat → Retry → List Duration × Retry
  | 0, r => ([], r)
  | n + 1, r =>
    let (rest, last) := take n r.advance
    (r.current :: rest, last)

end Retry

end LogRelay
