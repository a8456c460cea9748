import LogRelay.Config
import Mathlib.Algebra.Group.Nat.Defs

/-!
How exactly a delay doubles. The factor is a power of two for 32 attempts; from then on it is the
largest 32-bit number, which can be told from a power of two only by a schedule whose cap lies
beyond that many floors. Such a schedule never reaches its cap.
-/

namespace LogRelay.Backoff

theorem factor_of_lt {n : Nat} (early : n < 32) : factor n = 2 ^ n := by
  rw [factor, if_pos early, Nat.one_shiftLeft]

theorem factor_of_le {n : Nat} (late : 32 ≤ n) : factor n = maxCount := by
  rw [factor, if_neg (by omega)]

theorem factor_pos (n : Nat) : 0 < factor n := by
  by_cases early : n < 32
  · rw [factor_of_lt early]
    exact Nat.two_pow_pos n
  · rw [factor_of_le (by omega)]
    decide

theorem factor_le (n : Nat) : factor n ≤ maxCount := by
  by_cases early : n < 32
  · have half : 2 ^ n ≤ 2 ^ 31 := Nat.pow_le_pow_right (by decide) (by omega)
    have least : 2 ^ 31 ≤ maxCount := by decide
    rw [factor_of_lt early]
    omega
  · exact Nat.le_of_eq (factor_of_le (by omega))

theorem maxCount_lt_two_pow {n : Nat} (late : 32 ≤ n) : maxCount < 2 ^ n := by
  have first : maxCount < 2 ^ 32 := by decide
  have later : 2 ^ 32 ≤ 2 ^ n := Nat.pow_le_pow_right (by decide) late
  omega

theorem nanos_delay_eq (b : Backoff) (n : Nat) :
    (b.delay n).nanos = max (min (b.floor.nanos * factor n) b.cap.nanos) b.floor.nanos := by
  have within := b.cap.nanos_le_longest
  simp only [delay, Duration.nanos_max, Duration.nanos_min, Duration.nanos_scale]
  omega

theorem nanos_delay {b : Backoff} (ordered : b.floor ≤ b.cap) (n : Nat) :
    (b.delay n).nanos = min (b.floor.nanos * factor n) b.cap.nanos := by
  have grown : b.floor.nanos ≤ b.floor.nanos * factor n :=
    Nat.le_mul_of_pos_right _ (factor_pos n)
  rw [Duration.le_iff] at ordered
  rw [nanos_delay_eq]
  omega

theorem delay_lt_cap {b : Backoff} (ordered : b.floor ≤ b.cap)
    (far : b.floor.nanos * maxCount < b.cap.nanos) (n : Nat) : b.delay n < b.cap := by
  have most : b.floor.nanos * factor n ≤ b.floor.nanos * maxCount :=
    Nat.mul_le_mul_left _ (factor_le n)
  rw [Duration.lt_iff, nanos_delay ordered]
  omega

theorem checkBackoff_eq_ok {quantity : Quantity} {b : Backoff} :
    Builder.checkBackoff quantity (some b) = .ok () ↔ 0 < b.floor.nanos ∧ b.floor ≤ b.cap := by
  rw [Builder.checkBackoff]
  split
  · next zero => simp [zero]
  · next positive =>
    split
    · next above =>
      simp only [gt_iff_lt, Duration.lt_iff] at above
      simp only [reduceCtorEq, Duration.le_iff, false_iff]
      omega
    · next below =>
      simp only [gt_iff_lt, Duration.lt_iff] at below
      simp only [Duration.le_iff, true_iff]
      omega

/-- A schedule doubles exactly for 32 attempts, and for ever if its cap lies within reach of the
largest factor. If it does not, the cap is never reached. -/
structure Doubles (b : Backoff) : Prop where
  exact : ∀ n, (b.delay n).nanos = min (b.floor.nanos * 2 ^ n) b.cap.nanos ↔
    n < 32 ∨ b.cap.nanos ≤ b.floor.nanos * maxCount
  settled : ∀ n, 32 ≤ n → (b.delay n).nanos = min (b.floor.nanos * maxCount) b.cap.nanos
  reaches : b.cap.nanos ≤ b.floor.nanos * maxCount → ∀ n, 32 ≤ n → b.delay n = b.cap
  falls : b.floor.nanos * maxCount < b.cap.nanos → ∀ n, b.delay n < b.cap

theorem delay_doubles {quantity : Quantity} {b : Backoff}
    (accepted : Builder.checkBackoff quantity (some b) = .ok ()) : b.Doubles := by
  obtain ⟨positive, ordered⟩ := checkBackoff_eq_ok.mp accepted
  have settled (n : Nat) (late : 32 ≤ n) :
      (b.delay n).nanos = min (b.floor.nanos * maxCount) b.cap.nanos := by
    rw [nanos_delay ordered, factor_of_le late]
  refine ⟨fun n => ?_, settled, fun near n late => ?_, delay_lt_cap ordered⟩
  · by_cases early : n < 32
    · rw [nanos_delay ordered, factor_of_lt early]
      exact iff_of_true rfl (.inl early)
    · have late : 32 ≤ n := by omega
      have more : b.floor.nanos * maxCount < b.floor.nanos * 2 ^ n :=
        Nat.mul_lt_mul_of_pos_left (maxCount_lt_two_pow late) positive
      rw [settled n late]
      omega
  · apply Duration.ext_nanos
    rw [settled n late]
    exact Nat.min_eq_right near

theorem delay_doubles_of_longest :
    let b : Backoff := ⟨.ofNanos 1, .longest⟩
    Builder.checkBackoff .connectFloor (some b) = .ok () ∧ b.Doubles :=
  ⟨rfl, @delay_doubles .connectFloor _ rfl⟩

/-- From a nanosecond to ten seconds the 33rd delay is a nanosecond too short, and no delay is as
long as the cap. -/
theorem delay_not_doubled :
    let b : Backoff := ⟨.ofNanos 1, .ofSecs 10⟩
    Builder.checkBackoff .connectFloor (some b) = .ok () ∧
      min (b.floor.nanos * 2 ^ 32) b.cap.nanos = 4294967296 ∧
      (b.delay 32).nanos = 4294967295 ∧ ∀ n, b.delay n < b.cap := by
  refine ⟨rfl, by decide, by decide, fun n => ?_⟩
  exact delay_lt_cap (by decide) (by decide) n

end LogRelay.Backoff
