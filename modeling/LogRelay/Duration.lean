/-!
Spans of time counted in nanoseconds, up to the longest one that 64 bits of seconds can hold.
Multiplication stops at that longest span instead of passing it.
-/

namespace LogRelay

namespace Duration

def second : Nat := 1000000000

def millisecond : Nat := 1000000

def microsecond : Nat := 1000

end Duration

structure Duration where
  nanos : Nat
  inRange : nanos < UInt64.size * Duration.second
deriving DecidableEq

namespace Duration

def longest : Duration :=
  ⟨UInt64.size * second - 1, by decide⟩

/-- The span of that many nanoseconds, or the longest span if there are too many. -/
def ofNanos (n : Nat) : Duration :=
  if h : n < UInt64.size * second then ⟨n, h⟩ else longest

def ofMillis (n : Nat) : Duration :=
  ofNanos (n * millisecond)

def ofSecs (n : Nat) : Duration :=
  ofNanos (n * second)

instance : LE Duration := ⟨fun a b => a.nanos ≤ b.nanos⟩

instance : LT Duration := ⟨fun a b => a.nanos < b.nanos⟩

instance (a b : Duration) : Decidable (a ≤ b) := inferInstanceAs (Decidable (a.nanos ≤ b.nanos))

instance (a b : Duration) : Decidable (a < b) := inferInstanceAs (Decidable (a.nanos < b.nanos))

instance : Min Duration := ⟨fun a b => if a ≤ b then a else b⟩

instance : Max Duration := ⟨fun a b => if a ≤ b then b else a⟩

def scale (d : Duration) (k : Nat) : Duration :=
  ofNanos (d.nanos * k)

def secs (d : Duration) : Nat :=
  d.nanos / second

def subsecNanos (d : Duration) : Nat :=
  d.nanos % second

def millis (d : Duration) : Nat :=
  d.nanos / millisecond

/-- The clock counts nanoseconds up to the end of its 63 bits of seconds. -/
def clockEnd : Nat :=
  UInt64.size / 2 * second

/-- Whether the deadline of a wait that begins at `now` lies past the end of the clock. -/
def overruns (timeout : Duration) (now : Nat) : Bool :=
  clockEnd ≤ now + timeout.nanos

/-- A numerator over a power of ten as decimal places, without zeros at the end. -/
def fraction (places numerator : Nat) : String :=
  let digits := (Nat.toDigits 10 numerator).leftpad places '0'
  let kept := (digits.reverse.dropWhile (· == '0')).reverse
  if kept.isEmpty then "" else "." ++ String.ofList kept

/-- Exact decimal text in the largest unit of which there is at least one. -/
def text (d : Duration) : String :=
  let n := d.nanos
  if n ≥ second then toString (n / second) ++ fraction 9 (n % second) ++ "s"
  else if n ≥ millisecond then toString (n / millisecond) ++ fraction 6 (n % millisecond) ++ "ms"
  else if n ≥ microsecond then toString (n / microsecond) ++ fraction 3 (n % microsecond) ++ "µs"
  else toString n ++ "ns"

@[simp] theorem le_iff {a b : Duration} : a ≤ b ↔ a.nanos ≤ b.nanos := Iff.rfl

@[simp] theorem lt_iff {a b : Duration} : a < b ↔ a.nanos < b.nanos := Iff.rfl

theorem ext_nanos {a b : Duration} (h : a.nanos = b.nanos) : a = b := by
  cases a; cases b; simp_all

theorem nanos_ofNanos (n : Nat) : (ofNanos n).nanos = min n longest.nanos := by
  unfold ofNanos
  split <;> simp only [longest] <;> omega

@[simp] theorem nanos_scale (d : Duration) (k : Nat) :
    (d.scale k).nanos = min (d.nanos * k) longest.nanos :=
  nanos_ofNanos _

@[simp] theorem nanos_min (a b : Duration) : (min a b).nanos = min a.nanos b.nanos := by
  simp only [min, le_iff]
  split <;> simp_all

@[simp] theorem nanos_max (a b : Duration) : (max a b).nanos = max a.nanos b.nanos := by
  simp only [max, le_iff]
  split <;> simp_all

theorem nanos_le_longest (d : Duration) : d.nanos ≤ longest.nanos := by
  have := d.inRange
  simp only [longest]
  omega

end Duration

end LogRelay
