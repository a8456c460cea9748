import Mathlib.Data.List.Induction
import Mathlib.Data.List.TakeWhile
import LogRelay.Proofs.Delays

/-!
A schedule of delays that is used again and again. How often it was asked for a delay since it last
started tells where it stands: the delays begin at the floor, do not fall until it starts again, and
never pass the cap, unless the floor lies above it.
-/

namespace LogRelay

namespace Backoff

theorem factor_mono {m n : Nat} (le : m ≤ n) : factor m ≤ factor n := by
  by_cases early : n < 32
  · rw [factor_of_lt early, factor_of_lt (Nat.lt_of_le_of_lt le early)]
    exact Nat.pow_le_pow_right (by decide) le
  · rw [factor_of_le (Nat.le_of_not_lt early)]
    exact factor_le m

theorem delay_mono (b : Backoff) {m n : Nat} (le : m ≤ n) : b.delay m ≤ b.delay n := by
  have grown : b.floor.nanos * factor m ≤ b.floor.nanos * factor n :=
    Nat.mul_le_mul_left _ (factor_mono le)
  rw [Duration.le_iff, nanos_delay_eq, nanos_delay_eq]
  omega

theorem delay_zero (b : Backoff) : b.delay 0 = b.floor := by
  apply Duration.ext_nanos
  rw [nanos_delay_eq, factor_of_lt (by decide), Nat.pow_zero, Nat.mul_one]
  omega

theorem floor_le_delay (b : Backoff) (n : Nat) : b.floor ≤ b.delay n := by
  rw [Duration.le_iff, nanos_delay_eq]
  exact Nat.le_max_right _ _

theorem delay_le_max (b : Backoff) (n : Nat) : b.delay n ≤ max b.floor b.cap := by
  rw [Duration.le_iff, nanos_delay_eq, Duration.nanos_max]
  omega

end Backoff

namespace Retry

inductive Use where
  | next
  | current
  | reset
deriving DecidableEq

inductive Answer where
  | given (d : Duration)
  | announced (d : Duration)
  | restarted
deriving DecidableEq

namespace Answer

def use : Answer → Use
  | given _ => .next
  | announced _ => .current
  | restarted => .reset

def delay? : Answer → Option Duration
  | given d | announced d => some d
  | restarted => none

/-- How many delays were given since the schedule last started. -/
def retries (answers : List Answer) : Nat :=
  (answers.reverse.takeWhile (· ≠ restarted)).countP (·.use = .next)

@[simp] theorem retries_given (h : List Answer) (d : Duration) :
    retries (h ++ [given d]) = retries h + 1 := by
  simp [retries, use]

@[simp] theorem retries_announced (h : List Answer) (d : Duration) :
    retries (h ++ [announced d]) = retries h := by
  simp [retries, use]

@[simp] theorem retries_restarted (h : List Answer) : retries (h ++ [restarted]) = 0 := by
  simp [retries]

theorem retries_restarted_append (h s : List Answer) :
    retries (h ++ restarted :: s) = retries s := by
  -- Answers come in at the end, so that is where the induction takes them off.
  induction s using List.reverseRecOn with
  | nil => exact retries_restarted h
  | append_singleton s a ih =>
    rw [← List.cons_append, ← List.append_assoc]
    cases a with
    | given d => rw [retries_given, retries_given, ih]
    | announced d => rw [retries_announced, retries_announced, ih]
    | restarted => rw [retries_restarted, retries_restarted]

theorem retries_append (h : List Answer) {s : List Answer} (going : restarted ∉ s) :
    retries (h ++ s) = retries h + retries s := by
  have all : ∀ a ∈ s.reverse, decide (a ≠ restarted) = true := by
    intro a mem
    exact decide_eq_true fun same => going (same ▸ List.mem_reverse.mp mem)
  rw [retries, retries, retries, List.reverse_append, List.takeWhile_append_of_pos all,
    List.takeWhile_eq_self_iff.mpr all, List.countP_append, Nat.add_comm]

theorem retries_eq_zero {s : List Answer} (none : ∀ a ∈ s, a.use ≠ .next) : retries s = 0 := by
  rw [retries, List.countP_eq_zero]
  intro a mem
  have here : a ∈ s := List.mem_reverse.mp ((List.takeWhile_prefix _).mem mem)
  simpa using none a here

theorem retries_append_of_idle (h : List Answer) {s : List Answer}
    (idle : ∀ a ∈ s, a.use = .current) : retries (h ++ s) = retries h := by
  have going : restarted ∉ s := fun mem => nomatch idle _ mem
  have none : ∀ a ∈ s, a.use ≠ .next := by
    intro a mem
    rw [idle a mem]
    decide
  rw [retries_append h going, retries_eq_zero none, Nat.add_zero]

end Answer

open Answer

def operate (r : Retry) : Use → Answer × Retry
  | .next => (.given r.next.1, r.next.2)
  | .current => (.announced r.current, r)
  | .reset => (.restarted, r.reset)

def operateAll : Retry → List Use → List Answer × Retry
  | r, [] => ([], r)
  | r, u :: rest =>
    let (answer, after) := r.operate u
    let (later, last) := operateAll after rest
    (answer :: later, last)

/-- The schedule of which the answers tell. -/
def standing (b : Backoff) (answers : List Answer) : Retry :=
  ⟨b, min (retries answers) Backoff.maxCount⟩

theorem use_operate (r : Retry) (u : Use) : (r.operate u).1.use = u := by
  cases u <;> rfl

theorem operate_standing (b : Backoff) (h : List Answer) (u : Use) :
    ((standing b h).operate u).2 = standing b (h ++ [((standing b h).operate u).1]) := by
  cases u with
  | next =>
    have onward := Backoff.count_min (retries h)
    simp only [operate, next, advance, standing, retries_given, onward]
  | current => simp only [operate, standing, retries_announced]
  | reset => simp only [operate, reset, standing, retries_restarted, Nat.zero_min]

theorem operateAll_standing (b : Backoff) (h : List Answer) (uses : List Use) :
    ((standing b h).operateAll uses).2 =
      standing b (h ++ ((standing b h).operateAll uses).1) := by
  -- What was answered so far moves into `h`, and the count of the rest goes on from there.
  induction uses generalizing h with
  | nil => exact congrArg (standing b) (List.append_nil h).symm
  | cons u rest ih =>
    have onward := operate_standing b h u
    have later := ih (h ++ [((standing b h).operate u).1])
    rw [← onward, List.append_assoc] at later
    exact later

theorem operateAll_uses (r : Retry) (uses : List Use) :
    (r.operateAll uses).1.map Answer.use = uses := by
  induction uses generalizing r with
  | nil => rfl
  | cons u rest ih => exact congrArg₂ List.cons (r.use_operate u) (ih _)

/-- Each answer comes from where the answers before it left the schedule. -/
theorem operateAll_splits {r : Retry} {uses : List Use} {before later : List Answer} {a : Answer}
    (split : (r.operateAll uses).1 = before ++ a :: later) :
    ∃ first, (r.operateAll first).1 = before ∧ ((r.operateAll first).2.operate a.use).1 = a := by
  induction before generalizing r uses with
  | nil =>
    cases uses with
    | nil => cases split
    | cons u rest =>
      have here : (r.operate u).1 = a := (List.cons.inj split).1
      refine ⟨[], rfl, ?_⟩
      rw [← here, use_operate]
      rfl
  | cons c before ih =>
    cases uses with
    | nil => cases split
    | cons u rest =>
      obtain ⟨here, there⟩ := List.cons.inj split
      obtain ⟨first, answers, answer⟩ := ih there
      exact ⟨u :: first, congrArg₂ List.cons here answers, answer⟩

theorem operateAll_filter (r : Retry) (uses : List Use) :
    r.operateAll (uses.filter (· ≠ .current)) =
      ((r.operateAll uses).1.filter (·.use ≠ .current), (r.operateAll uses).2) := by
  induction uses generalizing r with
  | nil => rfl
  | cons u rest ih =>
    cases u with
    | next => exact congrArg (Prod.map (List.cons _) id) (ih r.next.2)
    | current => exact ih r
    | reset => exact congrArg (Prod.map (List.cons _) id) (ih r.reset)

section

variable {b : Backoff} {uses : List Use} {before between later : List Answer} {a : Answer}
  {d e : Duration}

theorem answer_of_split (split : ((fresh b).operateAll uses).1 = before ++ a :: later) :
    a = ((standing b before).operate a.use).1 := by
  obtain ⟨first, answers, answer⟩ := operateAll_splits split
  have stands : ((fresh b).operateAll first).2 = standing b ((fresh b).operateAll first).1 :=
    operateAll_standing b [] first
  rw [stands, answers] at answer
  exact answer.symm

theorem delay_of_split (split : ((fresh b).operateAll uses).1 = before ++ a :: later)
    (told : a.delay? = some d) : d = b.delay (min (retries before) Backoff.maxCount) := by
  have answer := answer_of_split split
  cases a with
  | given c =>
    cases told
    exact Answer.given.inj answer
  | announced c =>
    cases told
    exact Answer.announced.inj answer
  | restarted => cases told

theorem delays_of_split
    (split : ((fresh b).operateAll uses).1 = before ++ a :: between ++ .given e :: later)
    (told : a.delay? = some d) :
    d = b.delay (min (retries before) Backoff.maxCount) ∧
      e = b.delay (min (retries (before ++ a :: between)) Backoff.maxCount) := by
  have second := delay_of_split split rfl
  rw [List.append_assoc] at split
  exact ⟨delay_of_split split told, second⟩

end

/-- The answers to every way of using one schedule. -/
structure Steady (b : Backoff) (uses : List Use) (answers : List Answer) (last : Retry) : Prop where
  answered : answers.map Answer.use = uses
  stands : last = standing b answers
  within : ∀ a ∈ answers, ∀ d ∈ a.delay?, b.floor ≤ d ∧ d ≤ max b.floor b.cap
  numbered : ∀ (before later : List Answer) (d : Duration),
    answers = before ++ .given d :: later →
      d = b.delay (min (retries before) Backoff.maxCount)
  rising : ∀ (before between later : List Answer) (d e : Duration),
    answers = before ++ .given d :: between ++ .given e :: later →
      .restarted ∉ between → d ≤ e
  announced : ∀ (before between later : List Answer) (d e : Duration),
    answers = before ++ .announced d :: between ++ .given e :: later →
      (∀ a ∈ between, a.use = .current) → d = e
  unmoved : (fresh b).operateAll (uses.filter (· ≠ .current)) =
    (answers.filter (·.use ≠ .current), last)
  first : ∀ (before between later : List Answer) (d : Duration),
    answers = before ++ .restarted :: between ++ .given d :: later →
      (∀ a ∈ between, a.use ≠ .next) → d = b.floor

theorem operateAll_steady (b : Backoff) (uses : List Use) :
    Steady b uses ((fresh b).operateAll uses).1 ((fresh b).operateAll uses).2 where
  answered := operateAll_uses _ _
  stands := operateAll_standing b [] uses
  within := by
    intro a mem d told
    obtain ⟨before, later, split⟩ := List.append_of_mem mem
    rw [delay_of_split split told]
    exact ⟨b.floor_le_delay _, b.delay_le_max _⟩
  numbered := fun before later d split => delay_of_split split rfl
  rising := by
    intro before between later d e split going
    obtain ⟨first, second⟩ := delays_of_split split rfl
    have counted : retries before ≤ retries (before ++ .given d :: between) := by
      rw [retries_append before (by simpa using going)]
      exact Nat.le_add_right _ _
    calc d = b.delay (min (retries before) Backoff.maxCount) := first
      _ ≤ b.delay (min (retries (before ++ .given d :: between)) Backoff.maxCount) :=
        b.delay_mono (by omega)
      _ = e := second.symm
  announced := by
    intro before between later d e split idle
    obtain ⟨first, second⟩ := delays_of_split split rfl
    have counted : retries (before ++ .announced d :: between) = retries before :=
      retries_append_of_idle before (List.forall_mem_cons.mpr ⟨rfl, idle⟩)
    rw [counted] at second
    exact first.trans second.symm
  unmoved := operateAll_filter _ _
  first := by
    intro before between later d split none
    rw [delay_of_split split rfl, retries_restarted_append, retries_eq_zero none, Nat.zero_min]
    exact b.delay_zero

example : ((fresh .connecting).operateAll [.next, .next, .current, .reset, .next]).1 =
    [.given (.ofMillis 250), .given (.ofMillis 500), .announced (.ofMillis 1000), .restarted,
      .given (.ofMillis 250)] := by decide

end Retry

end LogRelay
