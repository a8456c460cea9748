import Mathlib.Data.List.Chain
import Mathlib.Data.Nat.ModEq
import LogRelay.DropReport

/-!
What becomes of drops that were counted. Each of them is told once or still in the tally, up to
whole rounds of the 64-bit tally, and two reports are never closer than the interval. A reporter
that follows a counter which does not go back tells neither more nor less than it saw.
-/

namespace LogRelay

structure Report where
  reading : Nat
  count : UInt64
deriving DecidableEq

/-- Readings of a clock that does not go back. The last number of 64 bits is never read. -/
structure Clocked (readings : List Nat) : Prop where
  ordered : readings.Pairwise (· ≤ ·)
  inRange : ∀ t ∈ readings, t < UInt64.size - 1

theorem Clocked.of_append {first second : List Nat} (clocked : Clocked (first ++ second)) :
    Clocked first where
  ordered := (List.pairwise_append.mp clocked.ordered).1
  inRange t ht := clocked.inRange t (List.mem_append_left second ht)

namespace Warner

inductive Event where
  | record (drops : UInt64)
  | warn (now : Nat)
deriving DecidableEq

namespace Event

def drops : Event → Nat
  | record n => n.toNat
  | warn _ => 0

def readings : Event → List Nat
  | record _ => []
  | warn now => [now]

end Event

def operate (w : Warner) : Event → List Report × Warner
  | .record drops => ([], w.record drops)
  | .warn now => ((w.warn now).1.toList.map (⟨now, ·⟩), (w.warn now).2)

def operateAll : Warner → List Event → List Report × Warner
  | w, [] => ([], w)
  | w, e :: rest =>
    let (now, after) := w.operate e
    let (later, last) := operateAll after rest
    (now ++ later, last)

def recorded (events : List Event) : Nat :=
  (events.map Event.drops).sum

def readings (events : List Event) : List Nat :=
  events.flatMap Event.readings

def told (reports : List Report) : Nat :=
  (reports.map (·.count.toNat)).sum

@[simp] theorem recorded_append (first second : List Event) :
    recorded (first ++ second) = recorded first + recorded second := by
  simp [recorded]

@[simp] theorem readings_append (first second : List Event) :
    readings (first ++ second) = readings first ++ readings second := by
  simp [readings]

def Due (interval : Duration) (reports : List Report) (now : Nat) : Prop :=
  ∀ r ∈ reports.getLast?, r.reading + interval.millis ≤ now

structure Account (interval : Duration) (events : List Event) (reports : List Report)
    (w : Warner) : Prop where
  conserved : told reports + w.tally.toNat ≡ recorded events [MOD UInt64.size]
  atMost : told reports + w.tally.toNat ≤ recorded events
  positive : ∀ r ∈ reports, 0 < r.count
  apart : reports.IsChain fun r s => r.reading + interval.millis ≤ s.reading
  read : ∀ r ∈ reports, r.reading ∈ readings events
  interval : w.interval = min interval.millis (UInt64.size - 1)
  last : w.last = reports.getLast?.map (·.reading)

theorem account_create (interval : Duration) : Account interval [] [] (create interval) where
  conserved := rfl
  atMost := Nat.le_refl 0
  positive := by simp
  apart := .nil
  read := by simp
  interval := rfl
  last := rfl

theorem warn_of_tally_eq_zero {w : Warner} (empty : w.tally = 0) (now : Nat) :
    w.warn now = (none, w) := by
  simp [warn, empty]

namespace Account

variable {interval : Duration} {events : List Event} {reports : List Report} {w : Warner}

theorem exact_of_lt (account : Account interval events reports w)
    (small : recorded events < UInt64.size) :
    told reports + w.tally.toNat = recorded events :=
  account.conserved.eq_of_lt_of_lt (Nat.lt_of_le_of_lt account.atMost small) small

theorem record (account : Account interval events reports w) (drops : UInt64) :
    Account interval (events ++ [.record drops]) reports (w.record drops) where
  conserved := by
    have wrapped : (w.tally + drops).toNat ≡ w.tally.toNat + drops.toNat [MOD UInt64.size] := by
      rw [UInt64.toNat_add]
      exact Nat.mod_modEq _ _
    calc told reports + (w.record drops).tally.toNat
      _ ≡ told reports + (w.tally.toNat + drops.toNat) [MOD UInt64.size] :=
          wrapped.add_left (told reports)
      _ = told reports + w.tally.toNat + drops.toNat := (Nat.add_assoc _ _ _).symm
      _ ≡ recorded events + drops.toNat [MOD UInt64.size] :=
          account.conserved.add_right drops.toNat
      _ = recorded (events ++ [.record drops]) := by simp [recorded, Event.drops]
  atMost := by
    have before := account.atMost
    have wrapped := Nat.mod_le (w.tally.toNat + drops.toNat) (2 ^ 64)
    simp only [Warner.record, UInt64.toNat_add, recorded_append]
    simp only [recorded, Event.drops, List.map_cons, List.map_nil, List.sum_cons, List.sum_nil]
      at before ⊢
    omega
  positive := account.positive
  apart := account.apart
  read := by simpa [readings, Event.readings] using account.read
  interval := account.interval
  last := account.last

theorem skip (account : Account interval events reports w) (now : Nat) :
    Account interval (events ++ [.warn now]) reports w where
  conserved := by simpa [recorded, Event.drops] using account.conserved
  atMost := by simpa [recorded, Event.drops] using account.atMost
  positive := account.positive
  apart := account.apart
  read r hr := by simp [account.read r hr]
  interval := account.interval
  last := account.last

theorem tell (account : Account interval events reports w) {now : Nat} (pending : w.tally ≠ 0)
    (due : Due interval reports now) :
    Account interval (events ++ [.warn now]) (reports ++ [⟨now, w.tally⟩])
      { w with tally := 0, last := some now } where
  conserved := by simpa [told, recorded, Event.drops] using account.conserved
  atMost := by simpa [told, recorded, Event.drops] using account.atMost
  positive := by
    simp only [List.mem_append, List.mem_singleton]
    rintro r (before | rfl)
    · exact account.positive r before
    · exact UInt64.pos_iff_ne_zero.mpr pending
  apart := by
    refine account.apart.append (.singleton _) ?_
    simpa [Due] using due
  read := by
    simp only [List.mem_append, List.mem_singleton]
    rintro r (before | rfl)
    · simp [account.read r before]
    · simp [readings, Event.readings]
  interval := account.interval
  last := by simp

section

variable {now : Nat} (clocked : Clocked (readings events ++ [now]))

include clocked

theorem due_iff (account : Account interval events reports w) :
    w.due now = true ↔ Due interval reports now := by
  simp only [Warner.due, account.last, Due]
  cases last : reports.getLast? with
  | none => simp
  | some r =>
    have ordered : r.reading ≤ now :=
      (List.pairwise_append.mp clocked.ordered).2.2 _
        (account.read r (List.mem_of_getLast? last)) now (List.mem_singleton_self now)
    have inRange := clocked.inRange now (by simp)
    simp only [Option.map_some, account.interval, ge_iff_le, decide_eq_true_eq, Option.mem_def,
      Option.some.injEq, forall_eq']
    omega

theorem warn_of_due (account : Account interval events reports w) (pending : w.tally ≠ 0)
    (due : Due interval reports now) :
    w.warn now = (some w.tally, { w with tally := 0, last := some now }) := by
  simp [Warner.warn, (account.due_iff clocked).mpr due, pending]

theorem warn_of_early (account : Account interval events reports w)
    (early : ¬ Due interval reports now) : w.warn now = (none, w) := by
  have : w.due now = false := by
    rwa [← Bool.not_eq_true, account.due_iff clocked]
  simp [Warner.warn, this]

theorem warn (account : Account interval events reports w) :
    Account interval (events ++ [.warn now]) (reports ++ (w.operate (.warn now)).1)
      (w.operate (.warn now)).2 := by
  rw [Warner.operate]
  by_cases empty : w.tally = 0
  · simpa [warn_of_tally_eq_zero empty] using account.skip now
  · by_cases due : Due interval reports now
    · simpa [account.warn_of_due clocked empty due] using account.tell empty due
    · simpa [account.warn_of_early clocked due] using account.skip now

end

theorem operate (account : Account interval events reports w) (e : Event)
    (clocked : Clocked (readings (events ++ [e]))) :
    Account interval (events ++ [e]) (reports ++ (w.operate e).1) (w.operate e).2 := by
  cases e with
  | record drops => simpa [Warner.operate] using account.record drops
  | warn now => exact account.warn (by simpa [readings, Event.readings] using clocked)

theorem operateAll (account : Account interval events reports w) (later : List Event)
    (clocked : Clocked (readings (events ++ later))) :
    Account interval (events ++ later) (reports ++ (w.operateAll later).1)
      (w.operateAll later).2 := by
  induction later generalizing events reports w with
  | nil => simpa [Warner.operateAll] using account
  | cons e rest ih =>
    rw [List.append_cons] at clocked
    have here : Clocked (readings (events ++ [e])) := by
      rw [readings_append] at clocked
      exact clocked.of_append
    have next := ih (account.operate e here) clocked
    simpa [Warner.operateAll] using next

end Account

/-- The reports of a run against the drops it was told of, modulo the width of the tally. -/
structure Reports (interval : Duration) (events : List Event) (reports : List Report)
    (w : Warner) : Prop where
  conserved : told reports + w.tally.toNat ≡ recorded events [MOD UInt64.size]
  positive : ∀ r ∈ reports, 0 < r.count
  apart : reports.IsChain fun r s => r.reading + interval.millis ≤ s.reading
  whole : ∀ now, Clocked (readings events ++ [now]) → Due interval reports now → w.tally ≠ 0 →
    w.warn now = (some w.tally, { w with tally := 0, last := some now })
  early : ∀ now, Clocked (readings events ++ [now]) → ¬ Due interval reports now →
    w.warn now = (none, w)
  silent : ∀ now, w.tally = 0 → w.warn now = (none, w)
  prompt : ∀ now, reports = [] → w.tally ≠ 0 → (w.warn now).1 = some w.tally

theorem Account.reports {interval : Duration} {events : List Event} {reports : List Report}
    {w : Warner} (account : Account interval events reports w) :
    Reports interval events reports w where
  conserved := account.conserved
  positive := account.positive
  apart := account.apart
  whole _ clocked due pending := account.warn_of_due clocked pending due
  early _ clocked early := account.warn_of_early clocked early
  silent now empty := warn_of_tally_eq_zero empty now
  prompt now none pending := by
    have last := account.last
    rw [none] at last
    have due : w.due now = true := by simp [Warner.due, last]
    simp [Warner.warn, due, pending]

end Warner

namespace DropReporter

structure Sighting where
  now : Nat
  dropped : UInt64
deriving DecidableEq

def lastSeen (sightings : List Sighting) : UInt64 :=
  (sightings.map (·.dropped)).getLastD 0

def observeAll : DropReporter → List Sighting → List Report × DropReporter
  | r, [] => ([], r)
  | r, o :: rest =>
    let (count, after) := r.observe o.now o.dropped
    let (later, last) := observeAll after rest
    (count.toList.map (⟨o.now, ·⟩) ++ later, last)

def events : UInt64 → List Sighting → List Warner.Event
  | _, [] => []
  | seen, o :: rest =>
    if seen < o.dropped then
      .record (o.dropped - seen) :: .warn o.now :: events o.dropped rest
    else .warn o.now :: events seen rest

theorem observeAll_eq (r : DropReporter) (sightings : List Sighting) :
    (r.observeAll sightings).1 = (r.warner.operateAll (events r.seen sightings)).1 ∧
      (r.observeAll sightings).2.warner = (r.warner.operateAll (events r.seen sightings)).2 := by
  induction sightings generalizing r with
  | nil => exact ⟨rfl, rfl⟩
  | cons o rest ih =>
    rw [observeAll, observe, events]
    by_cases grown : r.seen < o.dropped
    · simp [grown, Warner.operateAll, Warner.operate, ih]
    · simp [grown, Warner.operateAll, Warner.operate, ih]

theorem readings_events (seen : UInt64) (sightings : List Sighting) :
    Warner.readings (events seen sightings) = sightings.map (·.now) := by
  simp only [Warner.readings]
  induction sightings generalizing seen with
  | nil => rfl
  | cons o rest ih =>
    rw [events]
    split <;> simp [Warner.Event.readings, ih]

theorem recorded_events (seen : UInt64) (sightings : List Sighting)
    (rising : (seen :: sightings.map (·.dropped)).Pairwise (· ≤ ·)) :
    seen.toNat + Warner.recorded (events seen sightings) =
      ((sightings.map (·.dropped)).getLastD seen).toNat := by
  simp only [Warner.recorded]
  induction sightings generalizing seen with
  | nil => rfl
  | cons o rest ih =>
    rw [List.map_cons, List.pairwise_cons] at rising
    obtain ⟨most, rising⟩ := rising
    have le : seen ≤ o.dropped := most _ List.mem_cons_self
    have onward := ih o.dropped rising
    rw [events, List.map_cons, List.getLastD_cons]
    split
    · have growth := UInt64.toNat_sub_of_le _ _ le
      have := UInt64.le_iff_toNat_le.mp le
      simp only [List.map_cons, List.sum_cons, Warner.Event.drops]
      omega
    · next still =>
      have same : seen = o.dropped := UInt64.le_antisymm le (UInt64.not_lt.mp still)
      simpa [same, Warner.Event.drops] using onward

end DropReporter

/-- Whatever a warner is asked to count and to tell, it tells as `Reports` says; and a reporter that
follows a counter has told or still holds exactly the count that it saw last. -/
theorem Warner.tells_recorded (interval : Duration) :
    (∀ events, Clocked (readings events) →
      Reports interval events ((create interval).operateAll events).1
        ((create interval).operateAll events).2) ∧
    ∀ kind (sightings : List DropReporter.Sighting), Clocked (sightings.map (·.now)) →
      (sightings.map (·.dropped)).Pairwise (· ≤ ·) →
      told ((DropReporter.create kind interval).observeAll sightings).1 +
          ((DropReporter.create kind interval).observeAll sightings).2.warner.tally.toNat =
        (DropReporter.lastSeen sightings).toNat := by
  have run (events : List Event) (clocked : Clocked (readings events)) :
      Account interval events ((create interval).operateAll events).1
        ((create interval).operateAll events).2 :=
    (account_create interval).operateAll events clocked
  refine ⟨fun events clocked => (run events clocked).reports, ?_⟩
  intro kind sightings clocked rising
  have account := run (DropReporter.events 0 sightings) (by
    rwa [DropReporter.readings_events])
  have seen : recorded (DropReporter.events 0 sightings) =
      (DropReporter.lastSeen sightings).toNat := by
    have growth := DropReporter.recorded_events 0 sightings
      (List.pairwise_cons.mpr ⟨fun _ _ => UInt64.zero_le, rising⟩)
    simpa [DropReporter.lastSeen] using growth
  obtain ⟨reports, warner⟩ := DropReporter.observeAll_eq (.create kind interval) sightings
  rw [reports, warner, ← seen]
  refine account.exact_of_lt ?_
  rw [seen]
  exact UInt64.toNat_lt_size _

theorem Warner.tells_recorded_of_three_calls :
    let events : List Event :=
      [.warn 3, .record 5, .warn 10, .record 2, .warn 14, .record 1, .warn 15, .record 7]
    let sightings : List DropReporter.Sighting := [⟨1, 0⟩, ⟨2, 4⟩, ⟨9, 4⟩, ⟨9, 6⟩]
    ((create (.ofMillis 5)).operateAll events).1 = [⟨10, 5⟩, ⟨15, 3⟩] ∧
      Reports (.ofMillis 5) events ((create (.ofMillis 5)).operateAll events).1
        ((create (.ofMillis 5)).operateAll events).2 ∧
      told ((DropReporter.create .udp (.ofMillis 5)).observeAll sightings).1 +
          ((DropReporter.create .udp (.ofMillis 5)).observeAll sightings).2.warner.tally.toNat =
        6 := by
  intro events sightings
  exact ⟨by decide, (tells_recorded (.ofMillis 5)).1 events ⟨by decide, by decide⟩,
    (tells_recorded (.ofMillis 5)).2 .udp sightings ⟨by decide, by decide⟩ (by decide)⟩

end LogRelay
