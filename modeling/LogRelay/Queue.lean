/-!
Queues: what goes in first comes out first. The elements that came last are kept in reverse, so
that both ends are at hand; `toList` shows all of them in order.
-/

namespace LogRelay

/-- The elements of `back` stand behind the front, the last one first. -/
structure Queue (α : Type) where
  front : List α
  back : List α
  size : Nat
  size_eq : size = front.length + back.length
deriving DecidableEq

namespace Queue

variable {α : Type}

def empty : Queue α :=
  ⟨[], [], 0, rfl⟩

def toList (q : Queue α) : List α :=
  q.front ++ q.back.reverse

def ofList (as : List α) : Queue α :=
  ⟨as, [], as.length, rfl⟩

def push (q : Queue α) (a : α) : Queue α :=
  ⟨q.front, a :: q.back, q.size + 1, by rw [q.size_eq, List.length_cons, Nat.add_assoc]⟩

/-- The oldest element and the queue without it. Once the front is used up, the elements behind it
become the front. -/
def pop? (q : Queue α) : Option (α × Queue α) :=
  match q with
  | ⟨a :: rest, back, _, _⟩ => some (a, ⟨rest, back, rest.length + back.length, rfl⟩)
  | ⟨[], back, _, _⟩ =>
    match back.reverse with
    | a :: rest => some (a, ofList rest)
    | [] => none

@[simp] theorem toList_ofList (as : List α) : (ofList as).toList = as := by
  simp only [toList, ofList, List.reverse_nil, List.append_nil]

@[simp] theorem toList_push (q : Queue α) (a : α) : (q.push a).toList = q.toList ++ [a] := by
  simp only [toList, push, List.reverse_cons, List.append_assoc]

theorem length_toList (q : Queue α) : q.toList.length = q.size := by
  rw [toList, List.length_append, List.length_reverse, q.size_eq]

theorem toList_of_pop? {q rest : Queue α} {a : α} (h : q.pop? = some (a, rest)) :
    q.toList = a :: rest.toList := by
  obtain ⟨front, back, size, size_eq⟩ := q
  cases front with
  | cons b front =>
    cases h
    rfl
  | nil =>
    simp only [pop?] at h
    split at h
    · next hb =>
      cases h
      rw [toList_ofList, toList, List.nil_append, hb]
    · cases h

theorem pop?_eq_none {q : Queue α} : q.pop? = none ↔ q.toList = [] := by
  obtain ⟨front, back, size, size_eq⟩ := q
  cases front with
  | cons b front => exact ⟨fun h => (by cases h), fun h => (by cases h)⟩
  | nil =>
    simp only [pop?, toList, List.nil_append]
    split
    · next hb => exact ⟨fun h => (by cases h), fun h => (by rw [hb] at h; cases h)⟩
    · next hb => exact ⟨fun _ => hb, fun _ => rfl⟩

theorem size_of_pop? {q rest : Queue α} {a : α} (h : q.pop? = some (a, rest)) :
    q.size = rest.size + 1 := by
  rw [← length_toList, ← length_toList, toList_of_pop? h, List.length_cons]

end Queue

end LogRelay
