/-!
# First-in first-out queues

A queue is kept as a front list and a reversed back list, so that both ends are cheap to reach.
Everything about a queue is said through the list of its elements, `Fifo.toList`.
-/

namespace FlightLink

/-- A queue; `back` holds the youngest elements, the youngest first. -/
structure Fifo (α : Type) where
  front : List α
  back : List α
  deriving Repr

namespace Fifo

variable {α : Type}

/-- The elements, the oldest first. -/
def toList (q : Fifo α) : List α :=
  q.front ++ q.back.reverse

/-- The queue without elements. -/
def empty : Fifo α := ⟨[], []⟩

instance : Inhabited (Fifo α) := ⟨empty⟩

/-- The queue of a list's elements. -/
def ofList (l : List α) : Fifo α := ⟨l, []⟩

/-- The queue with one more element at its end. -/
def push (q : Fifo α) (a : α) : Fifo α := ⟨q.front, a :: q.back⟩

/-- The queue with the elements of a list at its end. -/
def append (q : Fifo α) (l : List α) : Fifo α := l.foldl push q

/-- The oldest element and the queue without it. -/
def pop? (q : Fifo α) : Option (α × Fifo α) :=
  match q.front with
  | a :: rest => some (a, ⟨rest, q.back⟩)
  | [] =>
    match q.back.reverse with
    | a :: rest => some (a, ⟨rest, []⟩)
    | [] => none

/-- Whether there is no element. -/
def isEmpty (q : Fifo α) : Bool :=
  q.front.isEmpty && q.back.isEmpty

@[simp] theorem toList_empty : (empty : Fifo α).toList = [] := rfl

@[simp] theorem toList_ofList (l : List α) : (ofList l).toList = l := by
  simp [ofList, toList]

@[simp] theorem toList_push (q : Fifo α) (a : α) : (q.push a).toList = q.toList ++ [a] := by
  simp [push, toList]

@[simp] theorem toList_append (q : Fifo α) (l : List α) :
    (q.append l).toList = q.toList ++ l := by
  induction l generalizing q with
  | nil => simp [append]
  | cons a l ih =>
    have : q.append (a :: l) = (q.push a).append l := rfl
    simp [this, ih]

/-- The oldest element comes first in the list. -/
theorem toList_of_pop? {q rest : Fifo α} {a : α} (h : q.pop? = some (a, rest)) :
    q.toList = a :: rest.toList := by
  unfold pop? at h
  split at h
  · rename_i heq
    simp only [Option.some.injEq, Prod.mk.injEq] at h
    obtain ⟨rfl, rfl⟩ := h
    simp [toList, heq]
  · rename_i heq
    split at h
    · rename_i hback
      simp only [Option.some.injEq, Prod.mk.injEq] at h
      obtain ⟨rfl, rfl⟩ := h
      simp [toList, heq, hback]
    · simp at h

theorem isEmpty_iff {q : Fifo α} : q.isEmpty = true ↔ q.toList = [] := by
  simp [isEmpty, toList]

/-- Nothing can be taken from a queue exactly if it has no elements. -/
theorem pop?_eq_none_iff {q : Fifo α} : q.pop? = none ↔ q.toList = [] := by
  unfold pop? toList
  cases hf : q.front <;> cases hb : q.back.reverse <;> simp_all

end Fifo

end FlightLink
