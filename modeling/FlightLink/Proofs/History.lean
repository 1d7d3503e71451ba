import Mathlib.Data.List.Induction

/-!
# Histories

A history is a list that grows at its end.  Many properties of histories speak of
each entry and of what came before it, and of nothing after it.  They are kept as
long as every new entry fits what is there already.  Others speak of the last entry of
a kind, or of the first one.
-/

namespace FlightLink

variable {α : Type}

/-- An entry of a history is the last one, or stood in it before. -/
theorem getElem?_concat_cases {history : List α} {x y : α} {i : Nat}
    (h : (history ++ [x])[i]? = some y) :
    (i < history.length ∧ history[i]? = some y) ∨ (i = history.length ∧ y = x) := by
  rcases Nat.lt_trichotomy i history.length with hlt | rfl | hgt
  · rw [List.getElem?_append_left hlt] at h
    exact .inl ⟨hlt, h⟩
  · rw [List.getElem?_concat_length, Option.some.injEq] at h
    exact .inr ⟨rfl, h.symm⟩
  · have hend : (history ++ [x]).length ≤ i := by
      rw [List.length_append]
      exact hgt
    rw [List.getElem?_eq_none hend] at h
    cases h

/-- The history up to and with an entry. -/
theorem take_add_one_of_getElem? {history : List α} {i : Nat} {x : α}
    (h : history[i]? = some x) : history.take (i + 1) = history.take i ++ [x] := by
  rw [List.take_add_one, h, Option.toList_some]

/-- The last of what came before an entry stands right before it. -/
theorem getElem?_of_getLast?_take {history : List α} {i : Nat} {x : α}
    (hi : i ≤ history.length) (h : (history.take i).getLast? = some x) :
    ∃ j, i = j + 1 ∧ history[j]? = some x := by
  cases i with
  | zero => cases h
  | succ j =>
      have hj : history[j]? = some history[j] := List.getElem?_eq_getElem hi
      rw [take_add_one_of_getElem? hj, List.getLast?_concat] at h
      exact ⟨j, rfl, hj.trans h⟩

theorem forall_mem_concat {p : α → Prop} {history : List α} {x : α}
    (h : ∀ y ∈ history, p y) (hx : p x) : ∀ y ∈ history ++ [x], p y :=
  List.forall_mem_append.mpr ⟨h, by simpa using hx⟩

/-- Where an entry stands in a history that has grown by one. -/
theorem concat_eq_append_cons {history earlier later : List α} {x y : α}
    (h : history ++ [x] = earlier ++ y :: later) :
    (later = [] ∧ history = earlier ∧ y = x) ∨
      ∃ rest, later = rest ++ [x] ∧ history = earlier ++ y :: rest := by
  rcases List.eq_nil_or_concat later with rfl | ⟨rest, z, rfl⟩
  · obtain ⟨hhistory, hlast⟩ := List.append_inj' h rfl
    exact .inl ⟨rfl, hhistory, (List.singleton_inj.mp hlast).symm⟩
  · rw [List.concat_eq_append, ← List.cons_append, ← List.append_assoc] at h
    obtain ⟨hhistory, hlast⟩ := List.append_inj' h rfl
    rw [List.concat_eq_append, List.singleton_inj.mp hlast]
    exact .inr ⟨rest, rfl, hhistory⟩

/-- There is an entry with the property `p`, and all later ones have the property `q`. -/
def Since (p q : α → Prop) (history : List α) : Prop :=
  ∃ earlier x later, history = earlier ++ x :: later ∧ p x ∧ ∀ y ∈ later, q y

/-- There is an entry with the property `p`, and all earlier ones have the property `q`. -/
def Until (q p : α → Prop) (history : List α) : Prop :=
  ∃ earlier x later, history = earlier ++ x :: later ∧ p x ∧ ∀ y ∈ earlier, q y

section

variable {p q : α → Prop} {history : List α}

theorem not_since_nil : ¬ Since p q [] := by
  rintro ⟨earlier, x, later, h, -⟩
  simp at h

theorem since_concat {x : α} :
    Since p q (history ++ [x]) ↔ p x ∨ q x ∧ Since p q history := by
  constructor
  · rintro ⟨earlier, y, later, h, hp, hq⟩
    rcases concat_eq_append_cons h with ⟨-, -, rfl⟩ | ⟨rest, rfl, rfl⟩
    · exact .inl hp
    · obtain ⟨hrest, hx⟩ := List.forall_mem_append.mp hq
      exact .inr ⟨hx x (List.mem_singleton_self x), earlier, y, rest, rfl, hp, hrest⟩
  · rintro (hp | ⟨hx, earlier, y, later, rfl, hp, hq⟩)
    · exact ⟨history, x, [], rfl, hp, nofun⟩
    · exact ⟨earlier, y, later ++ [x], by simp, hp, forall_mem_concat hq hx⟩

theorem Until.append (h : Until q p history) (more : List α) :
    Until q p (history ++ more) := by
  obtain ⟨earlier, x, later, rfl, hp, hq⟩ := h
  exact ⟨earlier, x, later ++ more, by simp, hp, hq⟩

theorem until_concat {x : α} (hq : ∀ y ∈ history, q y) (hp : p x) :
    Until q p (history ++ [x]) :=
  ⟨history, x, [], rfl, hp, hq⟩

end

/-- Every entry fits what came before it. -/
def Heralded (fits : List α → α → Prop) (history : List α) : Prop :=
  ∀ i x, history[i]? = some x → fits (history.take i) x

namespace Heralded

variable {fits : List α → α → Prop} {history : List α}

theorem nil : Heralded fits [] := nofun

theorem concat {x : α} (h : Heralded fits history) (hx : fits history x) :
    Heralded fits (history ++ [x]) := by
  intro i y hi
  rcases getElem?_concat_cases hi with ⟨hlt, hi⟩ | ⟨rfl, rfl⟩
  · rw [List.take_append_of_le_length (Nat.le_of_lt hlt)]
    exact h i y hi
  · rw [List.take_left]
    exact hx

theorem of_concat {x : α} (h : Heralded fits (history ++ [x])) :
    Heralded fits history ∧ fits history x := by
  constructor
  · intro i y hi
    have hlt : i < history.length := (List.getElem?_eq_some_iff.1 hi).1
    have hfits := h i y (by rw [List.getElem?_append_left hlt, hi])
    rwa [List.take_append_of_le_length (Nat.le_of_lt hlt)] at hfits
  · have hfits := h history.length x List.getElem?_concat_length
    rwa [List.take_left] at hfits

theorem take (h : Heralded fits history) (n : Nat) :
    Heralded fits (history.take n) := by
  intro i x hi
  have hlt : i < n := by
    by_contra hge
    rw [List.getElem?_take_eq_none (Nat.le_of_not_lt hge)] at hi
    cases hi
  rw [List.getElem?_take_of_lt hlt] at hi
  rw [List.take_take, Nat.min_eq_left (Nat.le_of_lt hlt)]
  exact h i x hi

end Heralded

end FlightLink
