import Mathlib.Data.List.DropRight
import Mathlib.Tactic.SplitIfs

/-!
# Recent history

A buffer of fixed depth that drops its oldest element for every new one holds the last elements of its
history.  An element leaves it only after as many newer ones as the buffer is deep.
-/

namespace Foundation

variable {α β : Type*}

theorem length_rtake (n : ℕ) (history : List α) : (history.rtake n).length = min n history.length := by
  rw [List.rtake, List.length_drop]
  omega

/-- Pushing onto a full buffer drops its oldest element. -/
theorem rtake_push {n : ℕ} (hn : 1 ≤ n) (history : List α) (new : α) :
    (if (history.rtake n).length = n then (history.rtake n).tail else history.rtake n) ++ [new] =
      (history ++ [new]).rtake n := by
  obtain ⟨m, rfl⟩ := Nat.exists_eq_add_of_le' hn
  rw [List.rtake_concat_succ, length_rtake]
  congr 1
  split_ifs with hfull
  · rw [List.rtake, List.rtake, List.tail_drop]
    congr 1
    omega
  · rw [List.rtake, List.rtake]
    congr 1
    omega

/-- What is left of the earlier history, and the later one. -/
theorem rtake_append (n : ℕ) (earlier later : List α) :
    (earlier ++ later).rtake n = earlier.rtake (n - later.length) ++ later.rtake n := by
  rw [List.rtake, List.rtake, List.rtake, List.drop_append, List.length_append]
  congr 1
  · by_cases hn : n ≤ later.length
    · rw [List.drop_of_length_le (by omega), List.drop_of_length_le (by omega)]
    · congr 1
      omega
  · congr 1
    omega

theorem rtake_suffix (n : ℕ) (history : List α) : history.rtake n <:+ history := List.drop_suffix _ _

theorem map_rtake (f : α → β) (n : ℕ) (history : List α) :
    (history.rtake n).map f = (history.map f).rtake n := by
  rw [List.rtake, List.rtake, List.map_drop, List.length_map]

/-- An element that is not among the last has been followed by as many newer ones. -/
theorem le_length_of_not_mem_rtake {n : ℕ} {earlier later : List α} {a : α}
    (h : a ∉ (earlier ++ a :: later).rtake n) : n ≤ later.length := by
  by_contra hlt
  refine h ?_
  rw [rtake_append, show (a :: later).rtake n = a :: later by
    rw [List.rtake, Nat.sub_eq_zero_of_le (by simp; omega), List.drop_zero]]
  exact List.mem_append_right _ List.mem_cons_self

end Foundation
