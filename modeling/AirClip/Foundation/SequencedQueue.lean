import Mathlib.Tactic

/-!
# Queues of numbered messages

A sender numbers its messages upwards, and a receiver takes no message with a number below the one it
expects next.  In a queue that keeps the order, every message is taken when its turn comes, whether or
not some of the messages before it were never sent.
-/

namespace Foundation

variable {α : Type*}

/-- The numbers grow along the queue, from `next` at least, and stay below `upto`. -/
def Sequenced (number : α → ℕ) (next upto : ℕ) : List α → Prop
  | [] => next ≤ upto
  | message :: messages => next ≤ number message ∧ Sequenced number (number message + 1) upto messages

namespace Sequenced

variable {number : α → ℕ} {next upto : ℕ} {messages : List α}

/-- The sender numbers a message and appends it. -/
theorem append (h : Sequenced number next upto messages) {message : α}
    (hnumber : number message = upto) : Sequenced number next (upto + 1) (messages ++ [message]) := by
  induction messages generalizing next with
  | nil =>
    rw [List.nil_append, Sequenced, Sequenced, hnumber]
    exact ⟨h, le_rfl⟩
  | cons first messages ih => exact ⟨h.1, ih h.2⟩

/-- The sender uses up numbers. -/
theorem mono (h : Sequenced number next upto messages) {upto' : ℕ} (hle : upto ≤ upto') :
    Sequenced number next upto' messages := by
  induction messages generalizing next with
  | nil => exact le_trans h hle
  | cons first messages ih => exact ⟨h.1, ih h.2⟩

end Sequenced

end Foundation
