import Mathlib.Data.List.Basic
import Mathlib.Tactic

/-!
# Lossy ordered channels

The abstract channel of one direction of traffic.  Messages are appended to a log and may be lost,
but what has been delivered is always a subsequence of what lies before the current position of the
log: in order, each message at most once.  Delivering message number `n` is possible as long as the
position has not passed it, and moves the position behind it.
-/

namespace Foundation

/-- A log of sent messages, the position up to which it has been read, and what has been delivered
from the part before it. -/
structure LossyFifo (α : Type) where
  sent : List α
  position : ℕ
  delivered : List α
  delivered_sublist : delivered.Sublist (sent.take position)

namespace LossyFifo

variable {α : Type}

/-- A channel over a log nothing has been delivered from. -/
def unread (sent : List α) : LossyFifo α := ⟨sent, 0, [], List.nil_sublist _⟩

/-- Append messages to the log. -/
def send (fifo : LossyFifo α) (messages : List α) : LossyFifo α where
  sent := fifo.sent ++ messages
  position := fifo.position
  delivered := fifo.delivered
  delivered_sublist := by
    refine fifo.delivered_sublist.trans ?_
    rw [List.take_append]
    exact List.sublist_append_left _ _

theorem delivered_sublist_take_succ (fifo : LossyFifo α) {n : ℕ} {message : α}
    (hposition : fifo.position ≤ n) (hmessage : fifo.sent[n]? = some message) :
    (fifo.delivered ++ [message]).Sublist (fifo.sent.take (n + 1)) := by
  rw [List.take_add_one, hmessage, Option.toList_some]
  have hdelivered : fifo.delivered.Sublist (fifo.sent.take n) :=
    calc
      fifo.delivered.Sublist (fifo.sent.take fifo.position) := fifo.delivered_sublist
      List.Sublist _ (fifo.sent.take n) := List.take_sublist_take_left hposition
  exact hdelivered.append (List.Sublist.refl _)

/-- Deliver message number `n`, skipping those between it and the position. -/
def deliver (fifo : LossyFifo α) (n : ℕ) (message : α) (hposition : fifo.position ≤ n)
    (hmessage : fifo.sent[n]? = some message) : LossyFifo α where
  sent := fifo.sent
  position := n + 1
  delivered := fifo.delivered ++ [message]
  delivered_sublist := fifo.delivered_sublist_take_succ hposition hmessage

/-- Whatever has happened to the channel, deliveries are a subsequence of what was sent. -/
theorem delivered_sublist_sent (fifo : LossyFifo α) : fifo.delivered.Sublist fifo.sent :=
  fifo.delivered_sublist.trans (List.take_sublist _ _)

end LossyFifo

end Foundation
