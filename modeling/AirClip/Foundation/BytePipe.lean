import AirClip.Foundation.StreamDecoder

/-!
# Items through a byte pipe

One direction of a byte stream.  Its writer puts encoded items in, the bytes arrive in pieces of any
size, and its reader takes an item off its buffer whenever a whole one is there.  A write may break off
in the middle of an item, after which nothing more is written.  However the bytes are cut, the pipe is a
queue of the items that have been written completely.
-/

namespace Foundation

/-- What the reader of a stream has buffered, and what is still under way to it. -/
structure BytePipe (α : Type) where
  buffered : List α
  underWay : List α
deriving DecidableEq

namespace BytePipe

variable {α β ε : Type}

def empty : BytePipe α := ⟨[], []⟩

def write (pipe : BytePipe α) (bytes : List α) : BytePipe α :=
  { pipe with underWay := pipe.underWay ++ bytes }

/-- At most so many bytes arrive at the reader. -/
def arrive (pipe : BytePipe α) (count : ℕ) : BytePipe α :=
  ⟨pipe.buffered ++ pipe.underWay.take count, pipe.underWay.drop count⟩

/-- One attempt to take an item off the buffer. -/
def poll (decoder : StreamDecoder α β ε) (pipe : BytePipe α) : Except ε (Option (β × BytePipe α)) :=
  (decoder.decode pipe.buffered).map
    (Option.map fun (item, rest) ↦ (item, { pipe with buffered := rest }))

/-- The pipe is a queue of items, behind which a write may have broken off. -/
structure Carries (decoder : StreamDecoder α β ε) (encode : β → List α) (items : List β)
    (torn : List α) (pipe : BytePipe α) : Prop where
  bytes : pipe.buffered ++ pipe.underWay = items.flatMap encode ++ torn
  torn : decoder.decode torn = .ok none
  decodes : ∀ item ∈ items, ∀ more, decoder.decode (encode item ++ more) = .ok (some (item, more))

section Carries

variable {decoder : StreamDecoder α β ε} {encode : β → List α} {items : List β} {torn : List α}
  {pipe : BytePipe α}

theorem carries_empty : (empty : BytePipe α).Carries decoder encode [] [] :=
  ⟨rfl, decoder.decode_nil, nofun⟩

/-- A reader that asks for more has asked for more before. -/
theorem decode_of_append {buffer more : List α} (h : decoder.decode (buffer ++ more) = .ok none) :
    decoder.decode buffer = .ok none := by
  match hdecode : decoder.decode buffer with
  | .error failure => rw [decoder.error_stable more hdecode] at h; cases h
  | .ok none => rfl
  | .ok (some (item, rest)) => rw [decoder.item_stable more hdecode] at h; cases h

/-- No part of an item but the whole of it is taken for an item. -/
theorem decode_torn {item : β} {start : List α}
    (hdecode : decoder.decode (encode item) = .ok (some (item, []))) (hstart : start <+: encode item)
    (hshort : start.length < (encode item).length) : decoder.decode start = .ok none := by
  obtain ⟨rest, hrest⟩ := hstart
  rw [← hrest] at hdecode
  match hprefix : decoder.decode start with
  | .error failure => rw [decoder.error_stable rest hprefix] at hdecode; cases hdecode
  | .ok none => rfl
  | .ok (some (other, left)) =>
    rw [decoder.item_stable rest hprefix] at hdecode
    have hleft : left ++ rest = [] := (Prod.mk.inj (Option.some.inj (Except.ok.inj hdecode))).2
    rw [← hrest, (List.append_eq_nil_iff.mp hleft).2, List.append_nil] at hshort
    exact absurd hshort (lt_irrefl _)

theorem Carries.arrive (h : pipe.Carries decoder encode items torn) (count : ℕ) :
    (pipe.arrive count).Carries decoder encode items torn where
  bytes := by
    rw [BytePipe.arrive, List.append_assoc, List.take_append_drop, h.bytes]
  torn := h.torn
  decodes := h.decodes

/-- A whole item is written. -/
theorem Carries.write (h : pipe.Carries decoder encode items []) {item : β}
    (hitem : ∀ more, decoder.decode (encode item ++ more) = .ok (some (item, more))) :
    (pipe.write (encode item)).Carries decoder encode (items ++ [item]) [] where
  bytes := by
    rw [BytePipe.write, ← List.append_assoc, h.bytes, List.flatMap_append, List.flatMap_singleton,
      List.append_nil, List.append_nil]
  torn := h.torn
  decodes other hmem := by
    obtain hmem | hmem := List.mem_append.mp hmem
    · exact h.decodes other hmem
    · rwa [List.mem_singleton.mp hmem]

/-- A write breaks off before the item is complete. -/
theorem Carries.tear (h : pipe.Carries decoder encode items []) {item : β} {start : List α}
    (hitem : decoder.decode (encode item) = .ok (some (item, []))) (hstart : start <+: encode item)
    (hshort : start.length < (encode item).length) :
    (pipe.write start).Carries decoder encode items start where
  bytes := by
    rw [BytePipe.write, ← List.append_assoc, h.bytes, List.append_nil]
  torn := decode_torn hitem hstart hshort
  decodes := h.decodes

/-- The reader asks for more or takes the first item of the queue, and never fails. -/
theorem Carries.poll (h : pipe.Carries decoder encode items torn) :
    pipe.poll decoder = .ok none ∨ ∃ item later pipe', items = item :: later ∧
      pipe.poll decoder = .ok (some (item, pipe')) ∧ pipe'.Carries decoder encode later torn := by
  unfold BytePipe.poll
  cases items with
  | nil =>
    have hwhole : decoder.decode (pipe.buffered ++ pipe.underWay) = .ok none := by
      rw [h.bytes]
      exact h.torn
    rw [decode_of_append hwhole]
    exact .inl rfl
  | cons item later =>
    have hwhole := h.decodes item List.mem_cons_self (later.flatMap encode ++ torn)
    rw [← List.append_assoc, ← List.flatMap_cons, ← h.bytes] at hwhole
    match hdecode : decoder.decode pipe.buffered with
    | .error failure => rw [decoder.error_stable _ hdecode] at hwhole; cases hwhole
    | .ok none => exact .inl rfl
    | .ok (some (other, rest)) =>
      rw [decoder.item_stable _ hdecode] at hwhole
      obtain ⟨rfl, hrest⟩ := Prod.mk.inj (Option.some.inj (Except.ok.inj hwhole))
      exact .inr ⟨other, later, { pipe with buffered := rest }, rfl, rfl, hrest, h.torn,
        fun item hmem ↦ h.decodes item (List.mem_cons_of_mem _ hmem)⟩

/-- Once every byte has arrived, the reader waits only on an empty queue. -/
theorem Carries.poll_arrived (h : pipe.Carries decoder encode items torn) (harrived : pipe.underWay = [])
    (hpoll : pipe.poll decoder = .ok none) : items = [] := by
  cases items with
  | nil => rfl
  | cons item later =>
    have hwhole := h.decodes item List.mem_cons_self (later.flatMap encode ++ torn)
    rw [← List.append_assoc, ← List.flatMap_cons, ← h.bytes, harrived, List.append_nil] at hwhole
    rw [BytePipe.poll, hwhole] at hpoll
    cases hpoll

end Carries

end BytePipe

end Foundation
