import Mathlib.Tactic

/-!
# Incremental decoding of a stream

A stream decoder looks at the bytes buffered so far and either takes one item off the front, asks
for more, or fails for good.  The laws carried by the structure are the ones an incremental
parser owes its transport: what has been decided on a buffer stays decided when more input
arrives, and every item consumes something.  Under them the way a stream is cut into reads is
invisible: feeding it chunk by chunk gives the items and the outcome of one pass over the whole.
-/

namespace Foundation

/-- One decoding attempt over a buffer, with the laws that make it incremental. -/
structure StreamDecoder (α β ε : Type) where
  decode : List α → Except ε (Option (β × List α))
  decode_nil : decode [] = .ok none
  item_stable : ∀ {buffer rest item} (more : List α),
    decode buffer = .ok (some (item, rest)) → decode (buffer ++ more) = .ok (some (item, rest ++ more))
  error_stable : ∀ {buffer failure} (more : List α),
    decode buffer = .error failure → decode (buffer ++ more) = .error failure
  progress : ∀ {buffer rest item},
    decode buffer = .ok (some (item, rest)) → rest.length < buffer.length

namespace StreamDecoder

variable {α β ε : Type} (decoder : StreamDecoder α β ε)

/-- What a pass over some input leaves behind: the items found, and either the failure that ended
it or the bytes not yet consumed. -/
structure Result (α β ε : Type) where
  items : List β
  outcome : Except ε (List α)
deriving DecidableEq

/-- Take items off the buffer until the decoder asks for more or fails. -/
def drain (buffer : List α) : Result α β ε :=
  match _h : decoder.decode buffer with
  | .error failure => ⟨[], .error failure⟩
  | .ok none => ⟨[], .ok buffer⟩
  | .ok (some (item, rest)) =>
    let tail := drain rest
    ⟨item :: tail.items, tail.outcome⟩
termination_by buffer.length
decreasing_by exact decoder.progress _h

/-- Append each read to the buffer and drain it, stopping at the first failure. -/
def feed (buffer : List α) : List (List α) → Result α β ε
  | [] => ⟨[], .ok buffer⟩
  | chunk :: chunks =>
    match decoder.drain (buffer ++ chunk) with
    | ⟨items, .error failure⟩ => ⟨items, .error failure⟩
    | ⟨items, .ok rest⟩ =>
      let tail := feed rest chunks
      ⟨items ++ tail.items, tail.outcome⟩

theorem drain_error {buffer : List α} {failure : ε} (h : decoder.decode buffer = .error failure) :
    decoder.drain buffer = ⟨[], .error failure⟩ := by
  rw [drain]
  split <;> simp_all

theorem drain_none {buffer : List α} (h : decoder.decode buffer = .ok none) :
    decoder.drain buffer = ⟨[], .ok buffer⟩ := by
  rw [drain]
  split <;> simp_all

theorem drain_some {buffer rest : List α} {item : β}
    (h : decoder.decode buffer = .ok (some (item, rest))) :
    decoder.drain buffer =
      ⟨item :: (decoder.drain rest).items, (decoder.drain rest).outcome⟩ := by
  rw [drain]
  split <;> simp_all

@[simp]
theorem drain_nil : decoder.drain [] = ⟨[], .ok []⟩ := decoder.drain_none decoder.decode_nil

/-- Input that arrives later does not change a pass that failed. -/
theorem drain_append_error (buffer more : List α) {items : List β} {failure : ε}
    (h : decoder.drain buffer = ⟨items, .error failure⟩) :
    decoder.drain (buffer ++ more) = ⟨items, .error failure⟩ := by
  induction hsize : buffer.length using Nat.strong_induction_on generalizing buffer items with
  | _ size ih =>
    subst hsize
    match hdecode : decoder.decode buffer with
    | .error other =>
      rw [drain_error _ hdecode] at h
      rw [drain_error _ (decoder.error_stable more hdecode), h]
    | .ok none =>
      rw [drain_none _ hdecode] at h
      cases h
    | .ok (some (item, rest)) =>
      rw [drain_some _ hdecode] at h
      have hrest : decoder.drain rest = ⟨(decoder.drain rest).items, .error failure⟩ := by
        rw [← (Result.mk.inj h).2]
      have htail := ih rest.length (decoder.progress hdecode) rest hrest rfl
      rw [drain_some _ (decoder.item_stable more hdecode), htail]
      rw [← h, hrest]

/-- Input that arrives later continues a pass from the bytes it left over. -/
theorem drain_append_ok (buffer more : List α) {items : List β} {rest : List α}
    (h : decoder.drain buffer = ⟨items, .ok rest⟩) :
    decoder.drain (buffer ++ more) =
      ⟨items ++ (decoder.drain (rest ++ more)).items, (decoder.drain (rest ++ more)).outcome⟩ := by
  induction hsize : buffer.length using Nat.strong_induction_on generalizing buffer items with
  | _ size ih =>
    subst hsize
    match hdecode : decoder.decode buffer with
    | .error other =>
      rw [drain_error _ hdecode] at h
      cases h
    | .ok none =>
      rw [drain_none _ hdecode] at h
      cases h
      rfl
    | .ok (some (item, tail)) =>
      rw [drain_some _ hdecode] at h
      obtain ⟨hitems, houtcome⟩ := Result.mk.inj h
      have hrest : decoder.drain tail = ⟨(decoder.drain tail).items, .ok rest⟩ := by
        rw [← houtcome]
      have htail := ih tail.length (decoder.progress hdecode) tail hrest rfl
      rw [drain_some _ (decoder.item_stable more hdecode), htail, ← hitems]
      rfl

/-- The bytes a pass leaves over are a buffer on which the decoder asks for more. -/
theorem decode_leftover {buffer rest : List α} {items : List β}
    (h : decoder.drain buffer = ⟨items, .ok rest⟩) : decoder.decode rest = .ok none := by
  induction hsize : buffer.length using Nat.strong_induction_on generalizing buffer items with
  | _ size ih =>
    subst hsize
    match hdecode : decoder.decode buffer with
    | .error other =>
      rw [drain_error _ hdecode] at h
      cases h
    | .ok none =>
      rw [drain_none _ hdecode] at h
      cases h
      exact hdecode
    | .ok (some (item, tail)) =>
      rw [drain_some _ hdecode] at h
      have hrest : decoder.drain tail = ⟨(decoder.drain tail).items, .ok rest⟩ := by
        rw [← (Result.mk.inj h).2]
      exact ih tail.length (decoder.progress hdecode) hrest rfl

/-- Cutting a stream into reads does not change what is decoded from it. -/
theorem feed_eq_drain (buffer : List α) (chunks : List (List α))
    (hbuffer : decoder.decode buffer = .ok none) :
    decoder.feed buffer chunks = decoder.drain (buffer ++ chunks.flatten) := by
  induction chunks generalizing buffer with
  | nil => rw [List.flatten_nil, List.append_nil, drain_none _ hbuffer, feed]
  | cons chunk chunks ih =>
    rw [List.flatten_cons, ← List.append_assoc, feed]
    match hdrain : decoder.drain (buffer ++ chunk) with
    | ⟨items, .error failure⟩ => rw [decoder.drain_append_error _ _ hdrain]
    | ⟨items, .ok rest⟩ =>
      rw [decoder.drain_append_ok _ _ hdrain, ← ih rest (decoder.decode_leftover hdrain)]

/-- A pass over encoded items finds exactly these items and consumes every byte. -/
theorem drain_flatMap_encode (encode : β → List α) (items : List β)
    (hencode : ∀ item ∈ items, ∀ more,
      decoder.decode (encode item ++ more) = .ok (some (item, more))) :
    decoder.drain (items.flatMap encode) = ⟨items, .ok []⟩ := by
  induction items with
  | nil => simp
  | cons item items ih =>
    have htail := ih fun other hmem ↦ hencode other (List.mem_cons_of_mem item hmem)
    rw [List.flatMap_cons, drain_some _ (hencode item List.mem_cons_self _), htail]

end StreamDecoder

end Foundation
