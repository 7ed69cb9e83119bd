import AirClip.Core.Protocol
import AirClip.Foundation.StreamDecoder

/-!
# Frame codec

One frame on the wire is the magic `"ACP1"`, a type byte, a little-endian 32-bit length and the
payload.  `FrameCodec.decode` works on the bytes buffered so far and reports the buffer it leaves
behind.  It is an incremental decoder: a verdict on a buffer survives any further input, also the
errors raised before the body has arrived, so the way the transport cuts the stream into reads
cannot be seen in the frames.
-/

open Foundation

namespace AirClip

def magic : Bytes := [0x41, 0x43, 0x50, 0x31]

def headerLen : ℕ := 9

inductive FrameType where
  | hello
  | helloAck
  | pairReq
  | pairAck
  | pairConfirm
  | clipPush
  | clipAck
  | stageListReq
  | stageList
  | stageGet
  | stageItem
  | ping
  | pong
  | error
deriving DecidableEq, Repr

namespace FrameType

def toUInt8 : FrameType → UInt8
  | .hello => 0x01
  | .helloAck => 0x02
  | .pairReq => 0x10
  | .pairAck => 0x11
  | .pairConfirm => 0x12
  | .clipPush => 0x20
  | .clipAck => 0x21
  | .stageListReq => 0x22
  | .stageList => 0x23
  | .stageGet => 0x24
  | .stageItem => 0x25
  | .ping => 0x30
  | .pong => 0x31
  | .error => 0x3F

/-- Encrypted frame types carry a counter and an AEAD ciphertext. -/
def isEncrypted (ty : FrameType) : Bool := 0x20 ≤ ty.toUInt8

/-- The reserved range 0x40 to 0x4F has no handler and is rejected like any unknown type. -/
def tryFrom (byte : UInt8) : Except Error FrameType :=
  if byte = 0x01 then .ok .hello
  else if byte = 0x02 then .ok .helloAck
  else if byte = 0x10 then .ok .pairReq
  else if byte = 0x11 then .ok .pairAck
  else if byte = 0x12 then .ok .pairConfirm
  else if byte = 0x20 then .ok .clipPush
  else if byte = 0x21 then .ok .clipAck
  else if byte = 0x22 then .ok .stageListReq
  else if byte = 0x23 then .ok .stageList
  else if byte = 0x24 then .ok .stageGet
  else if byte = 0x25 then .ok .stageItem
  else if byte = 0x30 then .ok .ping
  else if byte = 0x31 then .ok .pong
  else if byte = 0x3F then .ok .error
  else .error (.unknownFrameType byte)

@[simp]
theorem tryFrom_toUInt8 (ty : FrameType) : tryFrom ty.toUInt8 = .ok ty := by
  cases ty <;> rfl

theorem toUInt8_injective : Function.Injective toUInt8 := fun left right h ↦ by
  have hparse := congrArg tryFrom h
  simpa using hparse

end FrameType

structure Frame where
  ty : FrameType
  payload : Bytes
deriving DecidableEq, Repr

/-- The length field is the payload length as a `u32`. -/
def Frame.encode (frame : Frame) : Bytes :=
  magic ++ [frame.ty.toUInt8] ++ leBytes 4 (UInt32.ofNat frame.payload.length).toNat ++ frame.payload

namespace FrameCodec

/-- One attempt to take a frame off `src`, with the buffer left behind.  The header is validated
before the body is buffered. -/
def decode (src : Bytes) : Except Error (Option Frame) × Bytes :=
  if src.length < headerLen then (.ok none, src)
  else if src.take 4 ≠ magic then (.error .badMagic, src)
  else
    match FrameType.tryFrom (src.getD 4 0) with
    | .error failure => (.error failure, src)
    | .ok ty =>
      let len := UInt32.ofNat (leNat ((src.drop 5).take 4))
      if maxFrameLen < len then (.error (.frameTooLarge len), src)
      else
        let total := headerLen + len.toNat
        if src.length < total then (.ok none, src)
        else
          let src := src.drop headerLen
          (.ok (some ⟨ty, src.take len.toNat⟩), src.drop len.toNat)

/-- Append a frame to `dst`; an oversize payload leaves it as it was. -/
def encode (item : Frame) (dst : Bytes) : Except Error Unit × Bytes :=
  let len := item.payload.length
  if maxFrameLen.toNat < len then (.error (.frameTooLarge (UInt32.ofNat len)), dst)
  else
    (.ok (), dst ++ magic ++ [item.ty.toUInt8] ++ leBytes 4 (UInt32.ofNat len).toNat ++ item.payload)

/-- What `decode` reports, with the remaining buffer attached to the frame it belongs to. -/
def attempt (src : Bytes) : Except Error (Option (Frame × Bytes)) :=
  match decode src with
  | (.error failure, _) => .error failure
  | (.ok none, _) => .ok none
  | (.ok (some frame), rest) => .ok (some (frame, rest))

/-! ## Verdicts on a complete header -/

theorem attempt_short {src : Bytes} (h : src.length < headerLen) : attempt src = .ok none := by
  simp [attempt, decode, h]

theorem attempt_badMagic {src : Bytes} (hlen : headerLen ≤ src.length) (h : src.take 4 ≠ magic) :
    attempt src = .error .badMagic := by
  simp [attempt, decode, hlen.not_gt, h]

theorem attempt_unknownType {src : Bytes} {failure : Error} (hlen : headerLen ≤ src.length)
    (hmagic : src.take 4 = magic) (h : FrameType.tryFrom (src.getD 4 0) = .error failure) :
    attempt src = .error failure := by
  simp only [attempt, decode, hlen.not_gt, hmagic, h, if_false, ne_eq, not_true_eq_false]

/-- The length field of a buffered header. -/
def lenField (src : Bytes) : UInt32 := UInt32.ofNat (leNat ((src.drop 5).take 4))

theorem attempt_header {src : Bytes} {ty : FrameType} (hlen : headerLen ≤ src.length)
    (hmagic : src.take 4 = magic) (hty : FrameType.tryFrom (src.getD 4 0) = .ok ty) :
    attempt src =
      if maxFrameLen < lenField src then .error (.frameTooLarge (lenField src))
      else if src.length < headerLen + (lenField src).toNat then .ok none
      else .ok (some (⟨ty, (src.drop headerLen).take (lenField src).toNat⟩,
        (src.drop headerLen).drop (lenField src).toNat)) := by
  unfold attempt decode
  rw [if_neg hlen.not_gt, if_neg (not_not.mpr hmagic), hty]
  have hfield : UInt32.ofNat (leNat ((src.drop 5).take 4)) = lenField src := rfl
  dsimp only
  rw [hfield]
  by_cases hbig : maxFrameLen < lenField src
  · rw [if_pos hbig, if_pos hbig]
  · rw [if_neg hbig, if_neg hbig]
    by_cases hshort : src.length < headerLen + (lenField src).toNat
    · rw [if_pos hshort, if_pos hshort]
    · rw [if_neg hshort, if_neg hshort]

/-- The header of a buffer is not touched by what arrives behind it. -/
theorem header_append {src : Bytes} (more : Bytes) (hlen : headerLen ≤ src.length) :
    (src ++ more).take 4 = src.take 4 ∧ (src ++ more).getD 4 0 = src.getD 4 0 ∧
      lenField (src ++ more) = lenField src := by
  have hlen' : 9 ≤ src.length := hlen
  refine ⟨List.take_append_of_le_length (by omega), ?_, ?_⟩
  · simp only [List.getD_eq_getElem?_getD, List.getElem?_append_left (show 4 < src.length by omega)]
  · unfold lenField
    rw [List.drop_append_of_le_length (by omega), List.take_append_of_le_length (by simp; omega)]

/-- Once a verdict is reached it stands whatever arrives later: an error stays the same error and
a frame stays the same frame, with the new bytes behind the rest of the buffer. -/
theorem attempt_append (src more : Bytes) (h : attempt src ≠ .ok none) :
    attempt (src ++ more) =
      (attempt src).map (Option.map fun (frame, rest) ↦ (frame, rest ++ more)) := by
  have hlen : headerLen ≤ src.length := not_lt.mp fun hshort ↦ h (attempt_short hshort)
  have hlen' : headerLen ≤ (src ++ more).length := by rw [List.length_append]; omega
  obtain ⟨hmagicEq, htyEq, hlenEq⟩ := header_append more hlen
  by_cases hmagic : src.take 4 = magic
  · match hty : FrameType.tryFrom (src.getD 4 0) with
    | .error failure =>
      rw [attempt_unknownType hlen hmagic hty,
        attempt_unknownType hlen' (hmagicEq.trans hmagic) (htyEq ▸ hty)]
      rfl
    | .ok ty =>
      have hsrc := attempt_header hlen hmagic hty
      have happend := attempt_header hlen' (hmagicEq.trans hmagic) (htyEq ▸ hty)
      rw [hlenEq] at happend
      by_cases hbig : maxFrameLen < lenField src
      · rw [happend, hsrc, if_pos hbig, if_pos hbig]
        rfl
      rw [if_neg hbig] at hsrc happend
      by_cases hshort : src.length < headerLen + (lenField src).toNat
      · exact absurd (hsrc.trans (if_pos hshort)) h
      have hlong : ¬ (src ++ more).length < headerLen + (lenField src).toNat := by
        rw [List.length_append]
        omega
      have hbody : (lenField src).toNat ≤ (src.drop headerLen).length := by
        rw [List.length_drop]
        omega
      rw [happend, hsrc, if_neg hshort, if_neg hlong, List.drop_append_of_le_length hlen,
        List.take_append_of_le_length hbody, List.drop_append_of_le_length hbody]
      rfl
  · rw [attempt_badMagic hlen hmagic, attempt_badMagic hlen' (hmagicEq ▸ hmagic)]
    rfl

/-- A decoded frame and the rest behind it are the buffer, header first. -/
theorem attempt_some {src rest : Bytes} {frame : Frame} (h : attempt src = .ok (some (frame, rest))) :
    headerLen ≤ src.length ∧ src.drop headerLen = frame.payload ++ rest := by
  have hlen : headerLen ≤ src.length := not_lt.mp fun hshort ↦ by
    rw [attempt_short hshort] at h
    cases h
  refine ⟨hlen, ?_⟩
  by_cases hmagic : src.take 4 = magic
  · match hty : FrameType.tryFrom (src.getD 4 0) with
    | .error failure => rw [attempt_unknownType hlen hmagic hty] at h; cases h
    | .ok ty =>
      rw [attempt_header hlen hmagic hty] at h
      split_ifs at h
      · cases h
      · cases h
        exact (List.take_append_drop _ _).symm
  · rw [attempt_badMagic hlen hmagic] at h
    cases h

/-- `FrameCodec` as an incremental stream decoder. -/
def streamDecoder : StreamDecoder UInt8 Frame Error where
  decode := attempt
  decode_nil := rfl
  item_stable more h := by
    rw [attempt_append _ more (by rw [h]; simp), h]
    rfl
  error_stable more h := by
    rw [attempt_append _ more (by rw [h]; simp), h]
    rfl
  progress h := by
    obtain ⟨hlen, hdrop⟩ := attempt_some h
    have hsize := congrArg List.length hdrop
    simp only [List.length_drop, List.length_append, headerLen] at hsize hlen
    omega

/-! ## Decoding what was encoded -/

theorem attempt_encode (frame : Frame) (more : Bytes)
    (hsize : frame.payload.length ≤ maxFrameLen.toNat) :
    attempt (frame.encode ++ more) = .ok (some (frame, more)) := by
  have hmax : maxFrameLen.toNat = 1048576 := rfl
  have hfits : frame.payload.length < 2 ^ 32 := by omega
  have hlenNat : (UInt32.ofNat frame.payload.length).toNat = frame.payload.length := by
    rw [UInt32.toNat_ofNat_of_lt' hfits]
  have hfield : lenField (frame.encode ++ more) = UInt32.ofNat frame.payload.length := by
    simp only [lenField, Frame.encode, magic, List.cons_append, List.nil_append, List.append_assoc,
      List.drop_succ_cons, List.drop_zero]
    rw [List.take_append_of_le_length (by simp), List.take_of_length_le (by simp), hlenNat,
      leNat_leBytes (by omega)]
  have hdrop : (frame.encode ++ more).drop headerLen = frame.payload ++ more := by
    simp only [Frame.encode, magic, headerLen, List.cons_append, List.nil_append, List.append_assoc,
      List.drop_succ_cons]
    exact List.drop_left' (length_leBytes 4 _)
  have hlen : (frame.encode ++ more).length = headerLen + frame.payload.length + more.length := by
    simp only [Frame.encode, magic, headerLen, List.length_append, List.length_cons, List.length_nil,
      length_leBytes]
  have hbound : ¬ maxFrameLen < UInt32.ofNat frame.payload.length := by
    rw [UInt32.lt_iff_toNat_lt, hlenNat]
    omega
  have hty : FrameType.tryFrom ((frame.encode ++ more).getD 4 0) = .ok frame.ty :=
    FrameType.tryFrom_toUInt8 frame.ty
  rw [attempt_header (by omega) rfl hty, hfield, if_neg hbound, if_neg (by rw [hlenNat]; omega),
    hlenNat, hdrop, List.take_left' rfl, List.drop_left' rfl]

/-- The encoder appends exactly the bytes of `Frame.encode`. -/
theorem encode_eq_append (frame : Frame) (dst : Bytes)
    (hsize : frame.payload.length ≤ maxFrameLen.toNat) :
    encode frame dst = (.ok (), dst ++ frame.encode) := by
  simp only [encode, Frame.encode, if_neg hsize.not_gt, List.append_assoc]

/-! ## Streams of frames -/

theorem decode_none_buffer {src rest : Bytes} (h : decode src = (.ok none, rest)) : rest = src := by
  have hattempt : attempt src = .ok none := by rw [attempt, h]
  by_cases hlen : headerLen ≤ src.length
  · by_cases hmagic : src.take 4 = magic
    · match hty : FrameType.tryFrom (src.getD 4 0) with
      | .error failure => rw [attempt_unknownType hlen hmagic hty] at hattempt; cases hattempt
      | .ok ty =>
        unfold decode at h
        rw [if_neg hlen.not_gt, if_neg (not_not.mpr hmagic), hty] at h
        dsimp only at h
        split_ifs at h
        · cases h
        · exact (Prod.mk.inj h).2.symm
        · cases h
    · rw [attempt_badMagic hlen hmagic] at hattempt
      cases hattempt
  · rw [decode, if_pos (not_le.mp hlen)] at h
    exact (Prod.mk.inj h).2.symm

theorem decode_some_shorter {src rest : Bytes} {frame : Frame}
    (h : decode src = (.ok (some frame), rest)) : rest.length < src.length :=
  have hattempt : attempt src = .ok (some (frame, rest)) := by rw [attempt, h]
  streamDecoder.progress hattempt

/-- Run `decode` until it yields nothing more, stopping at the first error. -/
def decodeAll (src : Bytes) : StreamDecoder.Result UInt8 Frame Error :=
  match _h : decode src with
  | (.error failure, _) => ⟨[], .error failure⟩
  | (.ok none, rest) => ⟨[], .ok rest⟩
  | (.ok (some frame), rest) =>
    let tail := decodeAll rest
    ⟨frame :: tail.items, tail.outcome⟩
termination_by src.length
decreasing_by exact decode_some_shorter _h

/-- Append each read to the buffer and run `decodeAll` on it, stopping at the first error. -/
def decodeReads (src : Bytes) : List Bytes → StreamDecoder.Result UInt8 Frame Error
  | [] => ⟨[], .ok src⟩
  | read :: reads =>
    match decodeAll (src ++ read) with
    | ⟨frames, .error failure⟩ => ⟨frames, .error failure⟩
    | ⟨frames, .ok rest⟩ =>
      let tail := decodeReads rest reads
      ⟨frames ++ tail.items, tail.outcome⟩

theorem decodeAll_eq_drain (src : Bytes) : decodeAll src = streamDecoder.drain src := by
  induction hsize : src.length using Nat.strong_induction_on generalizing src with
  | _ size ih =>
    subst hsize
    rw [decodeAll]
    split
    · next failure rest h =>
      exact (streamDecoder.drain_error (show attempt src = _ by rw [attempt, h])).symm
    · next rest h =>
      rw [decode_none_buffer h]
      exact (streamDecoder.drain_none (show attempt src = _ by rw [attempt, h])).symm
    · next frame rest h =>
      rw [ih rest.length (decode_some_shorter h) rest rfl]
      exact (streamDecoder.drain_some (show attempt src = _ by rw [attempt, h])).symm

theorem decodeReads_eq_feed (src : Bytes) (reads : List Bytes) :
    decodeReads src reads = streamDecoder.feed src reads := by
  induction reads generalizing src with
  | nil => rfl
  | cons read reads ih =>
    rw [decodeReads, StreamDecoder.feed, decodeAll_eq_drain]
    generalize streamDecoder.drain (src ++ read) = drained
    obtain ⟨frames, failure | rest⟩ := drained
    · rfl
    · simp only [ih rest]

/-- The frames decoded from a stream, and how its decoding ends, do not depend on how the
transport cuts it into reads; and frames within the size limit come back exactly, with no byte
left, from their encodings cut in any way. -/
theorem frame_stream_independent_of_reads :
    (∀ reads : List Bytes, decodeReads [] reads = decodeAll reads.flatten) ∧
    ∀ frames : List Frame, (∀ frame ∈ frames, frame.payload.length ≤ maxFrameLen.toNat) →
      ∀ reads : List Bytes, reads.flatten = frames.flatMap Frame.encode →
        decodeReads [] reads = ⟨frames, .ok []⟩ := by
  have hreads (reads : List Bytes) : decodeReads [] reads = decodeAll reads.flatten := by
    rw [decodeReads_eq_feed, decodeAll_eq_drain, streamDecoder.feed_eq_drain [] reads rfl,
      List.nil_append]
  refine ⟨hreads, fun frames hsize reads hwire ↦ ?_⟩
  rw [hreads, hwire, decodeAll_eq_drain]
  exact streamDecoder.drain_flatMap_encode Frame.encode frames
    fun frame hmem more ↦ attempt_encode frame more (hsize frame hmem)

/-- Two frames whose bytes arrive in three reads, cut inside the first header and inside the
second payload. -/
theorem frame_stream_independent_of_reads_split :
    decodeReads [] [[0x41, 0x43, 0x50],
        [0x31, 0x30, 0, 0, 0, 0, 0x41, 0x43, 0x50, 0x31, 0x01, 2, 0, 0, 0, 7], [9]] =
      ⟨[⟨.ping, []⟩, ⟨.hello, [7, 9]⟩], .ok []⟩ :=
  frame_stream_independent_of_reads.2 [⟨.ping, []⟩, ⟨.hello, [7, 9]⟩] (by decide) _ (by decide)

end FrameCodec

end AirClip
