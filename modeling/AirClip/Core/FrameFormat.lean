import AirClip.Core.Frame

/-!
# The frame format

`Frame.decode` parses a buffer that is left alone, and `FrameCodec.decode` takes frames off one.  They
reach the same verdict on every buffer, with the same error where there are several to report, and
the codec takes off exactly the bytes the parser reports as consumed.  The format is canonical: what
is accepted is the encoding of the frame it is accepted as.
-/

open Foundation

namespace AirClip

namespace FrameType

/-- One row of the table of `tryFrom`. -/
theorem of_row {byte row : UInt8} {ty rowTy : FrameType} {rows : Except Error FrameType}
    (h : (if byte = row then .ok rowTy else rows) = .ok ty) :
    (byte = row ∧ rowTy = ty) ∨ rows = .ok ty := by
  split_ifs at h with hbyte
  · exact .inl ⟨hbyte, Except.ok.inj h⟩
  · exact .inr h

/-- A type is accepted from its own byte only. -/
theorem toUInt8_of_tryFrom {byte : UInt8} {ty : FrameType} (h : tryFrom byte = .ok ty) :
    ty.toUInt8 = byte := by
  unfold tryFrom at h
  iterate 14
    obtain ⟨rfl, rfl⟩ | h := of_row h
    · rfl
  cases h

end FrameType

/-! ## The one-shot parser -/

namespace Frame

/-- Parse one complete frame from `buf`: the frame and the number of bytes consumed, or nothing if
more bytes are needed. -/
def decode (buf : Bytes) : Except Error (Option (Frame × ℕ)) :=
  if buf.length < headerLen then .ok none
  else if buf.take 4 ≠ magic then .error .badMagic
  else
    match FrameType.tryFrom (buf.getD 4 0) with
    | .error failure => .error failure
    | .ok ty =>
      let len := UInt32.ofNat (leNat ((buf.drop 5).take 4))
      if maxFrameLen < len then .error (.frameTooLarge len)
      else
        let total := headerLen + len.toNat
        if buf.length < total then .ok none
        else .ok (some (⟨ty, (buf.take total).drop headerLen⟩, total))

/-- The bytes a verdict consumes: those of the frame, and none without one. -/
def consumed : Except Error (Option (Frame × ℕ)) → ℕ
  | .ok (some (_, used)) => used
  | .ok none | .error _ => 0

end Frame

namespace FrameCodec

/-- The codec reports what the parser reports, and takes off what the parser consumes. -/
theorem decode_eq (buf : Bytes) : decode buf =
    ((Frame.decode buf).map (Option.map Prod.fst), buf.drop (Frame.consumed (Frame.decode buf))) := by
  unfold decode Frame.decode
  by_cases hlen : buf.length < headerLen
  · rw [if_pos hlen, if_pos hlen]
    rfl
  rw [if_neg hlen, if_neg hlen]
  by_cases hmagic : buf.take 4 ≠ magic
  · rw [if_pos hmagic, if_pos hmagic]
    rfl
  rw [if_neg hmagic, if_neg hmagic]
  cases FrameType.tryFrom (buf.getD 4 0) with
  | error failure => rfl
  | ok ty =>
    generalize UInt32.ofNat (leNat ((buf.drop 5).take 4)) = len
    dsimp only
    by_cases hbig : maxFrameLen < len
    · rw [if_pos hbig, if_pos hbig]
      rfl
    rw [if_neg hbig, if_neg hbig]
    by_cases hshort : buf.length < headerLen + len.toNat
    · rw [if_pos hshort, if_pos hshort]
      rfl
    rw [if_neg hshort, if_neg hshort]
    have hpayload : (buf.drop headerLen).take len.toNat =
        (buf.take (headerLen + len.toNat)).drop headerLen := by
      rw [List.drop_take, Nat.add_sub_cancel_left]
    rw [hpayload, List.drop_drop]
    rfl

end FrameCodec

namespace Frame

/-- What is accepted is the encoding of the frame it is accepted as. -/
theorem encode_of_decode {buf : Bytes} {frame : Frame} {used : ℕ}
    (h : decode buf = .ok (some (frame, used))) :
    used ≤ buf.length ∧ frame.encode = buf.take used := by
  unfold decode at h
  by_cases hlen : buf.length < headerLen
  · rw [if_pos hlen] at h
    cases h
  rw [if_neg hlen] at h
  by_cases hmagic : buf.take 4 ≠ magic
  · rw [if_pos hmagic] at h
    cases h
  rw [if_neg hmagic] at h
  split at h
  · cases h
  next ty hty =>
  dsimp only at h
  split_ifs at h with hbig hshort
  · cases h
  cases h
  have hlen' : 9 ≤ buf.length := not_lt.mp hlen
  have hheader : ((buf.drop 5).take 4).length = 4 := by
    rw [List.length_take, List.length_drop]
    omega
  have hnat : (UInt32.ofNat (leNat ((buf.drop 5).take 4))).toNat = leNat ((buf.drop 5).take 4) := by
    apply UInt32.toNat_ofNat_of_lt'
    calc leNat ((buf.drop 5).take 4) < 256 ^ ((buf.drop 5).take 4).length := leNat_lt _
      _ = 2 ^ 32 := by rw [hheader]; norm_num
  generalize hfield : UInt32.ofNat (leNat ((buf.drop 5).take 4)) = len at hshort hnat ⊢
  have htotal : headerLen + len.toNat ≤ buf.length := not_lt.mp hshort
  have hpayload : ((buf.take (headerLen + len.toNat)).drop headerLen).length = len.toNat := by
    rw [List.length_drop, List.length_take, min_eq_left htotal]
    omega
  have hbytes : leBytes 4 len.toNat = (buf.drop 5).take 4 := by
    have hinverse := leBytes_leNat ((buf.drop 5).take 4)
    rwa [hheader, ← hnat] at hinverse
  have htype : [ty.toUInt8] = (buf.drop 4).take 1 := by
    have hbyte : buf.getD 4 0 = buf[4] := by
      rw [List.getD_eq_getElem?_getD, List.getElem?_eq_getElem (by omega), Option.getD_some]
    rw [FrameType.toUInt8_of_tryFrom hty, hbyte, List.drop_eq_getElem_cons (by omega : 4 < buf.length)]
    rfl
  refine ⟨htotal, ?_⟩
  calc encode ⟨ty, (buf.take (headerLen + len.toNat)).drop headerLen⟩
    _ = magic ++ [ty.toUInt8] ++ leBytes 4 len.toNat ++
          (buf.take (headerLen + len.toNat)).drop headerLen := by
        rw [encode, hpayload, UInt32.ofNat_toNat]
    _ = buf.take 4 ++ (buf.drop 4).take 1 ++ (buf.drop 5).take 4 ++
          (buf.take (headerLen + len.toNat)).drop headerLen := by
        rw [not_not.mp hmagic, htype, hbytes]
    _ = buf.take 9 ++ (buf.take (headerLen + len.toNat)).drop headerLen := by
        rw [← List.take_add, ← List.take_add]
    _ = buf.take (headerLen + len.toNat) := by
        rw [List.drop_take, Nat.add_sub_cancel_left, headerLen, ← List.take_add]

/-- The parser reads back what the encoder wrote, whatever comes behind. -/
theorem decode_encode (frame : Frame) (suffix : Bytes)
    (hsize : frame.payload.length ≤ maxFrameLen.toNat) :
    decode (frame.encode ++ suffix) = .ok (some (frame, frame.encode.length)) := by
  have hattempt := FrameCodec.attempt_encode frame suffix hsize
  rw [FrameCodec.attempt, FrameCodec.decode_eq] at hattempt
  rcases hdecode : decode (frame.encode ++ suffix) with failure | (- | ⟨frame', used⟩)
  · rw [hdecode] at hattempt
    cases hattempt
  · rw [hdecode] at hattempt
    cases hattempt
  · rw [hdecode] at hattempt
    simp only [Except.map, Option.map, consumed, Except.ok.injEq, Option.some.injEq,
      Prod.mk.injEq] at hattempt
    obtain ⟨rfl, hrest⟩ := hattempt
    have hused := congrArg List.length hrest
    have hbound := (encode_of_decode hdecode).1
    rw [List.length_drop] at hused
    rw [List.length_append] at hused hbound
    rw [show used = frame'.encode.length by omega]

end Frame

namespace FrameCodec

/-- The two decoders agree on every buffer and the two encoders on every frame, and the format is
canonical: accepted bytes are the encoding of their frame, and every encoding is accepted as the
frame it encodes. -/
theorem decoders_agree_and_format_canonical :
    (∀ buf, decode buf = ((Frame.decode buf).map (Option.map Prod.fst),
        buf.drop (Frame.consumed (Frame.decode buf))) ∧
      ∀ frame used, Frame.decode buf = .ok (some (frame, used)) →
        used ≤ buf.length ∧ frame.encode = buf.take used) ∧
    (∀ frame suffix, frame.payload.length ≤ maxFrameLen.toNat →
      Frame.decode (frame.encode ++ suffix) = .ok (some (frame, frame.encode.length)) ∧
        decode (frame.encode ++ suffix) = (.ok (some frame), suffix)) ∧
    ∀ frame dst, (frame.payload.length ≤ maxFrameLen.toNat →
        encode frame dst = (.ok (), dst ++ frame.encode)) ∧
      (maxFrameLen.toNat < frame.payload.length → encode frame dst =
        (.error (.frameTooLarge (UInt32.ofNat frame.payload.length)), dst)) := by
  refine ⟨fun buf ↦ ⟨decode_eq buf, fun frame used h ↦ Frame.encode_of_decode h⟩,
    fun frame suffix hsize ↦ ?_, fun frame dst ↦ ⟨encode_eq_append frame dst, fun hbig ↦ if_pos hbig⟩⟩
  have hdecode := Frame.decode_encode frame suffix hsize
  refine ⟨hdecode, ?_⟩
  rw [decode_eq, hdecode]
  simp [Except.map, Frame.consumed]

/-- A PONG of two bytes in front of others, and one whose payload is a byte over the limit. -/
theorem decoders_agree_and_format_canonical_pong :
    decode ([0x41, 0x43, 0x50, 0x31, 0x31, 2, 0, 0, 0, 7, 9] ++ [1]) = (.ok (some ⟨.pong, [7, 9]⟩), [1]) ∧
      Frame.encode ⟨.pong, [7, 9]⟩ = [0x41, 0x43, 0x50, 0x31, 0x31, 2, 0, 0, 0, 7, 9] ∧
      encode ⟨.pong, [7, 9]⟩ [3] = (.ok (), [3] ++ Frame.encode ⟨.pong, [7, 9]⟩) ∧
      encode ⟨.pong, List.replicate 1048577 0⟩ [3] = (.error (.frameTooLarge 1048577), [3]) := by
  obtain ⟨hdecode, hencode, happend⟩ := decoders_agree_and_format_canonical
  have hbig := (happend ⟨.pong, List.replicate 1048577 0⟩ [3]).2
  rw [List.length_replicate] at hbig
  exact ⟨(hencode ⟨.pong, [7, 9]⟩ [1] (by decide)).2,
    ((hdecode [0x41, 0x43, 0x50, 0x31, 0x31, 2, 0, 0, 0, 7, 9]).2 ⟨.pong, [7, 9]⟩ 11 (by rfl)).2,
    (happend ⟨.pong, [7, 9]⟩ [3]).1 (by decide), hbig (by decide)⟩

end FrameCodec

end AirClip
