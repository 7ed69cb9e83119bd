import AirClip.Core.StageLog
import AirClip.Traffic.StagedPull

/-!
# Sizes of frames

A sealed payload is the counter, the ciphertext and the tag, so that a frame is 24 bytes longer than
the map in it.  Everything a session seals is far below the limit of the codec: clips because their
bodies are bounded, lists because the ring is shallow and previews are short, and replies because they
say little.
-/

open Foundation Cbor

namespace AirClip

/-! ## Frames the codec takes -/

/-- The codec takes the frame on both ends: the encoder appends it, and the decoder waits for the whole
of it and then takes it off, whatever comes behind. -/
structure Frame.FitsWire (frame : Frame) : Prop where
  size : frame.payload.length ≤ maxFrameLen.toNat
  encodes : ∀ dst, FrameCodec.encode frame dst = (.ok (), dst ++ frame.encode)
  waits : ∀ arrived, arrived <+: frame.encode → arrived ≠ frame.encode →
    FrameCodec.decode arrived = (.ok none, arrived)
  decodes : ∀ more, FrameCodec.decode (frame.encode ++ more) = (.ok (some frame), more)

namespace FrameCodec

theorem decode_of_attempt_none {src : Bytes} (h : attempt src = .ok none) :
    decode src = (.ok none, src) := by
  unfold attempt at h
  split at h
  · cases h
  · next rest hdecode => rw [hdecode, decode_none_buffer hdecode]
  · cases h

theorem decode_of_attempt_some {src rest : Bytes} {frame : Frame}
    (h : attempt src = .ok (some (frame, rest))) : decode src = (.ok (some frame), rest) := by
  unfold attempt at h
  split at h
  · cases h
  · cases h
  · next hdecode =>
    cases h
    exact hdecode

/-- A part of a frame is neither taken for another frame nor rejected. -/
theorem attempt_prefix {frame : Frame} (hsize : frame.payload.length ≤ maxFrameLen.toNat)
    {arrived rest : Bytes} (hsplit : arrived ++ rest = frame.encode) (hrest : rest ≠ []) :
    attempt arrived = .ok none := by
  by_contra hverdict
  have happend := attempt_append arrived rest hverdict
  have hwhole := attempt_encode frame [] hsize
  rw [List.append_nil, ← hsplit, happend] at hwhole
  match hattempt : attempt arrived with
  | .error failure =>
    rw [hattempt] at hwhole
    cases hwhole
  | .ok none => exact hverdict hattempt
  | .ok (some (taken, behind)) =>
    rw [hattempt] at hwhole
    have hbehind : behind ++ rest = [] := congrArg Prod.snd (Option.some.inj (Except.ok.inj hwhole))
    exact hrest (List.append_eq_nil_iff.mp hbehind).2

end FrameCodec

theorem Frame.fitsWire {frame : Frame} (hsize : frame.payload.length ≤ maxFrameLen.toNat) :
    frame.FitsWire where
  size := hsize
  encodes dst := FrameCodec.encode_eq_append frame dst hsize
  waits := by
    rintro arrived ⟨rest, hsplit⟩ hne
    apply FrameCodec.decode_of_attempt_none
    apply FrameCodec.attempt_prefix hsize hsplit
    rintro rfl
    exact hne (by rwa [List.append_nil] at hsplit)
  decodes more := FrameCodec.decode_of_attempt_some (FrameCodec.attempt_encode frame more hsize)

/-! ## Sealed payloads -/

/-- A ciphertext of ChaCha20-Poly1305 is as long as its message and the tag of 16 bytes. -/
class AeadOverhead [Primitives] : Prop where
  length_encrypt : ∀ {key nonce message aad ciphertext},
    Primitives.aeadEncrypt key nonce message aad = some ciphertext →
      ciphertext.length = message.length + 16

section Sizes

variable [Primitives] [AeadOverhead]

theorem AeadChannel.sealPayload_length {channel channel' : AeadChannel} {ty : FrameType}
    {plain payload : Bytes} (h : channel.sealPayload ty plain = (.ok payload, channel')) :
    payload.length = plain.length + 24 := by
  obtain ⟨ct, hencrypt, -, rfl, -⟩ := sealPayload_eq_ok h
  rw [List.length_append, length_le64, AeadOverhead.length_encrypt hencrypt]
  omega

namespace Session

theorem sealFrame_length {session session' : Session} {ty : FrameType} {plain : Bytes}
    {frame : Frame} (h : session.sealFrame ty plain = (.ok frame, session')) :
    frame.payload.length = plain.length + 24 := by
  obtain ⟨channel, payload, channel', -, hpayload, rfl, -⟩ := sealFrame_eq_ok h
  exact AeadChannel.sealPayload_length hpayload

variable [Ciborium]

/-- A frame built from a map fits if the map does. -/
theorem sealMap_fitsWire {session session' : Session} {ty : FrameType} {builder : MapBuilder}
    {plain : Bytes} {frame : Frame} (hplain : builder.toVec = .ok plain)
    (hlength : plain.length ≤ 1048552) (h : session.sealMap ty builder = (.ok frame, session')) :
    frame.FitsWire := by
  rw [sealMap, hplain] at h
  apply Frame.fitsWire
  rw [sealFrame_length h]
  change _ ≤ 1048576
  omega

variable [Ciborium.Lawful]

/-! ## Clips -/

omit [Primitives] [AeadOverhead] in
/-- A CLIP_PUSH is as long as its body and the source name, and little more. -/
theorem clipPushMap_length_le (clipId : Octets 8) (contentType : ContentType) {body : Bytes}
    {sourceName : String} (nowMs : UInt64) (hbody : body.length < 2 ^ 64)
    (hname : (utf8 sourceName).length < 2 ^ 64) :
    ∃ plain, (clipPushMap clipId contentType body sourceName nowMs).toVec = .ok plain ∧
      plain.length ≤ 128 + body.length + (utf8 sourceName).length := by
  obtain ⟨plain, hvec, -, hpayload⟩ := clipPushMap_toVec clipId contentType nowMs hbody hname
  refine ⟨plain, hvec, ?_⟩
  have hid := encode_bytes_length_le clipId.toList
  rw [clipId.toList_length] at hid
  have htype := encode_integer_length_le contentType.toUInt8.toUInt64.toNat
  have hbody' := encode_bytes_length_le body
  have hcreated := encode_integer_length_le nowMs.toNat
  have hname' := encode_text_length_le sourceName
  have hmap := encode_integerMap_length_le
    (clipPushReader clipId contentType body sourceName nowMs).entries
  rw [hpayload]
  simp only [clipPushReader, List.map_cons, List.map_nil, List.sum_cons, List.sum_nil] at hmap ⊢
  omega

theorem pushClip_fitsWire {session session' : Session} {contentType : ContentType} {body : Bytes}
    {sourceName : String} {nowMs : UInt64} {randomId : Option (Octets 8)} {frame : Frame}
    {clipId : Octets 8} (hname : (utf8 sourceName).length ≤ 524288)
    (h : session.pushClip contentType body sourceName nowMs randomId =
      (.ok (frame, clipId), session')) : frame.FitsWire := by
  have hmax : maxTextClip = 262144 := rfl
  unfold pushClip at h
  split_ifs at h with hlarge
  · cases h
  split at h
  · cases h
  split at h
  · cases h
  next hbuilt =>
  cases h
  obtain ⟨plain, hplain, hlength⟩ := clipPushMap_length_le clipId contentType nowMs
    (by omega : body.length < 2 ^ 64) (by omega : (utf8 sourceName).length < 2 ^ 64)
  exact sealMap_fitsWire hplain (by omega) hbuilt

/-! ## Staged clips -/

theorem sendStageItem_fitsWire {session session' : Session} {clip : StagedClip} {frame : Frame}
    (hbody : clip.body.length ≤ maxTextClip)
    (h : session.sendStageItem clip = (.ok frame, session')) : frame.FitsWire := by
  have hmax : maxTextClip = 262144 := rfl
  obtain ⟨plain, -, hplain, -, -, hlength⟩ :=
    stageItemMap_reads (by omega : clip.body.length < 2 ^ 64)
  exact sealMap_fitsWire hplain (by omega) h

theorem sendStageList_fitsWire {session session' : Session} {ring : StageRing} {frame : Frame}
    (hdepth : ring.depth ≤ stageDepth) (h : session.sendStageList ring.list = (.ok frame, session')) :
    frame.FitsWire := by
  have hrows : ring.list.length ≤ 5 := by
    rw [StageRing.list, List.length_map, List.length_reverse]
    exact ring.bounded.trans hdepth
  have hpreviews : ∀ entry ∈ ring.list, (utf8 entry.preview).length ≤ 480 := by
    intro entry hmem
    obtain ⟨clip, -, rfl⟩ := List.mem_map.mp hmem
    exact previewOf_length_le clip.body
  obtain ⟨plain, -, hplain, -, -, hlength⟩ := stageListMap_reads
    (by omega : ring.list.length < 2 ^ 64)
    (fun entry hmem ↦ (hpreviews entry hmem).trans_lt (by omega))
  have hbound := hlength 480 hpreviews
  exact sealMap_fitsWire hplain (by omega) h

/-! ## Replies -/

/-- All that is sent is short. -/
def Brief (result : Session × List SessionAction) : Prop :=
  ∀ frame ∈ sentFrames result.2, frame.payload.length ≤ 1024

omit [AeadOverhead] [Ciborium] [Ciborium.Lawful] in
theorem brief_fail (session : Session) (why : String) : Brief (session.fail why) := by
  simp [Brief, fail, sentFrames]

omit [AeadOverhead] [Ciborium] [Ciborium.Lawful] in
theorem brief_emit (session : Session) (event : SessionEvent) : Brief (session, [.emit event]) := by
  simp [Brief, sentFrames]

theorem brief_wireError (session : Session) (code : WireErrorCode) {msg : String}
    (hmsg : (utf8 msg).length ≤ 512) : Brief (session.wireError code msg) := by
  obtain ⟨plain, -, hplain, -, -, -, hlength⟩ :=
    wireErrorMap_reads code (by omega : (utf8 msg).length < 2 ^ 64)
  unfold wireErrorMap at hplain
  unfold wireError
  rw [hplain]
  dsimp only [Except.toOption, Option.getD_some]
  split
  · simp [Brief, sentFrames]
  split
  · next payload channel' hseal =>
    have hsealed := AeadChannel.sealPayload_length hseal
    simp only [Brief, sentFrames, List.filterMap_cons, List.filterMap_nil, List.mem_singleton,
      forall_eq]
    omega
  · simp [Brief, sentFrames]

theorem onClipPush_brief (session : Session) (plain : Bytes) : Brief (session.onClipPush plain) := by
  unfold onClipPush
  split
  · exact brief_fail _ _
  split
  · exact brief_fail _ _
  next clipId ct body hread =>
  dsimp only
  split_ifs
  · exact session.brief_wireError _ (by decide +kernel)
  · exact session.brief_wireError _ (by decide +kernel)
  split
  · exact brief_fail _ _
  split
  · exact brief_fail _ _
  next ack hack =>
  split
  · exact brief_fail _ _
  next ackFrame session' hseal =>
  obtain ⟨payload, -, hvec, -, -, -, hlength⟩ := clipAckMap_reads clipId
  cases hack.symm.trans hvec
  have hsealed := sealFrame_length hseal
  simp only [Brief, sentFrames, List.filterMap_cons, List.filterMap_nil, List.mem_singleton,
    forall_eq]
  omega

omit [Ciborium] [Ciborium.Lawful] in
theorem onPing_brief (session : Session) : Brief session.onPing := by
  unfold onPing
  split
  · next frame session' hseal =>
    have hsealed := sealFrame_length hseal
    simp only [Brief, sentFrames, List.filterMap_cons, List.filterMap_nil, List.mem_singleton,
      forall_eq]
    rw [List.length_nil] at hsealed
    omega
  · exact brief_fail _ _

theorem onPlain_brief (session : Session) (ty : FrameType) (plain : Bytes) :
    Brief (session.onPlain ty plain) := by
  cases ty with
  | clipPush => exact session.onClipPush_brief plain
  | ping => exact session.onPing_brief
  | clipAck =>
    change Brief (session.onClipAck plain)
    unfold onClipAck
    repeat' split
    all_goals first | exact brief_fail _ _ | exact brief_emit _ _
  | stageList =>
    change Brief (session.onStageList plain)
    unfold onStageList
    repeat' split
    all_goals first | exact brief_fail _ _ | exact brief_emit _ _
  | stageGet =>
    change Brief (session.onStageGet plain)
    unfold onStageGet
    repeat' split
    all_goals first | exact brief_fail _ _ | exact brief_emit _ _
  | stageItem =>
    change Brief (session.onStageItem plain)
    unfold onStageItem
    repeat' split
    all_goals first | exact brief_fail _ _ | exact brief_emit _ _
  | stageListReq => exact brief_emit _ _
  | pong | error => simp [Brief, onPlain, onError, sentFrames]
  | hello | helloAck | pairReq | pairAck | pairConfirm => exact brief_fail _ _

theorem onHello_brief (session : Session) (frame : Frame) (nowMs : UInt64) (seed : Option Key32) :
    Brief (session.onHello frame nowMs seed) := by
  unfold onHello
  split
  · exact brief_fail _ _
  split
  · exact brief_fail _ _
  next hello hread =>
  split_ifs
  · exact session.brief_wireError _ (by decide +kernel)
  · exact brief_fail _ _
  dsimp only
  split
  · exact brief_fail _ _
  next peer hpeer =>
  split
  · exact brief_fail _ _
  split_ifs
  · exact brief_fail _ _
  split
  · exact brief_fail _ _
  next eph heph =>
  split
  · exact brief_fail _ _
  split
  · exact brief_fail _ _
  next payload hpayload =>
  cases hpayload.symm.trans (session.ackMap_toVec hello peer eph)
  have heph := encode_bytes_length_le eph.publicBytes.toList
  have hmac := encode_bytes_length_le (keyedMac (session.identity.dh peer.publicKey)
    (ackMacBasis eph.publicBytes hello.ephPkI)).toList
  have hmap := encode_integerMap_length_le (helloAckEntries (session.identity.dh peer.publicKey)
    eph.publicBytes hello.ephPkI)
  simp only [helloAckEntries, List.Vector.toList_length, List.map_cons, List.map_nil, List.sum_cons,
    List.sum_nil] at heph hmac hmap
  simp only [Brief, sentFrames, List.filterMap_cons, List.filterMap_nil, List.mem_singleton,
    forall_eq, helloAckPayload, helloAckEntries]
  omega

omit [AeadOverhead] [Ciborium.Lawful] in
theorem onHelloAck_brief (session : Session) (frame : Frame) : Brief (session.onHelloAck frame) := by
  unfold onHelloAck
  split
  · exact brief_fail _ _
  split
  · exact brief_fail _ _
  split
  · dsimp only
    split_ifs
    · exact brief_fail _ _
    split
    · exact brief_fail _ _
    · exact brief_emit _ _
  · exact brief_fail _ _

theorem onFrame_brief (session : Session) (frame : Frame) (nowMs : UInt64) (seed : Option Key32) :
    Brief (session.onFrame frame nowMs seed) := by
  unfold onFrame
  split_ifs
  · simp [Brief, sentFrames]
  dsimp only
  split
  · exact onHello_brief _ _ _ _
  · exact onHelloAck_brief _ _
  · split_ifs
    · unfold onEncrypted
      split
      · exact brief_fail _ _
      split
      · exact brief_fail _ _
      · exact onPlain_brief _ _ _
    · exact brief_fail _ _
  · exact brief_fail _ _

/-- Every frame the two sides build fits the wire: clips, staged lists, staged items and replies. -/
theorem every_frame_fits (session : Session) :
    (∀ contentType body sourceName nowMs randomId frame clipId session',
      (utf8 sourceName).length ≤ 524288 →
      session.pushClip contentType body sourceName nowMs randomId =
        (.ok (frame, clipId), session') → frame.FitsWire) ∧
    (∀ calls frame session', session.sendStageList (StageRing.default.callAll calls).list =
      (.ok frame, session') → frame.FitsWire) ∧
    (∀ calls, ∀ clip ∈ (StageRing.default.callAll calls).items, ∀ frame session',
      session.sendStageItem clip = (.ok frame, session') → frame.FitsWire) ∧
    ∀ frame nowMs seed, ∀ reply ∈ sentFrames (session.onFrame frame nowMs seed).2,
      reply.FitsWire := by
  refine ⟨?_, ?_, ?_, ?_⟩
  · intro contentType body sourceName nowMs randomId frame clipId session' hname hpush
    exact pushClip_fitsWire hname hpush
  · intro calls frame session' hsend
    apply sendStageList_fitsWire _ hsend
    exact (StageRing.callAll_items stageDepth calls).1.le
  · intro calls clip hmem frame session' hsend
    apply sendStageItem_fitsWire _ hsend
    apply body_of_mem_acceptedSince
    rw [StageRing.default, (StageRing.callAll_items stageDepth calls).2] at hmem
    exact List.mem_of_mem_drop hmem
  · intro frame nowMs seed reply hmem
    apply Frame.fitsWire
    exact (session.onFrame_brief frame nowMs seed reply hmem).trans (by decide)

end Session

end Sizes

/-! ## A cipher with a tag -/

namespace Tagged

/-- A tag over everything that is sealed. -/
def tag (key : Key32) (nonce : Octets 12) (message aad : Bytes) : Bytes :=
  leBytes 16 (leNat key.toList + leNat nonce.toList + leNat message + leNat aad)

/-- The reference instances, with a tag in the place of the header. -/
scoped instance primitives : Primitives where
  x25519Base := Reference.primitives.x25519Base
  x25519 := Reference.primitives.x25519
  blake3 := Reference.primitives.blake3
  blake3Keyed := Reference.primitives.blake3Keyed
  hkdfSha256 := Reference.primitives.hkdfSha256
  aeadEncrypt key nonce message aad := some (message ++ tag key nonce message aad)
  aeadDecrypt key nonce ciphertext aad :=
    let message := ciphertext.take (ciphertext.length - 16)
    if ciphertext = message ++ tag key nonce message aad then some message else none

scoped instance ciborium : Ciborium := Reference.ciborium

scoped instance ciboriumLawful : Ciborium.Lawful := Reference.ciboriumLawful

scoped instance aeadOverhead : AeadOverhead where
  length_encrypt h := by
    obtain rfl := Option.some.inj h
    rw [List.length_append, tag, length_leBytes]

/-- An established session of the computer. -/
def established : Session :=
  { Session.newPc (.fromSeed (Reference.pad 32 [5])) [] 0 with
    channel := some (AeadChannel.new (Reference.pad 32 [1]) (Reference.pad 32 [2]))
    state := .established }

def calls : List RingCall := [.pushWithId (Reference.pad 8 [9]) .text [0xFF, 0x41] 7]

/-- A PING of the phone. -/
def pingFrame : Frame :=
  ⟨.ping, le64 0 ++ tag (Reference.pad 32 [2]) (AeadChannel.nonceFor 0) [] (AeadChannel.aadFor .ping)⟩

theorem returns {α : Type} (r : Except Error α × Session) (h : r.1.toOption.isSome) :
    ∃ value, r = (.ok value, r.2) := by
  obtain ⟨outcome, session⟩ := r
  cases outcome with
  | error failure => cases h
  | ok value => exact ⟨value, rfl⟩

end Tagged

open Tagged in
/-- A clip with its name, the list and the item of a ring with a clip that is not UTF-8, and a PONG. -/
theorem Session.every_frame_fits_four_frames :
    (∃ sent later, established.pushClip .text [0x68, 0x69] "PC" 5 (some (Reference.pad 8 [3])) =
      (.ok sent, later) ∧ sent.1.FitsWire) ∧
    (∃ frame later, established.sendStageList (StageRing.default.callAll calls).list =
      (.ok frame, later) ∧ frame.FitsWire) ∧
    (∃ clip ∈ (StageRing.default.callAll calls).items, ∃ frame later,
      established.sendStageItem clip = (.ok frame, later) ∧ frame.FitsWire) ∧
    ∃ frame, sentFrames (established.onFrame pingFrame 1 none).2 = [frame] ∧ frame.FitsWire := by
  obtain ⟨hpush, hlist, hitem, hreply⟩ := established.every_frame_fits
  refine ⟨?_, ?_, ?_, ?_⟩
  · obtain ⟨sent, hsent⟩ := returns (established.pushClip .text [0x68, 0x69] "PC" 5
      (some (Reference.pad 8 [3]))) (by decide +kernel)
    exact ⟨sent, _, hsent, hpush .text _ _ _ _ sent.1 sent.2 _ (by decide +kernel) hsent⟩
  · obtain ⟨frame, hframe⟩ := returns (established.sendStageList
      (StageRing.default.callAll calls).list) (by decide +kernel)
    exact ⟨frame, _, hframe, hlist calls frame _ hframe⟩
  · obtain ⟨frame, hframe⟩ := returns (established.sendStageItem
      ⟨Reference.pad 8 [9], .text, [0xFF, 0x41], 7⟩) (by decide +kernel)
    have hmem : ⟨Reference.pad 8 [9], .text, [0xFF, 0x41], 7⟩ ∈
        (StageRing.default.callAll calls).items := by decide +kernel
    exact ⟨_, hmem, frame, _, hframe, hitem calls _ hmem frame _ hframe⟩
  · have hsent : (sentFrames (established.onFrame pingFrame 1 none).2).length = 1 := by decide +kernel
    obtain ⟨frame, hframe⟩ := List.length_eq_one_iff.mp hsent
    refine ⟨frame, hframe, hreply pingFrame 1 none frame ?_⟩
    rw [hframe]
    exact List.mem_singleton_self frame

end AirClip
