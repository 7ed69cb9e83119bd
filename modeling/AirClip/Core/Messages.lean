import AirClip.Core.Nonces

/-!
# Messages of a session

Each outbound call writes a map, and an inbound handler reads one.  For every message the map reads
back to the arguments it was built from, once the codec is taken to read what it has written.  Byte
strings, texts and lists are shorter than `2 ^ 64`, as they are in memory.
-/

open Foundation Cbor

namespace AirClip

/-- A decoded content type is the one that was written. -/
@[simp]
theorem contentTypeOf_toUInt8 (contentType : ContentType) :
    contentTypeOf contentType.toUInt8.toUInt64 = some contentType := by
  have hbyte : contentType.toUInt8.toUInt64.toNat < 256 := by
    rw [UInt8.toNat_toUInt64]
    exact contentType.toUInt8.toNat_lt
  rw [contentTypeOf, if_pos hbyte, UInt8.toUInt8_toUInt64, ContentType.tryFrom_toUInt8]
  rfl

section Maps

variable [Ciborium] [Ciborium.Lawful]

/-- The codec writes a map of plain values with distinct keys, and reads its entries back. -/
theorem MapBuilder.toVec_reads (builder : MapBuilder) (r : MapReader)
    (hbuild : builder.build = integerMap r.entries) (hplain : Plain 8 (integerMap r.entries)) :
    ∃ payload, builder.toVec = .ok payload ∧ MapReader.fromSlice payload = .ok r ∧
      payload = encode (integerMap r.entries) := by
  obtain ⟨hvec, hslice⟩ := MapReader.fromSlice_toVec hbuild hplain r.nodup_keys
  exact ⟨_, hvec, hslice, rfl⟩

namespace Session

/-- The map of a CLIP_PUSH as its receiver reads it. -/
def clipPushReader (clipId : Octets 8) (contentType : ContentType) (body : Bytes)
    (sourceName : String) (nowMs : UInt64) : MapReader :=
  ⟨[(1, .bytes clipId.toList), (2, .integer contentType.toUInt8.toUInt64.toNat), (3, .bytes body),
    (4, .integer nowMs.toNat), (5, .text sourceName)], by simp⟩

theorem clipPushMap_toVec (clipId : Octets 8) (contentType : ContentType) {body : Bytes}
    {sourceName : String} (nowMs : UInt64) (hbody : body.length < 2 ^ 64)
    (hname : (utf8 sourceName).length < 2 ^ 64) :
    ∃ payload, (clipPushMap clipId contentType body sourceName nowMs).toVec = .ok payload ∧
      MapReader.fromSlice payload = .ok (clipPushReader clipId contentType body sourceName nowMs) ∧
      payload = encode (integerMap
        (clipPushReader clipId contentType body sourceName nowMs).entries) := by
  have hct := contentType.toUInt8.toNat_lt
  have hnow := nowMs.toNat_lt
  apply MapBuilder.toVec_reads (clipPushMap clipId contentType body sourceName nowMs) _ rfl
  simp [integerMap, clipPushReader, Plain]
  omega

theorem clipPushMap_reads (clipId : Octets 8) (contentType : ContentType) {body : Bytes}
    {sourceName : String} (nowMs : UInt64) (hbody : body.length < 2 ^ 64)
    (hname : (utf8 sourceName).length < 2 ^ 64) :
    ∃ payload r, (clipPushMap clipId contentType body sourceName nowMs).toVec = .ok payload ∧
      MapReader.fromSlice payload = .ok r ∧
      readClipPush r = some (clipId, contentType.toUInt8.toUInt64, body) ∧
      r.u64 SessionKey.createdAt = .ok nowMs ∧ r.text SessionKey.sourceName = .ok sourceName := by
  obtain ⟨payload, hvec, hslice, -⟩ := clipPushMap_toVec clipId contentType nowMs hbody hname
  set r := clipPushReader clipId contentType body sourceName nowMs with hr
  have hid : r.byteArray 8 SessionKey.clipId = .ok clipId :=
    r.byteArray_eq_ok.mpr (by simp [hr, clipPushReader, SessionKey.clipId])
  have htype : r.u64 SessionKey.contentType = .ok contentType.toUInt8.toUInt64 :=
    r.u64_eq_ok.mpr (by simp [hr, clipPushReader, SessionKey.contentType])
  have hread : r.bytes SessionKey.body = .ok body :=
    r.bytes_eq_ok.mpr (by simp [hr, clipPushReader, SessionKey.body])
  refine ⟨payload, r, hvec, hslice, by rw [readClipPush, hid, htype, hread], ?_, ?_⟩
  · exact r.u64_eq_ok.mpr (by simp [hr, clipPushReader, SessionKey.createdAt])
  · exact r.text_eq_ok.mpr (by simp [hr, clipPushReader, SessionKey.sourceName])

theorem clipAckMap_reads (clipId : Octets 8) :
    ∃ payload r, (clipAckMap clipId).toVec = .ok payload ∧ MapReader.fromSlice payload = .ok r ∧
      r.byteArray 8 SessionKey.ackClipId = .ok clipId ∧ r.u64 SessionKey.ackStatus = .ok 0 ∧
      payload.length ≤ 64 := by
  let r : MapReader := ⟨[(1, .bytes clipId.toList), (2, .integer 0)], by simp⟩
  have hplain : Plain 8 (integerMap r.entries) := by simp [integerMap, r, Plain]
  obtain ⟨payload, hvec, hslice, hpayload⟩ := MapBuilder.toVec_reads (clipAckMap clipId) r rfl hplain
  refine ⟨payload, r, hvec, hslice, ?_, ?_, ?_⟩
  · exact r.byteArray_eq_ok.mpr (by simp [r, SessionKey.ackClipId])
  · exact r.u64_eq_ok.mpr (by simp [r, SessionKey.ackStatus])
  · rw [hpayload]
    simp [r, integerMap, encode, encodeEntries, head]

/-! ## Staged clips -/

theorem stageGetMap_reads (stageId : Octets 8) :
    ∃ payload r, (MapBuilder.new.bytes SessionKey.stageId stageId.toList).toVec = .ok payload ∧
      MapReader.fromSlice payload = .ok r ∧ r.byteArray 8 SessionKey.stageId = .ok stageId ∧
      payload.length ≤ 64 := by
  let r : MapReader := ⟨[(1, .bytes stageId.toList)], by simp⟩
  have hplain : Plain 8 (integerMap r.entries) := by simp [integerMap, r, Plain]
  obtain ⟨payload, hvec, hslice, hpayload⟩ := MapBuilder.toVec_reads
    (MapBuilder.new.bytes SessionKey.stageId stageId.toList) r rfl hplain
  refine ⟨payload, r, hvec, hslice, r.byteArray_eq_ok.mpr (by simp [r, SessionKey.stageId]), ?_⟩
  rw [hpayload]
  simp [r, integerMap, encode, encodeEntries, head]

/-- The entries of one row of a staged list. -/
def stageMetaEntries (entry : StageMeta) : List (ℤ × Value) :=
  [(1, .bytes entry.stageId.toList), (2, .integer entry.contentType.toUInt8.toUInt64.toNat),
    (3, .text entry.preview), (4, .integer entry.size.toUInt64.toNat),
    (5, .integer entry.copiedAtMs.toNat)]

omit [Ciborium] [Ciborium.Lawful] in
theorem stageMetaMap_build (entry : StageMeta) :
    (stageMetaMap entry).build = integerMap (stageMetaEntries entry) := rfl

omit [Ciborium] [Ciborium.Lawful] in
/-- A row of a staged list reads back. -/
theorem readStageMeta_build (entry : StageMeta) :
    readStageMeta (stageMetaMap entry).build = .ok entry := by
  have hnodup : ((stageMetaEntries entry).map Prod.fst).Nodup := by simp [stageMetaEntries]
  let m : MapReader := ⟨stageMetaEntries entry, hnodup⟩
  have hvalue : MapReader.fromValue (stageMetaMap entry).build = .ok m :=
    MapReader.fromValue_integerMap _ hnodup
  have hid : m.byteArray 8 SessionKey.stageMetaId = .ok entry.stageId :=
    m.byteArray_eq_ok.mpr (by simp [m, stageMetaEntries, SessionKey.stageMetaId])
  have htype : m.u64 SessionKey.stageMetaType = .ok entry.contentType.toUInt8.toUInt64 :=
    m.u64_eq_ok.mpr (by simp [m, stageMetaEntries, SessionKey.stageMetaType])
  have hpreview : m.text SessionKey.stageMetaPreview = .ok entry.preview :=
    m.text_eq_ok.mpr (by simp [m, stageMetaEntries, SessionKey.stageMetaPreview])
  have hsize : m.u64 SessionKey.stageMetaSize = .ok entry.size.toUInt64 :=
    m.u64_eq_ok.mpr (by simp [m, stageMetaEntries, SessionKey.stageMetaSize])
  have hcopied : m.u64 SessionKey.stageMetaCopiedAt = .ok entry.copiedAtMs :=
    m.u64_eq_ok.mpr (by simp [m, stageMetaEntries, SessionKey.stageMetaCopiedAt])
  rw [readStageMeta, hvalue]
  simp only [hid, htype, hpreview, hsize, hcopied, contentTypeOf_toUInt8]
  simp

omit [Ciborium] [Ciborium.Lawful] in
theorem mapM_readStageMeta (items : List StageMeta) :
    (items.map fun entry ↦ (stageMetaMap entry).build).mapM readStageMeta = .ok items := by
  induction items with
  | nil => rfl
  | cons entry items ih =>
    rw [List.map_cons, List.mapM_cons, readStageMeta_build, ih]
    rfl

omit [Ciborium] [Ciborium.Lawful] in
/-- A row is as long as its preview, and little more. -/
theorem stageMetaMap_length_le (entry : StageMeta) :
    (encode (stageMetaMap entry).build).length ≤ 128 + (utf8 entry.preview).length := by
  have htype := encode_integer_length_le entry.contentType.toUInt8.toUInt64.toNat
  have hsize := encode_integer_length_le entry.size.toUInt64.toNat
  have hcopied := encode_integer_length_le entry.copiedAtMs.toNat
  have hpreview := encode_text_length_le entry.preview
  have hid := encode_bytes_length_le entry.stageId.toList
  rw [entry.stageId.toList_length] at hid
  have hmap := encode_integerMap_length_le (stageMetaEntries entry)
  rw [stageMetaMap_build]
  simp only [stageMetaEntries, List.map_cons, List.map_nil, List.sum_cons, List.sum_nil] at hmap ⊢
  omega

theorem stageListMap_reads {items : List StageMeta} (hlength : items.length < 2 ^ 64)
    (hpreviews : ∀ entry ∈ items, (utf8 entry.preview).length < 2 ^ 64) :
    ∃ payload r, (MapBuilder.new.array SessionKey.stageItems
        (items.map fun entry ↦ (stageMetaMap entry).build)).toVec = .ok payload ∧
      MapReader.fromSlice payload = .ok r ∧ r.array SessionKey.stageItems =
        .ok (items.map fun entry ↦ (stageMetaMap entry).build) ∧
      ∀ bound, (∀ entry ∈ items, (utf8 entry.preview).length ≤ bound) →
        payload.length ≤ 64 + items.length * (128 + bound) := by
  let r : MapReader :=
    ⟨[(1, .array (items.map fun entry ↦ (stageMetaMap entry).build))], by simp⟩
  have hentry : ∀ entry ∈ items, Plain 6 (stageMetaMap entry).build := by
    intro entry hmem
    have hpreview := hpreviews entry hmem
    have htype := entry.contentType.toUInt8.toNat_lt
    have hsize := entry.size.toNat_lt
    have hcopied := entry.copiedAtMs.toNat_lt
    rw [stageMetaMap_build]
    simp [integerMap, stageMetaEntries, Plain]
    omega
  have hplain : Plain 8 (integerMap r.entries) := by
    simpa [integerMap, r, Plain] using ⟨hlength, hentry⟩
  obtain ⟨payload, hvec, hslice, hpayload⟩ := MapBuilder.toVec_reads (MapBuilder.new.array
    SessionKey.stageItems (items.map fun entry ↦ (stageMetaMap entry).build)) r rfl hplain
  refine ⟨payload, r, hvec, hslice, r.array_eq_ok.mpr (by simp [r, SessionKey.stageItems]),
    fun bound hbound ↦ ?_⟩
  have hrow : ∀ row ∈ items.map fun entry ↦ (stageMetaMap entry).build,
      (encode row).length ≤ 128 + bound := by
    intro row hmem
    obtain ⟨entry, hentry, rfl⟩ := List.mem_map.mp hmem
    calc
      _ ≤ 128 + (utf8 entry.preview).length := stageMetaMap_length_le entry
      _ ≤ 128 + bound := Nat.add_le_add_left (hbound entry hentry) 128
  have hrows := encodeItems_length_le hrow
  rw [List.length_map] at hrows
  have hitems := head_length_le 4 items.length
  have hmap := encode_integerMap_length_le r.entries
  rw [hpayload]
  simp only [r, List.map_cons, List.map_nil, List.sum_cons, List.sum_nil, encode,
    List.length_append, List.length_map] at hmap ⊢
  omega

theorem stageItemMap_reads {clip : StagedClip} (hbody : clip.body.length < 2 ^ 64) :
    ∃ payload r, (((MapBuilder.new.bytes SessionKey.itemId clip.stageId.toList).u64
        SessionKey.itemType clip.contentType.toUInt8.toUInt64).bytes SessionKey.itemBody
        clip.body).toVec = .ok payload ∧ MapReader.fromSlice payload = .ok r ∧
      readStageItem r = some (clip.stageId, clip.contentType.toUInt8.toUInt64, clip.body) ∧
      payload.length ≤ 128 + clip.body.length := by
  have hct := clip.contentType.toUInt8.toNat_lt
  let r : MapReader := ⟨[(1, .bytes clip.stageId.toList),
    (2, .integer clip.contentType.toUInt8.toUInt64.toNat), (3, .bytes clip.body)], by simp⟩
  have hplain : Plain 8 (integerMap r.entries) := by
    simp [integerMap, r, Plain]
    omega
  obtain ⟨payload, hvec, hslice, hpayload⟩ := MapBuilder.toVec_reads
    (((MapBuilder.new.bytes SessionKey.itemId clip.stageId.toList).u64 SessionKey.itemType
      clip.contentType.toUInt8.toUInt64).bytes SessionKey.itemBody clip.body) r rfl hplain
  have hid : r.byteArray 8 SessionKey.itemId = .ok clip.stageId :=
    r.byteArray_eq_ok.mpr (by simp [r, SessionKey.itemId])
  have htype : r.u64 SessionKey.itemType = .ok clip.contentType.toUInt8.toUInt64 :=
    r.u64_eq_ok.mpr (by simp [r, SessionKey.itemType])
  have hread : r.bytes SessionKey.itemBody = .ok clip.body :=
    r.bytes_eq_ok.mpr (by simp [r, SessionKey.itemBody])
  refine ⟨payload, r, hvec, hslice, by rw [readStageItem, hid, htype, hread], ?_⟩
  have htype' := encode_integer_length_le clip.contentType.toUInt8.toUInt64.toNat
  have hid' := encode_bytes_length_le clip.stageId.toList
  rw [clip.stageId.toList_length] at hid'
  have hbody' := encode_bytes_length_le clip.body
  have hmap := encode_integerMap_length_le r.entries
  rw [hpayload]
  simp only [r, List.map_cons, List.map_nil, List.sum_cons, List.sum_nil] at hmap ⊢
  omega

/-! ## Errors -/

/-- The map of an ERROR frame. -/
def wireErrorMap (code : WireErrorCode) (msg : String) : MapBuilder :=
  (MapBuilder.new.u64 SessionKey.errCode code.toUInt16.toUInt64).text SessionKey.errMsg msg

theorem wireErrorMap_reads (code : WireErrorCode) {msg : String}
    (hmsg : (utf8 msg).length < 2 ^ 64) :
    ∃ payload r, (wireErrorMap code msg).toVec = .ok payload ∧
      MapReader.fromSlice payload = .ok r ∧
      r.u64 SessionKey.errCode = .ok code.toUInt16.toUInt64 ∧
      r.text SessionKey.errMsg = .ok msg ∧ payload.length ≤ (utf8 msg).length + 64 := by
  have hcode := code.toUInt16.toNat_lt
  let r : MapReader :=
    ⟨[(1, .integer code.toUInt16.toUInt64.toNat), (2, .text msg)], by simp⟩
  have hplain : Plain 8 (integerMap r.entries) := by
    simp [integerMap, r, Plain]
    omega
  obtain ⟨payload, hvec, hslice, hpayload⟩ :=
    MapBuilder.toVec_reads (wireErrorMap code msg) r rfl hplain
  refine ⟨payload, r, hvec, hslice, ?_, ?_, ?_⟩
  · exact r.u64_eq_ok.mpr (by simp [r, SessionKey.errCode])
  · exact r.text_eq_ok.mpr (by simp [r, SessionKey.errMsg])
  · have hcode := encode_integer_length_le code.toUInt16.toUInt64.toNat
    have htext := encode_text_length_le msg
    have hmap := encode_integerMap_length_le r.entries
    rw [hpayload]
    simp only [r, List.map_cons, List.map_nil, List.sum_cons, List.sum_nil] at hmap ⊢
    omega

end Session

end Maps

/-! ## Sealed frames -/

section Sealing

variable [Primitives]

/-- ChaCha20-Poly1305 refuses only messages and associated data of `2 ^ 32 - 1` blocks or more. -/
class AeadAvailable [Primitives] : Prop where
  encrypt_isSome : ∀ key nonce {message aad : Bytes}, message.length / 64 < 2 ^ 32 - 1 →
    aad.length / 64 < 2 ^ 32 - 1 → (Primitives.aeadEncrypt key nonce message aad).isSome

/-- What a frame carries for the holder of a key. -/
def Frame.plainUnder (key : Key32) (frame : Frame) : Option Bytes :=
  Primitives.aeadDecrypt key (AeadChannel.nonceFor (counterOf frame)) (frame.payload.drop 8)
    (AeadChannel.aadFor frame.ty)

/-- A sealed payload carries its plaintext, and only the counter has moved. -/
theorem AeadChannel.sealPayload_ok [AeadCorrect] {channel channel' : AeadChannel} {ty : FrameType}
    {plain payload : Bytes} (h : channel.sealPayload ty plain = (.ok payload, channel')) :
    (⟨ty, payload⟩ : Frame).plainUnder channel.tx.key = some plain ∧
      channel'.tx.key = channel.tx.key ∧ channel'.rx = channel.rx := by
  obtain ⟨ct, hencrypt, -, rfl, rfl⟩ := sealPayload_eq_ok h
  refine ⟨?_, rfl, rfl⟩
  rw [Frame.plainUnder, counterOf_append]
  dsimp only
  rw [List.drop_left' (length_le64 _)]
  exact AeadCorrect.decrypt_encrypt hencrypt

/-- Sealing succeeds on every message the cipher takes, until the counter is exhausted. -/
theorem AeadChannel.sealPayload_available [AeadAvailable] (channel : AeadChannel) (ty : FrameType)
    {plain : Bytes} (hctr : channel.tx.ctr.toNat + 1 < 2 ^ 64)
    (hplain : plain.length / 64 < 2 ^ 32 - 1) :
    ∃ payload channel', channel.sealPayload ty plain = (.ok payload, channel') := by
  obtain ⟨ct, hct⟩ := Option.isSome_iff_exists.mp (AeadAvailable.encrypt_isSome channel.tx.key
    (nonceFor channel.tx.ctr) hplain (by simp [aadFor] : (aadFor ty).length / 64 < 2 ^ 32 - 1))
  have hseal : channel.sealPayload ty plain = (.ok (le64 channel.tx.ctr ++ ct),
      { channel with tx := { channel.tx with ctr := channel.tx.ctr + 1 } }) := by
    simp only [sealPayload, hct, checkedSucc, if_pos hctr]
  exact ⟨_, _, hseal⟩

namespace Session

theorem sealFrame_ok [AeadCorrect] {session session' : Session} {channel : AeadChannel}
    {ty : FrameType} {plain : Bytes} {frame : Frame} (hchannel : session.channel = some channel)
    (h : session.sealFrame ty plain = (.ok frame, session')) :
    frame.ty = ty ∧ frame.plainUnder channel.tx.key = some plain ∧
      ∃ channel', session' = { session with channel := some channel' } ∧
        channel'.tx.key = channel.tx.key ∧ channel'.rx = channel.rx := by
  obtain ⟨channel₀, payload, channel', hchannel₀, hpayload, rfl, rfl⟩ := sealFrame_eq_ok h
  cases hchannel.symm.trans hchannel₀
  obtain ⟨hplain, hkey, hrx⟩ := AeadChannel.sealPayload_ok hpayload
  exact ⟨rfl, hplain, channel', rfl, hkey, hrx⟩

theorem sealFrame_available [AeadAvailable] {session : Session} {channel : AeadChannel}
    (ty : FrameType) {plain : Bytes} (hchannel : session.channel = some channel)
    (hctr : channel.tx.ctr.toNat + 1 < 2 ^ 64) (hplain : plain.length / 64 < 2 ^ 32 - 1) :
    ∃ frame session', session.sealFrame ty plain = (.ok frame, session') := by
  obtain ⟨payload, channel', hseal⟩ := channel.sealPayload_available ty hctr hplain
  have hframe : session.sealFrame ty plain =
      (.ok ⟨ty, payload⟩, { session with channel := some channel' }) := by
    simp only [sealFrame, hchannel, hseal]
  exact ⟨_, _, hframe⟩

end Session

end Sealing

namespace Reference

scoped instance aeadAvailable : AeadAvailable where
  encrypt_isSome _ _ _ _ _ _ := rfl

/-- The two sessions after the handshake. -/
def phoneSession : Session :=
  ((Session.phoneOpened phoneIdentity pcPeer 0 (.fromSeed (pad 32 [7]))).onFrame helloAckFrame 0
    none).1

def pcSession : Session :=
  ((Session.newPc pcIdentity [phonePeer] 0).onFrame helloFrame 0 (some (pad 32 [11]))).1

end Reference

end AirClip
