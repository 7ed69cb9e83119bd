import AirClip.Traffic.ClipReceipt

/-!
# Integer fields of inbound messages

The status of a CLIP_ACK, the sizes of a STAGE_LIST and the code of an ERROR are narrower than the
integers a payload can hold.  A decoder that keeps to them refuses whatever does not fit.  The
decoders of the session narrow by wrapping around, and read a missing status or code as zero, so they
keep to them on exactly the payloads whose fields are present and fit.
-/

open Foundation Cbor

namespace AirClip

/-- A field holds this unsigned integer. -/
def MapReader.Holds (r : MapReader) (key : UInt64) (n : ℕ) : Prop := r.get key = .ok (.integer n)

/-- A field is present, but not as an unsigned integer of this many bits. -/
def MapReader.Misfit (r : MapReader) (key : UInt64) (bits : ℕ) : Prop :=
  ∃ v, r.get key = .ok v ∧ ∀ n < 2 ^ bits, v ≠ .integer (n : ℕ)

theorem MapReader.u64_eq_ok_iff_holds (r : MapReader) {key n : UInt64} :
    r.u64 key = .ok n ↔ r.Holds key n.toNat := by
  rw [r.u64_eq_ok, Holds, r.get_eq_ok]

theorem MapReader.Holds.unique {r : MapReader} {key : UInt64} {n n' : ℕ} (h : r.Holds key n)
    (h' : r.Holds key n') : n = n' := by
  have hvalue := Except.ok.inj (h.symm.trans h')
  exact Int.ofNat.inj (Value.integer.inj hvalue)

/-- A field that holds an integer of this width is no misfit. -/
theorem MapReader.Holds.not_misfit {r : MapReader} {key : UInt64} {n bits : ℕ} (h : r.Holds key n)
    (hn : n < 2 ^ bits) : ¬ r.Misfit key bits := by
  rintro ⟨v, hget, hmisfit⟩
  exact hmisfit n hn (Except.ok.inj (hget.symm.trans h))

/-- A field that holds an integer of 64 bits reads as that integer, whatever the default. -/
theorem MapReader.Holds.read {r : MapReader} {key default : UInt64} {n : ℕ} (h : r.Holds key n)
    (hn : n < 2 ^ 64) : ((r.u64 key).toOption.getD default).toNat = n := by
  have hnat : (UInt64.ofNat n).toNat = n := UInt64.toNat_ofNat_of_lt' hn
  rw [r.u64_eq_ok_iff_holds.mpr (by rwa [hnat] : r.Holds key (UInt64.ofNat n).toNat)]
  exact hnat

/-! ## Rows of a staged list -/

/-- The size a row of a staged list states. -/
def StatesSize (row : Value) (n : ℕ) : Prop :=
  ∃ m, MapReader.fromValue row = .ok m ∧ m.Holds SessionKey.stageMetaSize n

/-- A row of a staged list all of whose fields can be read, with the size it states. -/
def IsRow (row : Value) (size : UInt64) : Prop :=
  ∃ m stageId ct contentType preview copiedAtMs, MapReader.fromValue row = .ok m ∧
    m.byteArray 8 SessionKey.stageMetaId = .ok stageId ∧
    m.u64 SessionKey.stageMetaType = .ok ct ∧ contentTypeOf ct = some contentType ∧
    m.text SessionKey.stageMetaPreview = .ok preview ∧
    m.u64 SessionKey.stageMetaSize = .ok size ∧
    m.u64 SessionKey.stageMetaCopiedAt = .ok copiedAtMs

theorem IsRow.statesSize {row : Value} {size : UInt64} (h : IsRow row size) :
    StatesSize row size.toNat := by
  obtain ⟨m, _, _, _, _, _, hvalue, -, -, -, -, hsize, -⟩ := h
  exact ⟨m, hvalue, m.u64_eq_ok_iff_holds.mp hsize⟩

theorem StatesSize.unique {row : Value} {n n' : ℕ} (h : StatesSize row n) (h' : StatesSize row n') :
    n = n' := by
  obtain ⟨m, hvalue, hsize⟩ := h
  obtain ⟨m', hvalue', hsize'⟩ := h'
  cases hvalue.symm.trans hvalue'
  exact hsize.unique hsize'

/-- A row is read exactly if all its fields are, and its size is narrowed to 32 bits. -/
theorem readStageMeta_cases (row : Value) :
    (∃ why, Session.readStageMeta row = .error why ∧ ∀ size, ¬ IsRow row size) ∨
    ∃ size entry, Session.readStageMeta row = .ok entry ∧ IsRow row size ∧
      entry.size = size.toUInt32 := by
  unfold Session.readStageMeta
  split
  · next hvalue =>
    refine .inl ⟨_, rfl, ?_⟩
    rintro size ⟨m, _, _, _, _, _, hok, -⟩
    rw [hvalue] at hok
    cases hok
  next m hvalue =>
  split
  · next stageId ct preview size copiedAtMs hid hct hpreview hsize hcopied =>
    split
    · next hnone =>
      refine .inl ⟨_, rfl, ?_⟩
      rintro _ ⟨m', _, ct', _, _, _, hok, -, hct', hsome, -⟩
      cases hvalue.symm.trans hok
      cases hct.symm.trans hct'
      rw [hnone] at hsome
      cases hsome
    · next contentType hsome =>
      exact .inr ⟨size, _, rfl, ⟨m, stageId, ct, contentType, preview, copiedAtMs, hvalue, hid, hct,
        hsome, hpreview, hsize, hcopied⟩, rfl⟩
  · next hmissing =>
    refine .inl ⟨_, rfl, ?_⟩
    rintro size ⟨m', stageId, ct, _, preview, copiedAtMs, hok, hid, hct, -, hpreview, hsize, hcopied⟩
    cases hvalue.symm.trans hok
    exact hmissing stageId ct preview size copiedAtMs hid hct hpreview hsize hcopied

/-- A list of rows is read exactly if every row is. -/
theorem mapM_readStageMeta_cases (rows : List Value) :
    (∃ why, rows.mapM Session.readStageMeta = .error why ∧ ∃ row ∈ rows, ∀ size, ¬ IsRow row size) ∨
    ∃ items, rows.mapM Session.readStageMeta = .ok items ∧ (∀ row ∈ rows, ∃ size, IsRow row size) ∧
      List.Forall₂ (fun row (entry : StageMeta) ↦ ∃ size, IsRow row size ∧
        entry.size = size.toUInt32) rows items := by
  induction rows with
  | nil => exact .inr ⟨[], rfl, by simp, .nil⟩
  | cons row rows ih =>
    rw [List.mapM_cons]
    obtain ⟨why, hread, hbad⟩ | ⟨size, entry, hread, hrow, hsize⟩ := readStageMeta_cases row
    · rw [hread]
      exact .inl ⟨why, rfl, row, List.mem_cons_self, hbad⟩
    obtain ⟨why, hrows, row', hmem, hbad⟩ | ⟨items, hrows, hread', hall⟩ := ih
    · rw [hread, hrows]
      exact .inl ⟨why, rfl, row', List.mem_cons_of_mem _ hmem, hbad⟩
    · rw [hread, hrows]
      exact .inr ⟨entry :: items, rfl, List.forall_mem_cons.mpr ⟨⟨size, hrow⟩, hread'⟩,
        .cons ⟨size, hrow, hsize⟩ hall⟩

/-- The items of a list keep the sizes the rows state exactly if every size fits 32 bits. -/
theorem sizes_kept_iff {rows : List Value} {items : List StageMeta}
    (h : List.Forall₂ (fun row (entry : StageMeta) ↦ ∃ size, IsRow row size ∧
      entry.size = size.toUInt32) rows items) :
    List.Forall₂ (fun row (entry : StageMeta) ↦ StatesSize row entry.size.toNat) rows items ↔
      ∀ row ∈ rows, ∀ size, IsRow row size → size.toNat < 2 ^ 32 := by
  induction h with
  | nil => simp
  | @cons row entry rows items hentry hall ih =>
    obtain ⟨size, hrow, hsize⟩ := hentry
    rw [List.forall₂_cons, ih, List.forall_mem_cons]
    apply and_congr_left
    intro _
    rw [hsize, UInt64.toNat_toUInt32]
    constructor
    · intro hstates size' hrow'
      rw [← hrow'.statesSize.unique hrow.statesSize |>.symm, hrow.statesSize.unique hstates]
      exact Nat.mod_lt _ (by decide)
    · intro hfits
      rw [Nat.mod_eq_of_lt (hfits size hrow)]
      exact hrow.statesSize

/-! ## Messages -/

section Fields

variable [Primitives] [Ciborium]

/-- The map a payload encodes. -/
def IsMap (plain : Bytes) (r : MapReader) : Prop := MapReader.fromSlice plain = .ok r

/-- The integers of an event are those of the payload it was decoded from. -/
def Unaltered (plain : Bytes) : SessionEvent → Prop
  | .clipAcked _ status => ∃ r, IsMap plain r ∧ r.Holds SessionKey.ackStatus status.toNat
  | .stageList items => ∃ r rows, IsMap plain r ∧ r.get SessionKey.stageItems = .ok (.array rows) ∧
      List.Forall₂ (fun row (entry : StageMeta) ↦ StatesSize row entry.size.toNat) rows items
  | .peerError code _ => ∃ r, IsMap plain r ∧ r.Holds SessionKey.errCode code.toNat
  | _ => True

/-- Some integer field of a message is present but of the wrong type or out of range. -/
def HasMisfit (plain : Bytes) : FrameType → Prop
  | .clipAck => ∃ r, IsMap plain r ∧ r.Misfit SessionKey.ackStatus 8
  | .stageList => ∃ r rows, IsMap plain r ∧ r.get SessionKey.stageItems = .ok (.array rows) ∧
      ∃ row ∈ rows, ∃ m, MapReader.fromValue row = .ok m ∧ m.Misfit SessionKey.stageMetaSize 32
  | .error => ∃ r, IsMap plain r ∧ r.Misfit SessionKey.errCode 16
  | _ => False

/-- The events that report a success to the phone. -/
def SessionEvent.IsSuccess : SessionEvent → Prop
  | .clipAcked .. | .stageList _ => True
  | _ => False

/-- No integer field of a message has been altered on its way into an event. -/
structure IntegersKept (ty : FrameType) (plain : Bytes) (result : Session × List SessionAction) :
    Prop where
  unaltered : ∀ event ∈ emittedEvents result.2, Unaltered plain event
  /-- A field of the wrong type or out of range closes the session without a success event. -/
  misfit_refused : HasMisfit plain ty →
    result.1.state = .closed ∧ ∀ event ∈ emittedEvents result.2, ¬ event.IsSuccess
  /-- Status 0 is reported only if the field is present and 0. -/
  zero_present : ∀ clipId, .clipAcked clipId 0 ∈ emittedEvents result.2 →
    ∃ r, IsMap plain r ∧ r.Holds SessionKey.ackStatus 0

/-- The integers of a message are present and fit the fields of its event, unless the message is
malformed elsewhere: a CLIP_ACK without a clip id, or a STAGE_LIST with a row that cannot be read. -/
def Fits (plain : Bytes) : FrameType → Prop
  | .clipAck => ∀ r, IsMap plain r → ∀ clipId, r.byteArray 8 SessionKey.ackClipId = .ok clipId →
      ∃ n < 2 ^ 8, r.Holds SessionKey.ackStatus n
  | .stageList => ∀ r, IsMap plain r → ∀ rows, r.array SessionKey.stageItems = .ok rows →
      (∀ row ∈ rows, ∃ size, IsRow row size) →
        ∀ row ∈ rows, ∀ size, IsRow row size → size.toNat < 2 ^ 32
  | .error => ∃ r, IsMap plain r ∧ ∃ n < 2 ^ 16, r.Holds SessionKey.errCode n
  | _ => True

/-- Status 0 is one of the integers that are not altered. -/
theorem integersKept_of {ty : FrameType} {plain : Bytes} {result : Session × List SessionAction}
    (hunaltered : ∀ event ∈ emittedEvents result.2, Unaltered plain event)
    (hmisfit : HasMisfit plain ty →
      result.1.state = .closed ∧ ∀ event ∈ emittedEvents result.2, ¬ event.IsSuccess) :
    IntegersKept ty plain result :=
  ⟨hunaltered, hmisfit, fun _ hmem ↦ hunaltered _ hmem⟩

namespace Session

theorem integersKept_fail (session : Session) (ty : FrameType) (plain : Bytes) (why : String) :
    IntegersKept ty plain (session.fail why) :=
  integersKept_of (by simp [fail, emittedEvents]) fun _ ↦ ⟨rfl, by simp [fail, emittedEvents]⟩

/-- An event alone keeps its integers if they are those of the payload and no field is a misfit. -/
theorem integersKept_emit (session : Session) {ty : FrameType} {plain : Bytes} {event : SessionEvent}
    (hkept : Unaltered plain event) (hfits : ¬ HasMisfit plain ty) :
    IntegersKept ty plain (session, [.emit event]) :=
  integersKept_of (by simpa [emittedEvents] using hkept) fun hmisfit ↦ absurd hmisfit hfits

theorem unaltered_of_emit {ty : FrameType} {plain : Bytes} {result : Session × List SessionAction}
    (h : IntegersKept ty plain result) {event : SessionEvent} (hmem : .emit event ∈ result.2) :
    Unaltered plain event := h.unaltered event (mem_emittedEvents.mpr hmem)

theorem onClipAck_kept_iff (session : Session) (plain : Bytes) :
    IntegersKept .clipAck plain (session.onClipAck plain) ↔ Fits plain .clipAck := by
  unfold onClipAck
  split
  · next hslice =>
    apply iff_of_true (session.integersKept_fail _ _ _)
    intro r hmap
    cases hslice.symm.trans hmap
  next r hslice =>
  split
  · next hid =>
    apply iff_of_true (session.integersKept_fail _ _ _)
    intro r' hmap clipId hok
    cases hslice.symm.trans hmap
    rw [hid] at hok
    cases hok
  next clipId hid =>
  constructor
  · intro hkept r' hmap clipId' hid'
    cases hslice.symm.trans hmap
    have hunaltered : Unaltered plain (.clipAcked clipId _) :=
      unaltered_of_emit hkept (List.mem_singleton_self _)
    obtain ⟨r', hmap', hstatus⟩ := hunaltered
    cases hslice.symm.trans hmap'
    exact ⟨_, UInt8.toNat_lt _, hstatus⟩
  · intro hfits
    obtain ⟨n, hn, hstatus⟩ := hfits r hslice clipId hid
    refine session.integersKept_emit ⟨r, hslice, ?_⟩ ?_
    · rw [UInt64.toNat_toUInt8, hstatus.read (hn.trans (by decide)), Nat.mod_eq_of_lt hn]
      exact hstatus
    · rintro ⟨r', hmap, hmisfit⟩
      cases hslice.symm.trans hmap
      exact hstatus.not_misfit hn hmisfit

theorem onStageList_kept_iff (session : Session) (plain : Bytes) :
    IntegersKept .stageList plain (session.onStageList plain) ↔ Fits plain .stageList := by
  unfold onStageList
  split
  · next hslice =>
    apply iff_of_true (session.integersKept_fail _ _ _)
    intro r hmap
    cases hslice.symm.trans hmap
  next r hslice =>
  split
  · next harray =>
    apply iff_of_true (session.integersKept_fail _ _ _)
    intro r' hmap rows hok
    cases hslice.symm.trans hmap
    rw [harray] at hok
    cases hok
  next rows harray =>
  have hget : r.get SessionKey.stageItems = .ok (.array rows) := by
    rw [r.get_eq_ok, ← r.array_eq_ok]
    exact harray
  obtain ⟨why, hread, row, hmem, hbad⟩ | ⟨items, hread, hrows, hall⟩ :=
    mapM_readStageMeta_cases rows
  · rw [hread]
    apply iff_of_true (session.integersKept_fail _ _ _)
    intro r' hmap rows' hok hrows
    cases hslice.symm.trans hmap
    cases harray.symm.trans hok
    obtain ⟨size, hrow⟩ := hrows row hmem
    exact absurd hrow (hbad size)
  rw [hread]
  constructor
  · intro hkept r' hmap rows' hok _
    cases hslice.symm.trans hmap
    cases harray.symm.trans hok
    obtain ⟨r', rows', hmap', hget', hsizes⟩ :=
      unaltered_of_emit hkept (List.mem_singleton_self _)
    cases hslice.symm.trans hmap'
    cases hget.symm.trans hget'
    exact (sizes_kept_iff hall).mp hsizes
  · intro hfits
    have hsizes := hfits r hslice rows harray hrows
    refine session.integersKept_emit ⟨r, rows, hslice, hget, (sizes_kept_iff hall).mpr hsizes⟩ ?_
    rintro ⟨r', rows', hmap, hget', row, hmem, m, hvalue, hmisfit⟩
    cases hslice.symm.trans hmap
    cases hget.symm.trans hget'
    obtain ⟨size, hrow⟩ := hrows row hmem
    obtain ⟨m', hvalue', hsize⟩ := hrow.statesSize
    cases hvalue.symm.trans hvalue'
    exact hsize.not_misfit (hsizes row hmem size hrow) hmisfit

theorem onError_kept_iff (session : Session) (plain : Bytes) :
    IntegersKept .error plain (session.onError plain) ↔ Fits plain .error := by
  have hclosed (code : UInt16) (msg : String) (hkept : Unaltered plain (.peerError code msg)) :
      IntegersKept .error plain ({ session with state := .closed },
        [.emit (.peerError code msg), .close "peer sent ERROR"]) :=
    integersKept_of (by simpa [emittedEvents] using hkept) fun _ ↦
      ⟨rfl, by simp [emittedEvents, SessionEvent.IsSuccess]⟩
  unfold onError
  rcases hslice : MapReader.fromSlice plain with failure | r
  · refine iff_of_false (fun hkept ↦ ?_) ?_
    · have hunaltered : Unaltered plain (.peerError 0 "") :=
        unaltered_of_emit hkept List.mem_cons_self
      obtain ⟨r, hmap, -⟩ := hunaltered
      cases hslice.symm.trans hmap
    · rintro ⟨r, hmap, -⟩
      cases hslice.symm.trans hmap
  · constructor
    · intro hkept
      have hunaltered : Unaltered plain (.peerError _ _) :=
        unaltered_of_emit hkept List.mem_cons_self
      obtain ⟨r', hmap, hcode⟩ := hunaltered
      exact ⟨r', hmap, _, UInt16.toNat_lt _, hcode⟩
    · rintro ⟨r', hmap, n, hn, hcode⟩
      cases hslice.symm.trans hmap
      refine hclosed _ _ ⟨r, hslice, ?_⟩
      rw [UInt64.toNat_toUInt16, hcode.read (hn.trans (by decide)), Nat.mod_eq_of_lt hn]
      exact hcode

/-- For a message with integer fields that opens on an established session, the integers of its event
are those of its payload, and fields that do not fit close the session, exactly if all are present and
fit or the message is malformed elsewhere. -/
theorem integers_kept_iff_fit {session : Session} (hstate : session.state = .established)
    {frame : Frame} (hty : frame.ty = .clipAck ∨ frame.ty = .stageList ∨ frame.ty = .error)
    {plain : Bytes} (hopens : session.opens frame = some plain) (nowMs : UInt64)
    (seed : Option Key32) :
    IntegersKept frame.ty plain (session.onFrame frame nowMs seed) ↔ Fits plain frame.ty := by
  have hsome : ∃ channel, session.channel = some channel := by
    unfold opens at hopens
    split at hopens
    · cases hopens
    · next channel hchannel => exact ⟨channel, hchannel⟩
  obtain ⟨channel, hchannel⟩ := hsome
  obtain ⟨_, channel', -, -, heq⟩ :=
    onFrame_opens (coherent_of_established hstate hchannel) hopens nowMs seed
  rw [heq]
  obtain hty | hty | hty := hty <;> rw [hty]
  · exact onClipAck_kept_iff _ plain
  · exact onStageList_kept_iff _ plain
  · exact onError_kept_iff _ plain

end Session

end Fields

namespace Reference

/-- A CLIP_ACK with this status, sealed by the computer. -/
def ackWithStatus (status : UInt64) : Frame :=
  frameOf (pcSession.sealMap .clipAck
    ((MapBuilder.new.bytes SessionKey.ackClipId (pad 8 [1]).toList).u64 SessionKey.ackStatus status))

def ackPlain (status : UInt64) : Bytes := (phoneSession.opens (ackWithStatus status)).getD []

/-- The status field of a payload. -/
def statusField (plain : Bytes) : Option UInt64 :=
  (MapReader.fromSlice plain).toOption.bind fun r ↦ (r.u64 SessionKey.ackStatus).toOption

theorem holds_statusField {plain : Bytes} {status : UInt64} (h : statusField plain = some status)
    {r : MapReader} (hmap : IsMap plain r) : r.Holds SessionKey.ackStatus status.toNat := by
  unfold statusField at h
  rw [show MapReader.fromSlice plain = .ok r from hmap, Except.toOption, Option.bind_some] at h
  rcases hread : r.u64 SessionKey.ackStatus with failure | n
  · rw [hread] at h
    cases h
  · rw [hread] at h
    cases h
    exact r.u64_eq_ok_iff_holds.mp hread

end Reference

open Reference in
/-- Status 1 stays 1. -/
theorem integers_kept_iff_fit_status_one : IntegersKept .clipAck (ackPlain 1)
    (phoneSession.onFrame (ackWithStatus 1) 0 none) := by
  refine (Session.integers_kept_iff_fit (by decide +kernel : phoneSession.state = .established)
    (.inl (by decide +kernel) : (ackWithStatus 1).ty = .clipAck ∨ _)
    (by decide +kernel : phoneSession.opens (ackWithStatus 1) = some (ackPlain 1)) 0 none).mpr ?_
  have hstatus : statusField (ackPlain 1) = some 1 := by decide +kernel
  exact fun r hmap clipId _ ↦ ⟨1, by decide, holds_statusField hstatus hmap⟩

open Reference in
/-- A refusal with status 256 is reported as status 0, which stands for success. -/
theorem status_256_reported_as_success :
    phoneSession.state = .established ∧ (ackWithStatus 256).ty = .clipAck ∧
      phoneSession.opens (ackWithStatus 256) = some (ackPlain 256) ∧
      emittedEvents (phoneSession.onFrame (ackWithStatus 256) 0 none).2 =
        [.clipAcked (pad 8 [1]) 0] ∧
      ¬ IntegersKept .clipAck (ackPlain 256) (phoneSession.onFrame (ackWithStatus 256) 0 none) := by
  have hevents : emittedEvents (phoneSession.onFrame (ackWithStatus 256) 0 none).2 =
      [.clipAcked (pad 8 [1]) 0] := by decide +kernel
  refine ⟨by decide +kernel, by decide +kernel, by decide +kernel, hevents, fun hkept ↦ ?_⟩
  obtain ⟨r, hmap, hzero⟩ := hkept.zero_present (pad 8 [1])
    (by rw [hevents]; exact List.mem_singleton_self _)
  have hstatus : statusField (ackPlain 256) = some 256 := by decide +kernel
  exact absurd (hzero.unique (holds_statusField hstatus hmap)) (by decide)

end AirClip
