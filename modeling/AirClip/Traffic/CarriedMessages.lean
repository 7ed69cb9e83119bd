import AirClip.Traffic.BeamParties

/-!
# What frames carry

A frame sealed for a message carries it under the key of the channel.  Whenever the peer opens such a
frame, be it late or out of turn, it emits nothing but the event of the message.  The operations of the
phone settle on such events, or on the reason a session closes with.
-/

open Foundation Cbor

namespace AirClip

section Frames

variable [Primitives]

namespace Session

variable {txKey rxKey : Key32} {session : Session} [Ciborium]

/-- Once the session has been established, an event comes of a frame of its type that opens. -/
theorem Keyed.emit (h : session.Keyed txKey rxKey) {frame : Frame} {nowMs : UInt64}
    {seed : Option Key32} {event : SessionEvent}
    (hemit : .emit event ∈ (session.onFrame frame nowMs seed).2) :
    event.ty = frame.ty ∧ ∃ plain, frame.plainUnder rxKey = some plain ∧
      ∃ opened : Session, .emit event ∈ (opened.onPlain frame.ty plain).2 := by
  have hreception := onFrame_cases h.coherent frame nowMs seed
  obtain ⟨channel, hchannel, -, -⟩ := h.channel
  generalize session.onFrame frame nowMs seed = result at hreception hemit
  cases hreception with
  | refused => simp at hemit
  | greeted hstate => exact absurd (h.coherent.channel_none (.inl hstate)) (by simp [hchannel])
  | acknowledged hstate => exact absurd (h.coherent.channel_none (.inr hstate)) (by simp [hchannel])
  | @opened channel opened plain hstate hencrypted hchannel hopen =>
    exact ⟨onPlain_emit_ty hemit, plain,
      h.plainUnder (opens_eq_some hstate hencrypted hchannel hopen), _, hemit⟩

end Session

/-! ## Messages -/

/-- The frame carries the message for the holder of the key. -/
structure Frame.Carries [Ciborium] (key : Key32) (frame : Frame) (message : Message) : Prop where
  ty : frame.ty = message.ty
  plain : ∃ plain, message.payload = .ok plain ∧ frame.plainUnder key = some plain

namespace Session

variable {txKey rxKey : Key32} {session : Session} [Ciborium] [AeadCorrect]

theorem Keyed.transmit (h : session.Keyed txKey rxKey) {session' : Session} {message : Message}
    {frame : Frame} (htransmit : session.transmit message = (.ok frame, session')) :
    frame.Carries txKey message := by
  obtain ⟨plain, later, hpayload, hseal, -⟩ := transmit_eq_ok htransmit
  obtain ⟨channel, hchannel, htx, -⟩ := h.channel
  obtain ⟨hty, hplain, -⟩ := sealFrame_ok hchannel hseal
  exact ⟨hty, plain, hpayload, htx ▸ hplain⟩

omit [AeadCorrect] in
/-- The keys stay when a message is sealed. -/
theorem Keyed.transmitted (h : session.Keyed txKey rxKey) {message : Message}
    (hmessage : ∀ code msg, message ≠ .error code msg) :
    (session.transmit message).2.Keyed txKey rxKey := by
  have hperform (call : Call) (result : Except Error Frame × Session)
      (hcall : session.perform call = returned result) : result.2.Keyed txKey rxKey := by
    have hlater := h.perform call
    obtain ⟨failure | frame, later⟩ := result <;> rw [hcall] at hlater <;> exact hlater
  cases message with
  | clipPush clipId contentType body sourceName createdAtMs =>
    exact hperform (.pushClipWithId clipId contentType body sourceName createdAtMs) _ rfl
  | stageListReq => exact hperform .requestStageList _ rfl
  | stageGet stageId => exact hperform (.requestStageItem stageId) _ rfl
  | stageList items => exact hperform (.sendStageList items) _ rfl
  | stageItem clip => exact hperform (.sendStageItem clip) _ rfl
  | ping => exact hperform .ping _ rfl
  | error code msg => exact absurd rfl (hmessage code msg)

variable [Ciborium.Lawful]

omit [AeadCorrect] in
/-- The payload of a message makes whichever session opens it emit the event of the message. -/
theorem onPlain_emits {message : Message} (hadmissible : message.Admissible) {plain : Bytes}
    (hpayload : message.payload = .ok plain) {event : SessionEvent}
    (hemit : .emit event ∈ (session.onPlain message.ty plain).2) : event ∈ message.events := by
  cases message with
  | clipPush clipId contentType body sourceName createdAtMs =>
    have hmax : maxTextClip = 262144 := rfl
    obtain ⟨hbody, hname⟩ := hadmissible
    obtain ⟨payload, r, hvec, hslice, hread, hcreated, hsource⟩ := clipPushMap_reads clipId
      contentType createdAtMs (show body.length < 2 ^ 64 by omega) hname
    cases hpayload.symm.trans hvec
    change _ ∈ (session.onClipPush plain).2 at hemit
    have hreceipt := session.onClipPush_cases plain
    generalize session.onClipPush plain = result at hreceipt hemit
    cases hreceipt with
    | received hslice' hread' _ _ htype =>
      cases hslice.symm.trans hslice'
      cases hread.symm.trans hread'
      cases (contentTypeOf_toUInt8 contentType).symm.trans htype
      rw [hcreated, hsource] at hemit
      simpa [Message.events, Except.toOption] using hemit
    | paused | oversize => exact absurd hemit (session.not_emit_wireError _ _ _)
    | refused => exact absurd hemit (session.not_emit_fail _ _)
  | stageListReq =>
    cases List.mem_singleton.mp hemit
    exact List.mem_singleton_self _
  | stageGet stageId =>
    obtain ⟨payload, r, hvec, hslice, hid, -⟩ := stageGetMap_reads stageId
    cases hpayload.symm.trans hvec
    change _ ∈ (session.onStageGet plain).2 at hemit
    simp only [onStageGet, hslice, hid, List.mem_singleton, SessionAction.emit.injEq] at hemit
    exact List.mem_singleton.mpr hemit
  | stageList items =>
    obtain ⟨payload, r, hvec, hslice, harray, -⟩ := stageListMap_reads hadmissible.1 hadmissible.2
    cases hpayload.symm.trans hvec
    change _ ∈ (session.onStageList plain).2 at hemit
    simp only [onStageList, hslice, harray, mapM_readStageMeta, List.mem_singleton,
      SessionAction.emit.injEq] at hemit
    exact List.mem_singleton.mpr hemit
  | stageItem clip =>
    obtain ⟨payload, r, hvec, hslice, hread, -⟩ := stageItemMap_reads hadmissible
    cases hpayload.symm.trans hvec
    change _ ∈ (session.onStageItem plain).2 at hemit
    simp only [onStageItem, hslice, hread, contentTypeOf_toUInt8, List.mem_singleton,
      SessionAction.emit.injEq] at hemit
    exact List.mem_singleton.mpr hemit
  | ping =>
    have hty := onPlain_emit_ty hemit
    cases event <;> cases hty
  | error code msg =>
    obtain ⟨payload, r, hvec, hslice, hcode, hmsg, -⟩ := wireErrorMap_reads code hadmissible
    have hplain : plain = payload := by
      have heq := Except.ok.inj hpayload
      rw [hvec] at heq
      exact heq.symm
    simp only [Message.ty, onPlain, onError, hplain, hslice, hcode, hmsg, Except.toOption,
      Option.getD_some, List.mem_cons, SessionAction.emit.injEq, reduceCtorEq, List.not_mem_nil,
      or_false] at hemit
    rw [hemit]
    cases code <;> exact List.mem_singleton_self _

omit [AeadCorrect] in
/-- Whenever a frame that carries a message is handled, nothing but its event comes of it. -/
theorem Keyed.emits (h : session.Keyed txKey rxKey) {frame : Frame} {message : Message}
    (hcarries : frame.Carries rxKey message) (hadmissible : message.Admissible) {nowMs : UInt64}
    {seed : Option Key32} {event : SessionEvent}
    (hemit : .emit event ∈ (session.onFrame frame nowMs seed).2) : event ∈ message.events := by
  obtain ⟨-, plain, hplain, opened, hopened⟩ := h.emit hemit
  obtain ⟨plain', hpayload, hplain'⟩ := hcarries.plain
  cases hplain.symm.trans hplain'
  rw [hcarries.ty] at hopened
  exact onPlain_emits hadmissible hpayload hopened

end Session

/-! ## Why a session closes -/

/-- The text a call for an item returns when the item is gone. -/
def noLongerStaged : String := "clip no longer staged"

namespace Session

omit [Primitives] in
theorem readStageMeta_error {v : Value} {why : String} (h : readStageMeta v = .error why) :
    why ≠ noLongerStaged := by
  unfold readStageMeta at h
  repeat' split at h
  all_goals cases h <;> decide

omit [Primitives] in
theorem mapM_readStageMeta_error {items : List Value} {why : String}
    (h : items.mapM readStageMeta = .error why) : why ≠ noLongerStaged := by
  induction items with
  | nil => cases h
  | cons first items ih =>
    rw [List.mapM_cons] at h
    cases hfirst : readStageMeta first with
    | error failure =>
      rw [hfirst] at h
      cases h
      exact readStageMeta_error hfirst
    | ok entry =>
      rw [hfirst] at h
      cases hrest : items.mapM readStageMeta with
      | error failure =>
        rw [hrest] at h
        cases h
        exact ih hrest
      | ok rest =>
        rw [hrest] at h
        cases h

variable {session : Session}

theorem not_close_fail {why : String} (hne : why ≠ noLongerStaged) :
    .close noLongerStaged ∉ (session.fail why).2 := by
  rw [fail, List.mem_singleton, SessionAction.close.injEq]
  exact hne.symm

variable [Ciborium]

theorem not_close_wireError (code : WireErrorCode) {msg : String} (hne : msg ≠ noLongerStaged) :
    .close noLongerStaged ∉ (session.wireError code msg).2 := by
  rw [wireError_sealFrame]
  generalize session.sealFrame .error _ = result
  obtain ⟨failure | sealed, later⟩ := result <;> simp [hne.symm]

/-- No session closes for the reason that an item is gone. -/
theorem onPlain_not_close (ty : FrameType) (plain : Bytes) :
    .close noLongerStaged ∉ (session.onPlain ty plain).2 := by
  cases ty with
  | clipPush =>
    change _ ∉ (session.onClipPush plain).2
    unfold onClipPush
    repeat' split
    all_goals first
      | exact not_close_fail (by decide)
      | exact not_close_wireError _ (by decide)
      | simp
  | clipAck =>
    change _ ∉ (session.onClipAck plain).2
    unfold onClipAck
    repeat' split
    all_goals first | exact not_close_fail (by decide) | simp
  | stageList =>
    change _ ∉ (session.onStageList plain).2
    unfold onStageList
    split
    · exact not_close_fail (by decide)
    split
    · exact not_close_fail (by decide)
    split
    · next hread => exact not_close_fail (mapM_readStageMeta_error hread)
    · simp
  | stageGet =>
    change _ ∉ (session.onStageGet plain).2
    unfold onStageGet
    repeat' split
    all_goals first | exact not_close_fail (by decide) | simp
  | stageItem =>
    change _ ∉ (session.onStageItem plain).2
    unfold onStageItem
    repeat' split
    all_goals first | exact not_close_fail (by decide) | simp
  | ping =>
    change _ ∉ session.onPing.2
    unfold onPing
    split
    · simp
    · exact not_close_fail (by decide)
  | error =>
    have hne : noLongerStaged ≠ "peer sent ERROR" := by decide
    simp [onPlain, onError, hne]
  | stageListReq | pong => simp [onPlain]
  | hello | helloAck | pairReq | pairAck | pairConfirm => exact not_close_fail (by decide)

theorem Keyed.not_close {txKey rxKey : Key32} (h : session.Keyed txKey rxKey) (frame : Frame)
    (nowMs : UInt64) (seed : Option Key32) :
    .close noLongerStaged ∉ (session.onFrame frame nowMs seed).2 := by
  obtain ⟨channel, hchannel, -, -⟩ := h.channel
  unfold onFrame
  split_ifs with hclosed
  · have hne : noLongerStaged ≠ "frame after close" := by decide
    simp [hne]
  have hstate : session.state = .established := h.begun.resolve_right hclosed
  simp only [hstate]
  split_ifs
  · unfold onEncrypted
    simp only [hchannel]
    split
    · exact not_close_fail (by decide)
    · exact onPlain_not_close _ _
  · exact not_close_fail (by decide)

end Session

end Frames

/-! ## What a call settles on -/

namespace Connection

theorem stageListSettles_ok {items : List StageMeta} {actions : List SessionAction}
    (h : stageListSettles actions = some (.ok items)) : .emit (.stageList items) ∈ actions := by
  induction actions with
  | nil => cases h
  | cons action actions ih =>
    cases action with
    | send => exact List.mem_cons_of_mem _ (ih h)
    | close => cases h
    | emit event =>
      cases event with
      | stageList =>
        cases h
        exact List.mem_cons_self
      | peerError => cases h
      | established | clipArrived | clipAcked | stageListRequested | stageItemRequested | stageItem =>
        exact List.mem_cons_of_mem _ (ih h)

theorem stageItemSettles_ok {stageId : Octets 8} {contentType : ContentType} {body : Bytes}
    {actions : List SessionAction}
    (h : stageItemSettles stageId actions = some (.ok (contentType, body))) :
    .emit (.stageItem stageId contentType body) ∈ actions := by
  induction actions with
  | nil => cases h
  | cons action actions ih =>
    cases action with
    | send => exact List.mem_cons_of_mem _ (ih h)
    | close => cases h
    | emit event =>
      cases event with
      | stageItem got contentType' body' =>
        rw [stageItemSettles] at h
        split_ifs at h with hgot
        · cases h
          rw [hgot]
          exact List.mem_cons_self
        · exact List.mem_cons_of_mem _ (ih h)
      | stageList => cases h
      | established | clipArrived | clipAcked | stageListRequested | stageItemRequested | peerError =>
        exact List.mem_cons_of_mem _ (ih h)

/-- An item is said to be gone on a list, unless the session closes for that very reason. -/
theorem stageItemSettles_rejected {stageId : Octets 8} {why : String} {actions : List SessionAction}
    (h : stageItemSettles stageId actions = some (.error (.rejected why))) :
    (∃ items, .emit (.stageList items) ∈ actions) ∨ .close why ∈ actions := by
  induction actions with
  | nil => cases h
  | cons action actions ih =>
    have hlater (hrest : stageItemSettles stageId actions = some (.error (.rejected why))) :
        (∃ items, .emit (.stageList items) ∈ action :: actions) ∨ .close why ∈ action :: actions :=
      (ih hrest).imp (fun ⟨items, hmem⟩ ↦ ⟨items, List.mem_cons_of_mem _ hmem⟩)
        (List.mem_cons_of_mem _)
    cases action with
    | send => exact hlater h
    | close =>
      cases h
      exact .inr List.mem_cons_self
    | emit event =>
      cases event with
      | stageItem got contentType body =>
        rw [stageItemSettles] at h
        split_ifs at h
        · cases h
        · exact hlater h
      | stageList items => exact .inl ⟨items, List.mem_cons_self⟩
      | established | clipArrived | clipAcked | stageListRequested | stageItemRequested | peerError =>
        exact hlater h

end Connection

end AirClip
